import PerformancePanel.Source.SharedConfig

/-!
# The last to save wins

`get_bound_data_source` reads config.json once in the life of a process, and every save
writes the whole document the process has cached. So once a process has loaded, it sees
nothing of the processes beside it, and each of its accepted changes takes back everything
they have stored since it loaded.
-/
set_option autoImplicit false

namespace PerformancePanel.Guarantees.LastSaver
open Source Source.Common Source.Collector Source.JsonLibrary Source.LinuxReader Source.SharedConfig
open Source.InstalledConsole (goesOn)
open Library Library.Runs Library.SharedCell

/-- The process has its document cached. -/
def Loaded (p : Process) : Prop := ∃ r, p.rootObject = some r

/-- The two calls that store a setting. -/
def Sets : Call → Prop
  | .setChannelSourceBinding _ _ _ => True
  | .setChannelCalibration _ _ _ => True
  | .getBoundDataSource _ _ => False
  | .clearBinding _ => False

/-- The process makes the call, and it returns success. -/
def Accepted (J : JsonC) (call : Call) (p : Process) (file : ConfigFile) : Prop :=
  p.ended = false ∧ (call.perform J ⟨p.rootObject, file, p.tables⟩).2 = .returned .success

section act
variable {J : JsonC} {p : Process}

theorem act_blind (call : Call) (loaded : Loaded p) : Blind (act J) call p := by
  obtain ⟨r, root⟩ := loaded
  cases ended : p.ended with
  | true =>
    have idle : ∀ file, act J call p file = (p, file) := fun _ => if_pos ended
    exact ⟨fun k k' => by rw [idle, idle], Or.inl fun k => by rw [idle]⟩
  | false =>
    obtain ⟨r', t', outcome, written, same⟩ := @perform_blind J r p.tables call
    have acts : ∀ file, act J call p file =
        (⟨some r', t', p.outcomes ++ [outcome], !goesOn outcome⟩, Option.getD written file) := by
      intro file
      simp only [act, ended, root, same, Bool.false_eq_true, if_false]
    refine ⟨fun k k' => by rw [acts, acts], ?_⟩
    cases written with
    | none => exact Or.inl fun k => by rw [acts, Option.getD_none]
    | some content => exact Or.inr ⟨content, fun k => by rw [acts, Option.getD_some]⟩

theorem act_loaded (call : Call) (file : ConfigFile) (loaded : Loaded p) :
    Loaded (act J call p file).1 := by
  obtain ⟨r, root⟩ := loaded
  cases ended : p.ended with
  | true =>
    rw [act, if_pos ended]
    exact ⟨r, root⟩
  | false =>
    obtain ⟨r', t', outcome, written, same⟩ := @perform_blind J r p.tables call
    refine ⟨r', ?_⟩
    simp only [act, ended, root, same, Bool.false_eq_true, if_false]

/-- What a setter has saved is its process's document. -/
theorem setMember_saves {save : SaveOutcome} {key : String} {update : Json → Option Json}
    {commit : Tables → Tables} {s : Linux}
    (accepted : (setMember J save key update commit s).2 = .returned .success) :
    (setMember J save key update commit s).1.file =
    .text (setMember J save key update commit s).1.rootObject := by
  unfold setMember at accepted ⊢
  cases updated : ((s.member? key).bind update).bind (s.withMember? key) with
  | none =>
    rw [updated] at accepted
    cases accepted
  | some d =>
    rw [updated] at accepted
    cases save with
    | done => rfl
    | failed written => cases accepted
    | stopped written => cases accepted

theorem act_saves {call : Call} {file : ConfigFile} (sets : Sets call)
    (accepted : Accepted J call p file) :
    (act J call p file).2 = .text (act J call p file).1.rootObject := by
  obtain ⟨going, success⟩ := accepted
  simp only [act, going, Bool.false_eq_true, if_false]
  cases call with
  | getBoundDataSource saves channel => exact sets.elim
  | setChannelSourceBinding save channel bindingName => exact setMember_saves success
  | clearBinding channel => exact sets.elim
  | setChannelCalibration save channel calibration => exact setMember_saves success

end act

/-- From any state in which a process has loaded, in any order of calls of any number of
processes: it has what it has without the others; a call of it leaves config.json alone or
leaves there what it would have left without them; and an accepted setter leaves there
exactly the document that its process has without them. -/
theorem last_saver_wins (J : JsonC) {s : Processes} {p : Nat} (loaded : Loaded (s.party p))
    (events : List (Nat × Call)) :
    (run (step (act J)) s events).party p = (run (step (act J)) s (own p events)).party p ∧ ∀ call,
      (Overwrites (act J) call ((run (step (act J)) s events).party p) →
        (run (step (act J)) s (events ++ [(p, call)])).cell =
        (run (step (act J)) s (own p events ++ [(p, call)])).cell) ∧
      (¬ Overwrites (act J) call ((run (step (act J)) s events).party p) →
        (run (step (act J)) s (events ++ [(p, call)])).cell = (run (step (act J)) s events).cell) ∧
      (Sets call → Accepted J call ((run (step (act J)) s events).party p)
        (run (step (act J)) s events).cell →
        (run (step (act J)) s (events ++ [(p, call)])).cell =
          .text ((run (step (act J)) s (own p events ++ [(p, call)])).party p).rootObject) := by
  have blind : ∀ call p, Loaded p → Blind (act J) call p :=
    fun call _ loaded => act_blind call loaded
  have keeps : ∀ call p file, Loaded p → Loaded (act J call p file).1 := fun call _ file loaded =>
    act_loaded call file loaded
  have unseen (events : List (Nat × Call)) :
      (run (step (act J)) s events).party p = (run (step (act J)) s (own p events)).party p :=
    run_party blind keeps loaded events
  refine ⟨unseen events, fun call => ?_⟩
  obtain ⟨overwritten, untouched⟩ := run_cell blind keeps loaded events call
  refine ⟨overwritten, untouched, fun sets accepted => ?_⟩
  have listed : own p (events ++ [(p, call)]) = own p events ++ [(p, call)] := by
    simp [own, List.filter_append]
  have same := unseen (events ++ [(p, call)])
  rw [listed] at same
  have acted : (run (step (act J)) s (events ++ [(p, call)])).party p =
      (act J call ((run (step (act J)) s events).party p)
        (run (step (act J)) s events).cell).1 := by
    rw [run_append]
    exact step_own call
  have saved : (run (step (act J)) s (events ++ [(p, call)])).cell =
      (act J call ((run (step (act J)) s events).party p)
        (run (step (act J)) s events).cell).2 := by
    rw [run_append]
    rfl
  rw [← same, acted, saved]
  exact act_saves sets accepted

/-- Two processes that have loaded one missing file, on panels with one channel. -/
def bothLoaded : Processes :=
  run (step (act plain)) (begun .absent fun _ => 1)
    [(0, .getBoundDataSource (.done, .done) 0), (1, .getBoundDataSource (.done, .done) 0)]

def binds : Nat × Call := (1, .setChannelSourceBinding .done 0 Source.Names.calibration)

def calibrates : Call := .setChannelCalibration .done 0 5

/-- The binding one of them has stored is lost when the other recalibrates. -/
theorem stored_binding_lost :
    (run (step (act plain)) bothLoaded [binds]).cell =
        .text (some (.object [("channel0", .string Source.Names.calibration.units),
          ("calibration0", .int 128)])) ∧
      (run (step (act plain)) bothLoaded ([binds] ++ [(0, calibrates)])).cell =
        .text (some (.object [("channel0", .string Source.Names.unallocated.units),
          ("calibration0", .int 5)])) := by
  have loaded : Loaded (bothLoaded.party 0) := ⟨_, rfl⟩
  have accepted : Accepted plain calibrates ((run (step (act plain)) bothLoaded [binds]).party 0)
      (run (step (act plain)) bothLoaded [binds]).cell := ⟨rfl, rfl⟩
  have saved := ((last_saver_wins plain loaded [binds]).2 calibrates).2.2 trivial accepted
  exact ⟨rfl, saved.trans rfl⟩

end PerformancePanel.Guarantees.LastSaver
