import Mathlib.Data.Nat.Find
import PerformancePanel.Guarantees.LinuxRestart

/-!
# Loading any document

`initialize_data_source_binding` on whatever `json_object_from_file` returned. A top-level
value that is no object reaches `json_object_object_add_ex`, and a binding that is the JSON
null reaches `strcmp` as a NULL string, unless a failed save has ended the loading at an
earlier channel. Every other document, of any shape, is loaded to the end or to the first
failed save.
-/
set_option autoImplicit false

namespace PerformancePanel.Guarantees.DocumentSafety
open Source.Common Source.Collector Source.JsonLibrary Source.LinuxReader Source.LinuxLoad
open LinuxRestart (allDone allDone_needed)

/-- The process is not stopped inside a save: each succeeds or is reported failed. -/
def Uninterrupted (saves : Nat → SaveOutcome × SaveOutcome) : Prop :=
  ∀ c written, (saves c).1 ≠ .stopped written ∧ (saves c).2 ≠ .stopped written

/-- Loading completes with one of the two statuses, without undefined behaviour. -/
def Completes (J : JsonC) (saves : Nat → SaveOutcome × SaveOutcome) (count : Nat)
    (d : Json) : Prop :=
  ∃ s, start J saves count (.text (some d)) = .bound s (.returned .success) ∨
    start J saves count (.text (some d)) = .bound s (.returned .invalidConfiguration)

/-- Every save that channel `c` needs succeeds. -/
def SavesDone (d : Json) (saves : Nat → SaveOutcome × SaveOutcome) (c : Nat) : Prop :=
  Needed d (.binding c) (saves c).1 ∧ Needed d (.calibration c) (saves c).2

/-- No null binding is reached: one is only behind a channel whose save fails. -/
def NullsUnreached (saves : Nat → SaveOutcome × SaveOutcome) (count : Nat) (d : Json) : Prop :=
  ∀ c < count, d.get? (Key.binding c).name = some .null → ∃ c' < c, ¬ SavesDone d saves c'

/-- The keys of the channels from `i` on are in the cached document as they are in `d`. -/
def Untouched (d : Json) (i : Nat) (s : Linux) : Prop :=
  ∃ r, loadRoot s = some r ∧ ∀ c, i ≤ c →
    r.get? (Key.binding c).name = d.get? (Key.binding c).name ∧
      r.get? (Key.calibration c).name = d.get? (Key.calibration c).name

section channel
variable {J : JsonC} {d : Json} {count : Nat} {saves : Nat → SaveOutcome × SaveOutcome} {c : Nat}
  {s : Linux}

/-- Only the JSON null has no text. -/
theorem unreadable_iff (J : JsonC) (d : Json) (c : Nat) :
    J.getString (valueAt d (.binding c)) = none ↔ d.get? (Key.binding c).name = some .null := by
  unfold valueAt
  cases d.get? (Key.binding c).name with
  | none =>
    rw [Option.getD_none, Key.initial, getString_string]
    exact iff_of_false (Option.some_ne_none _) (Option.some_ne_none _).symm
  | some value =>
    rw [Option.getD_some, Option.some.injEq]
    by_cases null : value = .null
    · subst null
      exact ⟨fun _ => rfl, fun _ => rfl⟩
    · refine iff_of_false (fun unread => ?_) null
      cases value <;> first | exact null rfl | cases unread

/-- The two halves of a call that goes beyond its binding. -/
theorem getBoundDataSource_halves {r : Json} (loaded : loadRoot s = some r) (object : IsObject r)
    (saves : SaveOutcome × SaveOutcome) :
    ∃ s₁ r₁, s₁.rootObject = some r₁ ∧ IsObject r₁ ∧
      (∀ other, other ≠ channelKey c → r₁.get? other = r.get? other) ∧
      (bindName J saves.1 c { s with rootObject := some r }).1 = s₁ ∧
      ((bindName J saves.1 c { s with rootObject := some r }).2 = .returned .success →
        getBoundDataSource J saves c s = bindCalibration J saves.2 c s₁) := by
  have root : ({ s with rootObject := some r } : Linux).rootObject = some r := rfl
  obtain ⟨r₁, root₁, others⟩ := bindName_others (J := J) root object saves.1 c
  obtain ⟨r₁', ensured⟩ := bindName_ensured (J := J) root object saves.1 c
  have same : r₁' = r₁ := Option.some.inj (ensured.root.symm.trans root₁)
  exact ⟨_, r₁, root₁, same ▸ ensured.object, others, rfl, getBoundDataSource_eq loaded saves c⟩

/-- A successful call leaves the keys of later channels alone. -/
theorem untouched_next {s' : Linux} (before : LoadedUpTo J d count c s)
    (untouched : Untouched d c s)
    (success : getBoundDataSource J (saves c) c s = (s', .returned .success)) :
    Untouched d (c + 1) s' := by
  obtain ⟨r, loaded, keys⟩ := untouched
  obtain ⟨r', loaded', extended, _⟩ := before.document
  have same : r' = r := Option.some.inj (loaded'.symm.trans loaded)
  subst same
  obtain ⟨s₁, r₁, root₁, object₁, others₁, _, continued⟩ :=
    getBoundDataSource_halves (J := J) (c := c) loaded extended.object (saves c)
  have bound : (bindName J (saves c).1 c { s with rootObject := some r' }).2 =
    .returned .success := by
    have whole := success
    unfold getBoundDataSource at whole
    rw [loaded] at whole
    dsimp only at whole
    split at whole
    next called => rw [called]
    next s₂ outcome notSuccess called =>
      rw [Prod.mk.injEq] at whole
      exact absurd whole.2 notSuccess
  rw [continued bound] at success
  obtain ⟨r₂, root₂, others₂⟩ := bindCalibration_others (J := J) root₁ object₁ (saves c).2 c
  rw [success] at root₂
  refine ⟨r₂, loadRoot_cached root₂, fun c' later => ?_⟩
  have other : c' ≠ c := by omega
  have binding : r₂.get? (Key.binding c').name = r'.get? (Key.binding c').name :=
    halves_others others₁ others₂ (by simp [other]) (by simp)
  have calibration : r₂.get? (Key.calibration c').name = r'.get? (Key.calibration c').name :=
    halves_others others₁ others₂ (by simp) (by simp [other])
  rw [binding, calibration]
  exact keys c' (by omega)

/-- A save that is needed but does not succeed is reported failed. -/
theorem failed_of_needed {key : Key} {save : SaveOutcome}
    (running : ∀ written, save ≠ .stopped written)
    (failed : ¬ Needed d key save) : d.get? key.name = none ∧
      ∃ written, save = .failed written := by
  unfold Needed at failed
  rw [Classical.not_imp] at failed
  obtain ⟨missing, notDone⟩ := failed
  refine ⟨missing, ?_⟩
  cases save with
  | done => exact absurd rfl notDone
  | failed written => exact ⟨written, rfl⟩
  | stopped written => exact absurd rfl (running written)

/-- Adding a default whose save is reported failed returns the error status. -/
theorem addDefault_failed {s : Linux} {r : Json} {key : Key} (root : s.rootObject = some r)
    (object : IsObject r) (missing : r.get? key.name = none) (written : Written)
    (commit : Tables → Tables) :
    (addDefault J (.failed written) key.name key.initial commit s).2 =
      .returned .invalidConfiguration := by
  obtain ⟨r', called, _⟩ := addDefault_saves (J := J) root object missing (.failed written) commit
  rw [called]
  rfl

/-- A default binding whose save is reported failed ends the call with an error. -/
theorem bindingSave_failed {r : Json} (loaded : loadRoot s = some r) (object : IsObject r)
    (missing : r.get? (Key.binding c).name = none) {written : Written}
    (save : (saves c).1 = .failed written) :
    (getBoundDataSource J (saves c) c s).2 = .returned .invalidConfiguration := by
  have root : ({ s with rootObject := some r } : Linux).rootObject = some r := rfl
  have member : ({ s with rootObject := some r } : Linux).member? (channelKey c) = none :=
    (member?_of_root root _).trans missing
  have added := addDefault_failed (J := J) root object missing written id
  have named : (bindName J (saves c).1 c { s with rootObject := some r }).2 =
      .returned .invalidConfiguration := by
    rw [bindName, member, save]
    exact added
  unfold getBoundDataSource
  rw [loaded]
  dsimp only
  split
  next called =>
    rw [called] at named
    cases named
  next called =>
    rw [called] at named
    exact named

/-- So does a default calibration, once the binding half has succeeded. -/
theorem calibrationSave_failed {r : Json} (loaded : loadRoot s = some r) (object : IsObject r)
    (bound : (bindName J (saves c).1 c { s with rootObject := some r }).2 = .returned .success)
    (missing : r.get? (Key.calibration c).name = none) {written : Written}
    (save : (saves c).2 = .failed written) :
    (getBoundDataSource J (saves c) c s).2 = .returned .invalidConfiguration := by
  obtain ⟨s₁, r₁, root₁, object₁, others₁, _, continued⟩ :=
    getBoundDataSource_halves (J := J) (c := c) loaded object (saves c)
  have apart : (Key.calibration c).name ≠ channelKey c := fun equal => by
    cases @key_name_injective _ (.binding c) equal
  have missing₁ : r₁.get? (Key.calibration c).name = none := (others₁ _ apart).trans missing
  have member : s₁.member? (calibrationKey c) = none := (member?_of_root root₁ _).trans missing₁
  rw [continued bound, bindCalibration, member, save]
  exact addDefault_failed root₁ object₁ missing₁ written _

/-- A channel with a readable binding and a failing save ends the loading with an error. -/
theorem getBoundDataSource_failed (running : Uninterrupted saves)
    (before : LoadedUpTo J d count c s)
    (untouched : Untouched d c s) (readable : J.getString (valueAt d (.binding c)) ≠ none)
    (failed : ¬ SavesDone d saves c) :
    (getBoundDataSource J (saves c) c s).2 = .returned .invalidConfiguration := by
  obtain ⟨r, loaded, keys⟩ := untouched
  obtain ⟨r', loaded', extended, _⟩ := before.document
  have same : r' = r := Option.some.inj (loaded'.symm.trans loaded)
  subst same
  obtain ⟨binding, calibration⟩ := keys c (le_refl c)
  by_cases bindingDone : Needed d (.binding c) (saves c).1
  · have calibrationFailed : ¬ Needed d (.calibration c) (saves c).2 := fun done =>
      failed ⟨bindingDone, done⟩
    obtain ⟨missing, written, save⟩ := failed_of_needed (fun w => (running c w).2) calibrationFailed
    have root : ({ s with rootObject := some r' } : Linux).rootObject = some r' := rfl
    rw [← extended.values] at readable
    have bound := (bindName_binds root extended.object (bindingDone.extended extended) readable).1
    exact calibrationSave_failed loaded extended.object bound (calibration.trans missing) save
  · obtain ⟨missing, written, save⟩ := failed_of_needed (fun w => (running c w).1) bindingDone
    exact bindingSave_failed loaded extended.object (binding.trans missing) save

end channel

section loading
variable {J : JsonC} {d : Json} {count : Nat} {saves : Nat → SaveOutcome × SaveOutcome}

/-- With every earlier channel readable and saved, the loading ends where a call stops. -/
theorem start_stops (object : IsObject d) {c : Nat} (below : c < count) {outcome : Outcome}
    (earlier : ∀ c' < c, J.getString (valueAt d (.binding c')) ≠ none ∧ SavesDone d saves c')
    (stops : ∀ s, LoadedUpTo J d count c s → Untouched d c s →
      (getBoundDataSource J (saves c) c s).2 = outcome)
    (failure : outcome ≠ .returned .success) :
    ∃ s, start J saves count (.text (some d)) = .bound s outcome := by
  have succeeds : ∀ i s, i < c → LoadedUpTo J d count i s ∧ Untouched d i s →
      ∃ s', getBoundDataSource J (saves i) i s = (s', .returned .success) ∧
        (LoadedUpTo J d count (i + 1) s' ∧ Untouched d (i + 1) s') := by
    intro i s inside before
    obtain ⟨readable, done⟩ := earlier i inside
    obtain ⟨s', called, loaded⟩ :=
      getBoundDataSource_loads (by omega) done.1 done.2 readable before.1
    exact ⟨s', called, loaded, untouched_next before.1 before.2 called⟩
  have holds : Holds (.text (some d)) d := Or.inl rfl
  have fresh_loaded : LoadedUpTo J d count 0 (fresh (.text (some d)) (Tables.zeroed count)) :=
    loadedUpTo_fresh object holds
  have fresh_untouched : Untouched d 0 (fresh (.text (some d)) (Tables.zeroed count)) :=
    ⟨d, loadRoot_of_holds object rfl holds, fun _ _ => ⟨rfl, rfl⟩⟩
  have ended := bindLoop_stops below succeeds (fun s before => stops s before.1 before.2) failure
    (Nat.zero_add count) (Nat.zero_le c) ⟨fresh_loaded, fresh_untouched⟩
  exact ⟨_, start_bound.mpr (Prod.ext rfl ended)⟩

/-- A top-level value that is no object is passed to `json_object_object_add_ex`. -/
theorem start_notAnObject (positive : 0 < count) (nonnull : d ≠ .null) (notObject : ¬ IsObject d) :
    ∃ s, start J saves count (.text (some d)) = .bound s (.fault .notAnObject) := by
  have missing : ∀ key, d.get? key = none := by
    intro key
    cases d with
    | object members => exact absurd ⟨members, rfl⟩ notObject
    | _ => rfl
  have unchangeable : ∀ key value, d.put? key value = none := by
    intro key value
    cases d with
    | object members => exact absurd ⟨members, rfl⟩ notObject
    | _ => rfl
  have read : jsonObjectFromFile (.text (some d)) = some d := by
    cases d with
    | null => exact absurd rfl nonnull
    | _ => rfl
  have first : (getBoundDataSource J (saves 0) 0 (fresh (.text (some d)) (Tables.zeroed count))).2 =
      .fault .notAnObject := by
    simp [getBoundDataSource, loadRoot, fresh, read, bindName, Linux.member?, missing, addDefault,
      Linux.withMember?, unchangeable]
  have ended : (bindLoop (fun channel s => getBoundDataSource J (saves channel) channel s) count 0
      (fresh (.text (some d)) (Tables.zeroed count))).2 = .fault .notAnObject :=
    bindLoop_stops (P := fun _ s => s = fresh (.text (some d)) (Tables.zeroed count)) positive
      (fun i _ negative => absurd negative (Nat.not_lt_zero i)) (fun _ same => same ▸ first)
      (fun equal => by cases equal) (Nat.zero_add count) (le_refl 0) rfl
  exact ⟨_, start_bound.mpr (Prod.ext rfl ended)⟩

theorem not_completes_of_fault {s : Linux} {reason : Fault}
    (faults : start J saves count (.text (some d)) = .bound s (.fault reason)) :
    ¬ Completes J saves count d := by
  rintro ⟨s', success | failure⟩
  · rw [faults] at success
    cases success
  · rw [faults] at failure
    cases failure

/-- The first null binding is reached when every channel before it saves its defaults. -/
theorem nullsUnreached_of_completes (object : IsObject d) (completes : Completes J saves count d) :
    NullsUnreached saves count d := by
  intro c below null
  by_contra reached
  have earlierDone : ∀ c' < c, SavesDone d saves c' := by
    intro c' before
    by_contra undone
    exact reached ⟨c', before, undone⟩
  have someNull : ∃ c, d.get? (Key.binding c).name = some .null := ⟨c, null⟩
  classical
  let first := Nat.find someNull
  have firstNull : J.getString (valueAt d (.binding first)) = none :=
    (unreadable_iff J d first).mpr (Nat.find_spec someNull)
  have firstLe : first ≤ c := Nat.find_min' someNull null
  have earlier : ∀ c' < first,
      J.getString (valueAt d (.binding c')) ≠ none ∧ SavesDone d saves c' := by
    intro c' before
    refine ⟨fun unreadable => ?_, earlierDone c' (by omega)⟩
    exact Nat.find_min someNull before ((unreadable_iff J d c').mp unreadable)
  obtain ⟨s, faults⟩ := start_stops object (Nat.lt_of_le_of_lt firstLe below) earlier
    (fun _ loaded _ => getBoundDataSource_null loaded firstNull) nofun
  exact not_completes_of_fault faults completes

/-- Up to its first channel that is not readable or not saved, an object is loaded; that
channel, if there is one, is behind no null binding and fails to save. -/
theorem completes_of_nullsUnreached (object : IsObject d) (running : Uninterrupted saves)
    (unreached : NullsUnreached saves count d) : Completes J saves count d := by
  by_cases allGood : ∀ c < count,
      J.getString (valueAt d (.binding c)) ≠ none ∧ SavesDone d saves c
  · obtain ⟨s, started, _⟩ := start_loads object (Or.inl rfl) (fun c below => (allGood c below).2)
      fun c below => (allGood c below).1
    exact ⟨s, .inl started⟩
  · have someBad : ∃ c, c < count ∧
        ¬ (J.getString (valueAt d (.binding c)) ≠ none ∧ SavesDone d saves c) := by
      by_contra none
      exact allGood fun c below => by_contra fun bad => none ⟨c, below, bad⟩
    classical
    let first := Nat.find someBad
    obtain ⟨below, bad⟩ : first < count ∧
        ¬ (J.getString (valueAt d (.binding first)) ≠ none ∧ SavesDone d saves first) :=
      Nat.find_spec someBad
    have earlier : ∀ c' < first,
        J.getString (valueAt d (.binding c')) ≠ none ∧ SavesDone d saves c' := by
      intro c' before
      by_contra bad'
      exact Nat.find_min someBad before ⟨by omega, bad'⟩
    have readable : J.getString (valueAt d (.binding first)) ≠ none := by
      intro unreadable
      obtain ⟨c', before, undone⟩ :=
        unreached first below ((unreadable_iff J d first).mp unreadable)
      exact undone (earlier c' before).2
    have undone : ¬ SavesDone d saves first := fun done => bad ⟨readable, done⟩
    obtain ⟨s, failed⟩ := start_stops object below earlier
      (fun _ loaded untouched =>
        getBoundDataSource_failed running loaded untouched readable undone) nofun
    exact ⟨s, .inr failed⟩

/-- Whatever `json_object_from_file` returned: the loading completes without undefined
behaviour exactly when there is no channel, or the document is an object each of whose null
bindings lies behind a failed save. -/
theorem document_completes_iff (J : JsonC) (nonnull : d ≠ .null) (running : Uninterrupted saves)
    (count : Nat) :
    Completes J saves count d ↔ count = 0 ∨ (IsObject d ∧ NullsUnreached saves count d) := by
  constructor
  · intro completes
    by_cases none : count = 0
    · exact .inl none
    · by_cases object : IsObject d
      · exact .inr ⟨object, nullsUnreached_of_completes object completes⟩
      · obtain ⟨s, faults⟩ := start_notAnObject (Nat.pos_of_ne_zero none) nonnull object
        exact absurd completes (not_completes_of_fault faults)
  · rintro (rfl | ⟨object, unreached⟩)
    · exact ⟨_, .inl rfl⟩
    · exact completes_of_nullsUnreached object running unreached

end loading

theorem allDone_uninterrupted : Uninterrupted allDone := fun _ _ => ⟨nofun, nofun⟩

/-- A calibration that is an array, and no binding: loaded to the end. -/
theorem document_completes_otherTypes :
    Completes plain allDone 1 (.object [("calibration0", .array [.null])]) := by
  have nonnull : Json.object [("calibration0", .array [.null])] ≠ .null := nofun
  refine (document_completes_iff plain nonnull allDone_uninterrupted 1).mpr (.inr ⟨⟨_, rfl⟩, ?_⟩)
  intro c below null
  have zero : c = 0 := by omega
  subst zero
  cases null

/-- `{"channel0": null}` passes NULL to `strcmp`, `[]` is passed to
`json_object_object_add_ex`. -/
theorem null_binding_faults :
    ¬ Completes plain allDone 1 (.object [("channel0", .null)]) ∧
      ¬ Completes plain allDone 1 (.array []) := by
  have null : ∃ s, start plain allDone 1 (.text (some (.object [("channel0", .null)]))) =
      .bound s (.fault .nullString) := ⟨_, rfl⟩
  have array : ∃ s, start plain allDone 1 (.text (some (.array []))) =
      .bound s (.fault .notAnObject) := ⟨_, rfl⟩
  obtain ⟨_, null⟩ := null
  obtain ⟨_, array⟩ := array
  exact ⟨not_completes_of_fault null, not_completes_of_fault array⟩

end PerformancePanel.Guarantees.DocumentSafety
