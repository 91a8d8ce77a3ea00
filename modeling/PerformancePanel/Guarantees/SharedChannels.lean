import PerformancePanel.Source.SharedRegistry

/-!
# Channels on a shared key

The registry readers store value by value, and ask the key again in every
`get_bound_data_source`. So processes that have one key open, the driver and the control
programs, disturb each other on one channel alone: what the key and all their arrays hold of
a channel, and what their calls on it return, are decided by the calls on that channel.
-/
set_option autoImplicit false

namespace PerformancePanel.Guarantees.SharedChannels
open Source Source.Common Source.DataSources Source.Collector Source.Registry Source.WindowsReader
open Source.SharedRegistry Library Library.Runs Library.SharedCell

/-- What there is of a channel: its two values, each process's entries for it, and what each
process's calls on it have returned. -/
structure ChannelView where
  name : Option (List UInt8)
  calibration : Option (List UInt8)
  callback : Nat → Option Callback
  level : Nat → Option UInt8
  outcomes : Nat → List (Nat × Outcome)

def channelView (channel : Nat) (w : Processes) : ChannelView where
  name := w.cell (channelKey channel)
  calibration := w.cell (calibrationKey channel)
  callback := fun p => (w.party p).tables.callbacks[channel]?
  level := fun p => (w.party p).tables.calibrations[channel]?
  outcomes := fun p => (w.party p).outcomes.filter fun outcome => outcome.1 = channel

/-- Every process has the key open. -/
def AllOpened (w : Processes) : Prop := ∀ p, (w.party p).opened = true

/-- The events on a channel. -/
def onChannel (channel : Nat) (e : Nat × Call) : Bool := e.2.channel = channel

section act

/-- A call is decided by the values of its channel, and sets nothing else. -/
theorem act_effect (call : Call) (value value' : Option (List UInt8)) :
    ∃ e : Effect, ∀ (p : Process) (registry : RegistryKey), p.opened = true →
      registry (channelKey call.channel) = value → registry (calibrationKey call.channel) = value' →
      act call p registry =
        (⟨p.opened, e.tables call.channel p.tables, p.outcomes ++ [(call.channel, e.outcome)]⟩,
          write (calibrationKey call.channel) e.calibration
            (write (channelKey call.channel) e.name registry)) := by
  obtain ⟨e, does⟩ := perform_effect call value value'
  refine ⟨e, fun p registry opened here here' => ?_⟩
  rw [act, does ⟨p.opened, registry, p.tables⟩ opened here here']
  rfl

theorem tables_other {e : Effect} {channel other : Nat} (different : other ≠ channel) (t : Tables) :
    (e.tables channel t).callbacks[other]? = t.callbacks[other]? ∧
      (e.tables channel t).calibrations[other]? = t.calibrations[other]? := by
  obtain ⟨-, -, callback, level, -⟩ := e
  cases callback <;> cases level <;>
    simp [Effect.tables, Tables.setCallback, Tables.setCalibration,
      List.getElem?_set_ne (Ne.symm different)]

/-- The entries of the channel come from those before. -/
theorem tables_same (e : Effect) {channel : Nat} {t t' : Tables}
    (callbacks : t.callbacks[channel]? = t'.callbacks[channel]?)
    (calibrations : t.calibrations[channel]? = t'.calibrations[channel]?) :
    (e.tables channel t).callbacks[channel]? = (e.tables channel t').callbacks[channel]? ∧
      (e.tables channel t).calibrations[channel]? =
      (e.tables channel t').calibrations[channel]? := by
  obtain ⟨-, -, callback, level, -⟩ := e
  cases callback <;> cases level <;>
    simp [Effect.tables, Tables.setCallback, Tables.setCalibration, List.getElem?_set_self',
      callbacks, calibrations]

end act

/-! ## One step -/

section step
variable {w w' : Processes} {channel : Nat}

theorem step_opened (opened : AllOpened w) (e : Nat × Call) : AllOpened (step act w e) := by
  intro p
  obtain ⟨j, call⟩ := e
  by_cases mine : j = p
  · subst mine
    obtain ⟨effect, does⟩ :=
      act_effect call (w.cell (channelKey call.channel)) (w.cell (calibrationKey call.channel))
    rw [step_own, does _ _ (opened j) rfl rfl]
    exact opened j
  · rw [step_other mine]
    exact opened p

/-- A call on another channel leaves all there is of this one. -/
theorem step_elsewhere (opened : AllOpened w) {e : Nat × Call}
    (elsewhere : onChannel channel e = false) :
    channelView channel (step act w e) = channelView channel w := by
  obtain ⟨j, call⟩ := e
  have different : channel ≠ call.channel := fun same => of_decide_eq_false elsewhere same.symm
  obtain ⟨effect, does⟩ :=
    act_effect call (w.cell (channelKey call.channel)) (w.cell (calibrationKey call.channel))
  have acted := does (w.party j) w.cell (opened j) rfl rfl
  have values : ∀ key, key ≠ channelKey call.channel → key ≠ calibrationKey call.channel →
      (step act w (j, call)).cell key = w.cell key := by
    intro key notName notCalibration
    show (act call (w.party j) w.cell).2 key = w.cell key
    rw [acted]
    dsimp only
    rw [write_ne notCalibration, write_ne notName]
  have parties : ∀ p, ((step act w (j, call)).party p).tables.callbacks[channel]? =
    (w.party p).tables.callbacks[channel]? ∧
      ((step act w (j, call)).party p).tables.calibrations[channel]? =
        (w.party p).tables.calibrations[channel]? ∧
      ((step act w (j, call)).party p).outcomes.filter (fun outcome => outcome.1 = channel) =
        (w.party p).outcomes.filter fun outcome => outcome.1 = channel := by
    intro p
    by_cases mine : j = p
    · subst mine
      obtain ⟨callbacks, calibrations⟩ :=
        @tables_other effect call.channel channel different (w.party j).tables
      rw [step_own, acted]
      exact ⟨callbacks, calibrations, by simp [List.filter_append, Ne.symm different]⟩
    · rw [step_other mine]
      exact ⟨rfl, rfl, rfl⟩
  unfold channelView
  congr 1
  · exact values _ (fun same => different (WindowsLoad.channelKey_injective same))
      (WindowsLoad.channelKey_ne_calibrationKey _ _)
  · exact values _ (Ne.symm (WindowsLoad.channelKey_ne_calibrationKey _ _))
      fun same => different (WindowsLoad.calibrationKey_injective same)
  · exact funext fun p => (parties p).1
  · exact funext fun p => (parties p).2.1
  · exact funext fun p => (parties p).2.2

/-- A call on this channel is decided by what there is of it. -/
theorem step_here (opened : AllOpened w) (opened' : AllOpened w') {e : Nat × Call}
    (here : onChannel channel e = true) (same : channelView channel w = channelView channel w') :
    channelView channel (step act w e) = channelView channel (step act w' e) := by
  obtain ⟨j, call⟩ := e
  have mine : call.channel = channel := of_decide_eq_true here
  subst mine
  have name : w.cell (channelKey call.channel) = w'.cell (channelKey call.channel) :=
    congrArg ChannelView.name same
  have calibration : w.cell (calibrationKey call.channel) = w'.cell (calibrationKey call.channel) :=
    congrArg ChannelView.calibration same
  have callback := fun p => congrFun (congrArg ChannelView.callback same) p
  have level := fun p => congrFun (congrArg ChannelView.level same) p
  have outcomes := fun p => congrFun (congrArg ChannelView.outcomes same) p
  obtain ⟨effect, does⟩ :=
    act_effect call (w.cell (channelKey call.channel)) (w.cell (calibrationKey call.channel))
  have acted := does (w.party j) w.cell (opened j) rfl rfl
  have acted' := does (w'.party j) w'.cell (opened' j) name.symm calibration.symm
  have apart := WindowsLoad.channelKey_ne_calibrationKey call.channel call.channel
  have parties : ∀ p, ((step act w (j, call)).party p).tables.callbacks[call.channel]? =
        ((step act w' (j, call)).party p).tables.callbacks[call.channel]? ∧
      ((step act w (j, call)).party p).tables.calibrations[call.channel]? =
        ((step act w' (j, call)).party p).tables.calibrations[call.channel]? ∧
      ((step act w (j, call)).party p).outcomes.filter (fun outcome => outcome.1 = call.channel) =
        ((step act w' (j, call)).party p).outcomes.filter fun outcome => outcome.1 =
          call.channel := by
    intro p
    by_cases mine : j = p
    · subst mine
      obtain ⟨callbacks, calibrations⟩ := tables_same effect (callback j) (level j)
      rw [step_own, step_own, acted, acted']
      refine ⟨callbacks, calibrations, ?_⟩
      have before : (w.party j).outcomes.filter (fun outcome => outcome.1 = call.channel) =
          (w'.party j).outcomes.filter fun outcome => outcome.1 = call.channel := outcomes j
      simp only [List.filter_append, before]
    · rw [step_other mine, step_other mine]
      exact ⟨callback p, level p, outcomes p⟩
  unfold channelView
  congr 1
  · show (act call (w.party j) w.cell).2 _ = (act call (w'.party j) w'.cell).2 _
    rw [acted, acted']
    dsimp only
    rw [write_ne apart, write_ne apart, write_self, write_self, name]
  · show (act call (w.party j) w.cell).2 _ = (act call (w'.party j) w'.cell).2 _
    rw [acted, acted']
    dsimp only
    rw [write_self, write_self, write_ne (Ne.symm apart), write_ne (Ne.symm apart), calibration]
  · exact funext fun p => (parties p).1
  · exact funext fun p => (parties p).2.1
  · exact funext fun p => (parties p).2.2

end step

/-- In any order of calls of any number of processes that have one key open, whatever the
registry refuses: the values of a channel, every process's entries for it and what every
call on it returned are those that the calls on this channel alone leave. -/
theorem shared_channels_separate {s : Processes} (opened : AllOpened s) (events : List (Nat × Call))
    (channel : Nat) :
    channelView channel (run (step act) s events) =
      channelView channel (run (step act) s (events.filter (onChannel channel))) :=
  run_view (channelView channel) (onChannel channel) (fun _ e opened => step_opened opened e)
    (fun _ _ opened elsewhere => step_elsewhere opened elsewhere)
    (fun _ _ _ opened opened' here same => step_here opened opened' here same) opened opened
      rfl events

/-- Processes on panels with two channels, all with an empty key open. -/
def allOpened : Processes := ⟨fun _ => none, fun _ => ⟨true, Tables.zeroed 2, []⟩⟩

/-- The binding one of them has stored is kept when another recalibrates the other channel. -/
theorem stored_binding_kept :
    (run (step act) allOpened
      [(1, .setChannelSourceBinding false true 0 Names.calibration),
        (0, .setChannelCalibration true 1 5)]).cell
        (channelKey 0) = some (stored Names.calibration) := by
  have opened : AllOpened allOpened := fun _ => rfl
  have separate := shared_channels_separate opened
    [(1, .setChannelSourceBinding false true 0 Names.calibration),
      (0, .setChannelCalibration true 1 5)] 0
  exact (congrArg ChannelView.name separate).trans rfl

end PerformancePanel.Guarantees.SharedChannels
