import PerformancePanel.Guarantees.LinuxRestart

/-!
# What the Linux loader accepts and what the setters can change

The loader reads any JSON value through `json_object_get_string` and `json_object_get_int`,
which coerce; the setters write through `json_object_set_string` and `json_object_set_int`,
which refuse a value of another type. A loaded channel can be rebound exactly when its
binding is a string or was missing, and recalibrated exactly when its calibration is an int
or was missing, at the start and after any further calls.
-/
set_option autoImplicit false

namespace PerformancePanel.Guarantees.LoadedChangeable
open Source.Common Source.DataSources Source.Collector Source.DataSourceInterface
open Source.JsonLibrary Source.LinuxReader Source.LinuxLoad Settings Settings.LinuxStored Library
open LinuxRestart (allDone allDone_needed admissible_of_below start_inSync)

/-- Any name can be set, and the callback is then the name's. -/
def Rebindable (J : JsonC) (channel : Nat) (s : Linux) : Prop :=
  ∀ name, (setChannelSourceBinding J .done channel name s).2 = .returned .success ∧
    (setChannelSourceBinding J .done channel name s).1.tables.callback channel =
      nameStringToCallback name

/-- Any calibration can be set, and is then the channel's. -/
def Recalibratable (J : JsonC) (channel : Nat) (s : Linux) : Prop :=
  ∀ value, (setChannelCalibration J .done channel value s).2 = .returned .success ∧
    (setChannelCalibration J .done channel value s).1.tables.calibration channel = value

/-- `P` holds after any calls on channels below the count, every save succeeding. -/
def Always (J : JsonC) (count : Nat) (s : Linux) (P : Linux → Prop) : Prop :=
  ∀ calls : List Call, (∀ call ∈ calls, call.channel < count) →
    P (Runs.run (linuxApi J).after s calls)

section loaded
variable {J : JsonC} {count : Nat} {s : Linux} (loaded : Loaded J count s) {channel : Nat}
  (below : channel < count)
include loaded below

theorem rebindable_iff :
    Rebindable J channel s ↔ isString (storedValue s (.binding channel)) = true := by
  constructor
  · intro rebindable
    by_contra refused
    rw [Bool.not_eq_true] at refused
    have update := setString?_eq (storedValue s (.binding channel)) Source.Names.unallocated
    rw [refused, if_neg Bool.false_ne_true] at update
    have called := setMember_refuses loaded below (Or.inl rfl)
      (·.setString? Source.Names.unallocated) update
      (·.setCallback channel (nameStringToCallback Source.Names.unallocated))
    have success := (rebindable Source.Names.unallocated).1
    rw [show (setChannelSourceBinding J .done channel Source.Names.unallocated s).2 =
      .returned .deviceConfigurationFailed from congrArg Prod.snd called] at success
    cases success
  · intro accepted name
    obtain ⟨s', called, tables, _, _⟩ := setChannelSourceBinding_stores loaded below accepted name
    rw [called]
    refine ⟨rfl, ?_⟩
    rw [tables]
    exact Tables.callback_setCallback_self loaded.1 below _

theorem recalibratable_iff :
    Recalibratable J channel s ↔ isInt (storedValue s (.calibration channel)) = true := by
  constructor
  · intro recalibratable
    by_contra refused
    rw [Bool.not_eq_true] at refused
    have update := setInt?_eq (storedValue s (.calibration channel)) (0 : UInt8).toNat
    rw [refused, if_neg Bool.false_ne_true] at update
    have called := setMember_refuses loaded below (Or.inr rfl) (·.setInt? (0 : UInt8).toNat) update
      (·.setCalibration channel 0)
    have success := (recalibratable 0).1
    rw [show (setChannelCalibration J .done channel 0 s).2 =
      .returned .deviceConfigurationFailed from congrArg Prod.snd called] at success
    cases success
  · intro accepted value
    obtain ⟨s', called, tables, _, _⟩ := setChannelCalibration_stores loaded below accepted value
    rw [called]
    refine ⟨rfl, ?_⟩
    rw [tables]
    exact Tables.calibration_setCalibration_self loaded.1 below _

omit below in
/-- Every state later calls reach is loaded. -/
theorem reached_loaded {calls : List Call} (inside : ∀ call ∈ calls, call.channel < count) :
    (∀ call ∈ calls, Call.Admissible (linuxStored J count).count (linuxStored J count).fits call) ∧
      Loaded J count (Runs.run (linuxApi J).after s calls) := by
  have admissible : ∀ call ∈ calls,
      Call.Admissible (linuxStored J count).count (linuxStored J count).fits call :=
    fun call member => admissible_of_below (inside call member)
  exact ⟨admissible, (StoredReader.run_cells (R := linuxStored J count) loaded admissible).1⟩

/-- The setters store strings, so a string stays one. -/
theorem always_rebindable_iff :
    Always J count s (Rebindable J channel) ↔
      isString (storedValue s (.binding channel)) = true := by
  refine ⟨fun always => (rebindable_iff loaded below).mp (always [] nofun), fun accepted => ?_⟩
  intro calls inside
  obtain ⟨admissible, reached⟩ := reached_loaded loaded inside
  exact (rebindable_iff reached below).mpr
    (StoredReader.run_storedBinding (R := linuxStored J count)
      (P := fun value => isString value = true) loaded admissible accepted fun _ _ => rfl)

/-- The setters store ints, so an int stays one. -/
theorem always_recalibratable_iff :
    Always J count s (Recalibratable J channel) ↔
      isInt (storedValue s (.calibration channel)) = true := by
  refine ⟨fun always => (recalibratable_iff loaded below).mp (always [] nofun), fun accepted => ?_⟩
  intro calls inside
  obtain ⟨admissible, reached⟩ := reached_loaded loaded inside
  exact (recalibratable_iff reached below).mpr
    (StoredReader.run_storedCalibration (R := linuxStored J count)
      (P := fun value => isInt value = true) loaded admissible accepted fun _ => rfl)

end loaded

/-- After a successful start on a document, a channel can be rebound in every state reached
exactly when its binding is a string, and recalibrated exactly when its calibration is an
int, a missing member counting as its default. -/
theorem loaded_changeable_iff (J : JsonC) {count : Nat} {file : ConfigFile} {d : Json} {s : Linux}
    (object : IsObject d) (holds : Holds file d)
    (started : start J allDone count file = .bound s (.returned .success)) :
    ∀ channel < count,
      (Always J count s (Rebindable J channel) ↔ isString (valueAt d (.binding channel)) = true) ∧
      (Always J count s (Recalibratable J channel) ↔
        isInt (valueAt d (.calibration channel)) = true) := by
  intro channel below
  obtain ⟨loadedUpTo, readable⟩ := start_success object holds (allDone_needed d count) started
  have loaded : Loaded J count s := (loaded_of_start loadedUpTo readable).1
  have values := storedValue_of_start loadedUpTo readable (by omega)
  rw [always_rebindable_iff loaded below, always_recalibratable_iff loaded below, values, values]
  exact ⟨Iff.rfl, Iff.rfl⟩

/-- One channel, its calibration stored as a string. -/
def stringCalibration : Json :=
  .object [("channel0", .string Source.Names.calibration.units),
    ("calibration0", .string (text "200"))]

/-- The number that string spells is read. -/
def spelled : JsonC :=
  { plain with stringToInt := fun units => if units = text "200" then 200 else 0 }

/-- The state a start on it leaves. -/
def stringCalibrationStart : Linux where
  rootObject := some stringCalibration
  file := .text (some stringCalibration)
  tables := ⟨[some .calibration], [200]⟩

theorem stringCalibration_started :
    start spelled allDone 1 (.text (some stringCalibration)) =
      .bound stringCalibrationStart (.returned .success) := rfl

/-- Such a channel can be rebound and never recalibrated. -/
theorem loaded_changeable_stringCalibration :
    Always spelled 1 stringCalibrationStart (Rebindable spelled 0) ∧
      ¬ Always spelled 1 stringCalibrationStart (Recalibratable spelled 0) := by
  have changeable := loaded_changeable_iff spelled ⟨_, rfl⟩ (Or.inl rfl) stringCalibration_started 0
    Nat.zero_lt_one
  exact ⟨changeable.1.mpr rfl, fun always => Bool.false_ne_true (changeable.2.mp always)⟩

/-- It is loaded with success, and then no calibration can be set. -/
theorem string_calibration_refuses :
    start spelled allDone 1 (.text (some stringCalibration)) =
        .bound stringCalibrationStart (.returned .success) ∧
      (setChannelCalibration spelled .done 0 128 stringCalibrationStart).2 =
        .returned .deviceConfigurationFailed :=
  ⟨rfl, rfl⟩

end PerformancePanel.Guarantees.LoadedChangeable
