import PerformancePanel.Guarantees.SetterAtomicity

/-!
# Advertised bindings

`iterate_binding_names` lists every name of the table, but neither reader has a source for
every one: the Linux reader knows the calibration source alone, the Windows reader has none
for the CPU temperature. Such a name is accepted with success and reported as `Unallocated`.
A name that the two maps lead back to itself stays reported through every further call that
does not bind its channel and through every restart.
-/
set_option autoImplicit false

namespace PerformancePanel.Guarantees.AdvertisedBindings
open Source Source.Common Source.DataSources Source.Collector Source.DataSourceInterface
open Source.JsonLibrary Source.Registry Source.LinuxLoad Settings Library
open Source.LinuxReader (Linux)
open Source.WindowsReader (Windows RegistryEnv)
open Source.WindowsLoad (EnvSucceeds)
open Settings.LinuxStored (linuxApi linuxStored storedValue Usable usable_put)
open Settings.WindowsStored (windowsApi)
open LinuxRestart (allDone firstStart admissible_of_below start_inSync)
open WindowsRestart (emptyKey quietEnv quietEnv_succeeds)
open SetterAtomicity (step linuxApiWith windowsApiWith)

section later
variable {σ : Type} (api : DataSourceApi σ) (restarts : σ → σ → Prop) (count channel : Nat)

/-- The states reached from `s` by calls that do not bind the channel and by restarts. -/
inductive Later (s : σ) : σ → Prop
  | here : Later s s
  | call {s' : σ} (earlier : Later s s') (call : Call) (below : call.channel < count)
    (other : call.isBindingOf channel = false) : Later s (api.after s' call)
  | restart {s' s'' : σ} (earlier : Later s s') (restarted : restarts s' s'') : Later s s''

/-- The name is reported for the channel in each of them. -/
def Honoured (name : Name) (s : σ) : Prop :=
  ∀ s', Later api restarts count channel s s' → api.getSourceBindingName s' channel = name

end later

/-- The two maps lead the name back to itself. -/
def RoundTrips {σ : Type} (api : DataSourceApi σ) (name : Name) : Prop :=
  api.callbackToNameString (api.nameStringToCallback name) = name

/-- While the channel keeps the source of the name, it is reported as the maps say. -/
theorem honoured_iff {σ : Type} {api : DataSourceApi σ} {restarts : σ → σ → Prop}
    {count channel : Nat}
    {name : Name} {s : σ} (kept : ∀ s', Later api restarts count channel s s' →
      (api.tables s').callback channel = api.nameStringToCallback name) :
    Honoured api restarts count channel name s ↔ RoundTrips api name := by
  have reported : ∀ s', Later api restarts count channel s s' →
      api.getSourceBindingName s' channel =
        api.callbackToNameString (api.nameStringToCallback name) :=
    fun s' later => congrArg api.callbackToNameString (kept s' later)
  constructor
  · intro honoured
    exact (reported s .here).symm.trans (honoured s .here)
  · intro roundTrips s' later
    exact (reported s' later).trans roundTrips

/-- A later process on the same file, every save succeeding. -/
def linuxRestarts (J : JsonC) (count : Nat) (s s' : Linux) : Prop :=
  ∃ outcome, LinuxReader.start J allDone count s.file = .bound s' outcome

/-- A later process on the same key, every registry call succeeding. -/
def windowsRestarts (nvidiaGpuFound : Bool) (count : Nat) (s s' : Windows) : Prop :=
  ∃ envs outcome, (∀ c < count, EnvSucceeds (envs c)) ∧
    WindowsReader.start nvidiaGpuFound envs count s.registry = .bound s' outcome

/-! ## Linux -/

section linux
variable {J : JsonC} {count : Nat} {s : Linux}

/-- The cached document of a running process can be loaded from, saved or not. -/
def Running (J : JsonC) (count : Nat) (s : Linux) : Prop :=
  s.tables.Sized count ∧ (0 < count → ∃ r, s.rootObject = some r ∧ Usable J count r)

theorem running_of_loaded (loaded : LinuxStored.Loaded J count s) : Running J count s := by
  refine ⟨loaded.1, fun positive => ?_⟩
  obtain ⟨r, saved⟩ := loaded.2 positive
  exact ⟨r, saved.root, saved.object, saved.keys, saved.readable⟩

/-- What the setters put into the document for a binding has a text. -/
def Textual (J : JsonC) (key : Key) (update : Json → Option Json) : Prop :=
  ∀ value new c, update value = some new → key = .binding c → J.getString new ≠ none

theorem textual_binding (J : JsonC) (channel : Nat) (name : Name) :
    Textual J (.binding channel) (·.setString? name) := by
  intro value new c accepted _
  rw [(setString?_isSome accepted).1, getString_string]
  exact Option.some_ne_none name

theorem textual_calibration (J : JsonC) (channel : Nat) (value : UInt8) :
    Textual J (.calibration channel) (·.setInt? value.toNat) := by
  intro _ _ _ _ different
  cases different

/-- A member that is replaced leaves a document every channel can be loaded from. -/
theorem replaced_usable (running : Running J count s) {key : Key} {update : Json → Option Json}
    (textual : Textual J key update) {r' : Json}
    (replaced : ((s.member? key.name).bind update).bind (s.withMember? key.name) = some r')
    (positive : 0 < count) :
    Usable J count r' ∧ ∃ value new, update value = some new ∧ valueAt r' key = new := by
  obtain ⟨r, root, usable⟩ := running.2 positive
  obtain ⟨new, updated, changed⟩ := Option.bind_eq_some_iff.mp replaced
  obtain ⟨value, _, accepted⟩ := Option.bind_eq_some_iff.mp updated
  have put : r.put? key.name new = some r' := by
    rw [Linux.withMember?, root] at changed
    exact changed
  exact ⟨usable_put usable put fun c binding => textual value new c accepted binding,
    value, new, accepted, valueAt_put_self put⟩

/-- The common shape of the two setters, however the save goes. -/
theorem setMember_running (running : Running J count s) {key : Key} {update : Json → Option Json}
    (textual : Textual J key update) {commit : Tables → Tables}
    (sizes : ∀ t : Tables, (commit t).Sized count ↔ t.Sized count) (save : SaveOutcome) :
    Running J count (LinuxReader.setMember J save key.name update commit s).1 := by
  unfold LinuxReader.setMember
  cases replaced : ((s.member? key.name).bind update).bind (s.withMember? key.name) with
  | none => exact running
  | some r' =>
    refine ⟨?_, fun positive => ⟨r', ?_, (replaced_usable running textual replaced positive).1⟩⟩
    · cases save with
      | done => exact (sizes s.tables).mpr running.1
      | failed written => exact running.1
      | stopped written => exact running.1
    · exact (saveThen_state J save r' commit .deviceConfigurationFailed s).1

theorem step_running (running : Running J count s) (event : SaveOutcome × Call) :
    Running J count (step (linuxApiWith J) s event) := by
  obtain ⟨save, call⟩ := event
  cases call with
  | setChannelSourceBinding channel name =>
    exact setMember_running running (textual_binding J channel name)
      (fun t => Tables.setCallback_sized t channel count _) save
  | clearBinding channel => exact ⟨(Tables.setCallback_sized _ _ _ _).mpr running.1, running.2⟩
  | setChannelCalibration channel value =>
    exact setMember_running running (textual_calibration J channel value)
      (fun t => Tables.setCalibration_sized t channel count _) save

/-- What a successful call leaves, and what later states keep. -/
structure LinuxBound (J : JsonC) (count channel : Nat) (name : Name) (s : Linux) : Prop where
  loaded : LinuxStored.Loaded J count s
  stored : storedValue s (.binding channel) = .string name.units
  callback : s.tables.callback channel = LinuxReader.nameStringToCallback name

variable {channel : Nat} {name : Name} (below : channel < count)
include below

theorem linux_bound (running : Running J count s) {save : SaveOutcome} {s₁ : Linux}
    (called : LinuxReader.setChannelSourceBinding J save channel name s =
      (s₁, .returned .success)) :
    LinuxBound J count channel name s₁ := by
  have positive : 0 < count := by omega
  unfold LinuxReader.setChannelSourceBinding LinuxReader.setMember at called
  split at called
  next r' replaced =>
    obtain ⟨usable, value, new, accepted, stored⟩ :=
      replaced_usable running (textual_binding J channel name) replaced positive
    obtain ⟨members, object⟩ := usable.object
    cases save with
    | done =>
      rw [saveThen_done, Prod.mk.injEq] at called
      rw [← called.1]
      refine ⟨⟨(Tables.setCallback_sized _ _ _ _).mpr running.1, fun _ =>
        ⟨r', rfl, usable.object, rfl, usable.keys, usable.readable⟩⟩, ?_,
        Tables.callback_setCallback_self running.1 below _⟩
      have value : storedValue ⟨some r', .text (some r'), s.tables.setCallback channel
          (LinuxReader.nameStringToCallback name)⟩ (.binding channel) =
            valueAt r' (.binding channel) := by
        rw [object]
        rfl
      rw [value, stored]
      exact (setString?_isSome accepted).1
    | failed written => cases congrArg Prod.snd called
    | stopped written => cases congrArg Prod.snd called
  next => cases congrArg Prod.snd called

theorem linux_later {s' : Linux} (bound : LinuxBound J count channel name s)
    (later : Later (linuxApi J) (linuxRestarts J count) count channel s s') :
    LinuxBound J count channel name s' := by
  induction later with
  | here => exact bound
  | @call s' earlier call inside other ih =>
    have admissible : Call.Admissible (linuxStored J count).count (linuxStored J count).fits call :=
      admissible_of_below inside
    have loaded : (linuxStored J count).Loaded s' := ih.loaded
    have kept := StoredReader.after_other loaded admissible other
    exact ⟨((linuxStored J count).refines s' call loaded admissible).1, kept.1.trans ih.stored,
      kept.2.trans ih.callback⟩
  | @restart s' s'' earlier restarted ih =>
    obtain ⟨outcome, started⟩ := restarted
    obtain ⟨s₁, started₁, loaded, values, decoded⟩ := LinuxStored.restart_loads ih.loaded allDone
    rw [started, Initialized.bound.injEq] at started₁
    rw [started₁.1]
    refine ⟨loaded, (congrFun values _).trans ih.stored, ?_⟩
    rw [(decoded channel below).1, ih.stored, decodeBinding_name]

theorem linux_honoured_iff (bound : LinuxBound J count channel name s) :
    Honoured (linuxApi J) (linuxRestarts J count) count channel name s ↔
      RoundTrips (linuxApi J) name :=
  honoured_iff fun _ later => (linux_later below bound later).callback

end linux

/-! ## Windows -/

section windows
variable {nvidiaGpuFound : Bool} {count : Nat} {s : Windows}

/-- A call neither closes the key nor changes the array lengths. -/
theorem step_loaded (loaded : WindowsStored.Loaded count s) (event : Bool × Call) :
    WindowsStored.Loaded count (step (windowsApiWith nvidiaGpuFound) s event) := by
  obtain ⟨succeeds, call⟩ := event
  cases call with
  | setChannelSourceBinding channel name =>
    exact WindowsStored.setChannelSourceBinding_loaded loaded nvidiaGpuFound succeeds channel name
  | clearBinding channel => exact ⟨(Tables.setCallback_sized _ _ _ _).mpr loaded.1, loaded.2⟩
  | setChannelCalibration channel value =>
    exact WindowsStored.setChannelCalibration_loaded loaded succeeds channel value

structure WindowsBound (nvidiaGpuFound : Bool) (count channel : Nat) (name : Name) (s : Windows) :
    Prop where
  loaded : WindowsStored.Loaded count s
  stored : s.registry (WindowsReader.channelKey channel) = some (bytes (name.units ++ [0]))
  callback : s.tables.callback channel = WindowsReader.nameStringToCallback nvidiaGpuFound name

variable {channel : Nat} {name : Name} (below : channel < count)
  (listed : name ∈ WindowsReader.dataSourceNames)
include below listed

theorem windows_bound (loaded : WindowsStored.Loaded count s) {succeeds : Bool} {s₁ : Windows}
    (called : WindowsReader.setChannelSourceBinding nvidiaGpuFound succeeds channel name s =
      (s₁, .returned .success)) : WindowsBound nvidiaGpuFound count channel name s₁ := by
  have stored : WindowsReader.stored name = bytes (name.units ++ [0]) := by
    have short := WindowsLoad.listed_short listed
    exact WindowsLoad.stored_whole short.1 (by omega)
  unfold WindowsReader.setChannelSourceBinding WindowsReader.setValue at called
  split at called
  · rw [Prod.mk.injEq] at called
    rw [← called.1]
    refine ⟨⟨(Tables.setCallback_sized _ _ _ _).mpr loaded.1, loaded.2⟩, ?_,
      Tables.callback_setCallback_self loaded.1 below _⟩
    rw [← stored]
    exact regSetValueEx_self _ _ _
  · cases congrArg Prod.snd called

omit below listed in
/-- A call that does not bind the channel leaves its value and its entry alone. -/
theorem windows_after_other {call : Call} (other : call.isBindingOf channel = false) :
    ((windowsApi nvidiaGpuFound).after s call).registry (WindowsReader.channelKey channel) =
        s.registry (WindowsReader.channelKey channel) ∧
      ((windowsApi nvidiaGpuFound).after s call).tables.callback channel =
        s.tables.callback channel := by
  cases call with
  | setChannelSourceBinding c bindingName =>
    have different : channel ≠ c := by
      rintro rfl
      simp [Call.isBindingOf] at other
    refine ⟨WindowsReader.setValue_other true
      (fun same => different (WindowsLoad.channelKey_injective same)) _ _, ?_⟩
    refine (congrArg (·.callback channel) (WindowsReader.setValue_tables _ _ _ _)).trans ?_
    exact Tables.callback_setCallback_ne _ different _
  | clearBinding c =>
    have different : channel ≠ c := by
      rintro rfl
      simp [Call.isBindingOf] at other
    exact ⟨rfl, Tables.callback_setCallback_ne _ different _⟩
  | setChannelCalibration c value =>
    refine ⟨WindowsReader.setValue_other true (WindowsLoad.channelKey_ne_calibrationKey channel c)
      _ _, ?_⟩
    exact congrArg (·.callback channel) (WindowsReader.setValue_tables _ _ _ _)

theorem windows_later {s' : Windows} (bound : WindowsBound nvidiaGpuFound count channel name s)
    (later : Later (windowsApi nvidiaGpuFound)
      (windowsRestarts nvidiaGpuFound count) count channel s s') :
    WindowsBound nvidiaGpuFound count channel name s' := by
  induction later with
  | here => exact bound
  | @call s' earlier call inside other ih =>
    have kept := @windows_after_other nvidiaGpuFound s' channel call other
    have loaded : WindowsStored.Loaded count ((windowsApi nvidiaGpuFound).after s' call) :=
      step_loaded ih.loaded (true, call)
    exact ⟨loaded, kept.1.trans ih.stored, kept.2.trans ih.callback⟩
  | @restart s' s'' earlier restarted ih =>
    obtain ⟨envs, outcome, succeeds, started⟩ := restarted
    have taken := WindowsLoad.start_taken succeeds started
    obtain ⟨kept, callback⟩ := taken.named channel below
    have short := (WindowsLoad.listed_short listed).2
    rw [ih.stored] at kept callback
    rw [WindowsLoad.takenName_terminated (WindowsLoad.terminated_bytes name),
      WindowsLoad.nameOfValue_bytes, if_pos short] at callback
    exact ⟨⟨taken.sized, taken.opened⟩, WindowsLoad.nameKept_bytes short kept, callback⟩

theorem windows_honoured_iff (bound : WindowsBound nvidiaGpuFound count channel name s) :
    Honoured (windowsApi nvidiaGpuFound)
      (windowsRestarts nvidiaGpuFound count) count channel name s ↔
      RoundTrips (windowsApi nvidiaGpuFound) name :=
  honoured_iff fun _ later => (windows_later below listed bound later).callback

end windows

/-! ## The listed names -/

theorem linux_roundTrips_iff (J : JsonC) {name : Name}
    (listed : name ∈ LinuxReader.dataSourceNames) :
    RoundTrips (linuxApi J) name ↔ name = Names.unallocated ∨ name = Names.calibration := by
  have all : ∀ known ∈ LinuxReader.dataSourceNames,
      (LinuxReader.callbackToNameString (LinuxReader.nameStringToCallback known) = known ↔
        known = Names.unallocated ∨ known = Names.calibration) := by decide
  exact all name listed

theorem windows_roundTrips_iff {name : Name} (listed : name ∈ WindowsReader.dataSourceNames) :
    RoundTrips (windowsApi true) name ↔ name ≠ Names.cpuTemperature := by
  have all : ∀ known ∈ WindowsReader.dataSourceNames,
      (WindowsReader.callbackToNameString (WindowsReader.nameStringToCallback true known) = known ↔
        known ≠ Names.cpuTemperature) := by decide
  exact all name listed

/-- On either platform, in any state reached from a successful start with any storage
outcomes: a listed name whose binding has returned success is reported from then on exactly
when it is one that the reader has a source for, or `Unallocated`. -/
theorem advertised_honoured_iff (J : JsonC) {count channel : Nat} (below : channel < count)
    (name : Name)
    {file : ConfigFile} {linux : Linux} {envs : Nat → RegistryEnv} {registry : RegistryKey}
    {windows : Windows}
    (linuxStarted : LinuxReader.start J allDone count file = .bound linux (.returned .success))
    (linuxEvents : List (SaveOutcome × Call))
    (windowsStarted : WindowsReader.start true envs count registry =
      .bound windows (.returned .success))
    (windowsEvents : List (Bool × Call)) :
    (name ∈ LinuxReader.dataSourceNames → ∀ save linux',
      LinuxReader.setChannelSourceBinding J save channel name
        (Runs.run (step (linuxApiWith J)) linux linuxEvents) = (linux', .returned .success) →
      (Honoured (linuxApi J) (linuxRestarts J count) count channel name linux' ↔
        name = Names.unallocated ∨ name = Names.calibration)) ∧
    (name ∈ WindowsReader.dataSourceNames → ∀ succeeds windows',
      WindowsReader.setChannelSourceBinding true succeeds channel name
        (Runs.run (step (windowsApiWith true)) windows windowsEvents) =
          (windows', .returned .success) →
      (Honoured (windowsApi true) (windowsRestarts true count) count channel name windows' ↔
        name ≠ Names.cpuTemperature)) := by
  refine ⟨fun listed save linux' called => ?_, fun listed succeeds windows' called => ?_⟩
  · have started : Running J count linux := running_of_loaded (start_inSync linuxStarted).1
    have keeps : ∀ s event, Running J count s → Running J count (step (linuxApiWith J) s event) :=
      fun _ event before => step_running before event
    have running := (Runs.allReached_of_invariant keeps started linuxEvents).last
    rw [linux_honoured_iff below (linux_bound below running called), linux_roundTrips_iff J listed]
  · have started : WindowsStored.Loaded count windows :=
      ⟨WindowsLoad.start_sized windowsStarted, WindowsLoad.start_opened windowsStarted⟩
    have keeps : ∀ s event, WindowsStored.Loaded count s →
        WindowsStored.Loaded count (step (windowsApiWith true) s event) :=
      fun _ event before => step_loaded before event
    have running := (Runs.allReached_of_invariant keeps started windowsEvents).last
    rw [windows_honoured_iff below listed (windows_bound below listed running called),
      windows_roundTrips_iff listed]

/-- On a running Windows process the first channel can be bound to any name. -/
theorem windows_first_set (name : Name) :
    ∃ windows windows',
      WindowsReader.start true quietEnv 1 emptyKey = .bound windows (.returned .success) ∧
      WindowsReader.setChannelSourceBinding true true 0 name windows =
        (windows', .returned .success) ∧
      windows'.tables.callback 0 = WindowsReader.nameStringToCallback true name := by
  obtain ⟨windows, started, taken⟩ := WindowsLoad.start_takes true emptyKey (quietEnv_succeeds 1)
  have called :=
    WindowsReader.setChannelSourceBinding_opened (taken.opened Nat.zero_lt_one) true 0 name
  exact ⟨windows, _, started, called, Tables.callback_setCallback_self taken.sized
    Nat.zero_lt_one _⟩

theorem advertised_honoured_calibration :
    ∃ linux' windows',
      LinuxReader.setChannelSourceBinding plain .done 0 Names.calibration firstStart =
        (linux', .returned .success) ∧
      Honoured (linuxApi plain) (linuxRestarts plain 1) 1 0 Names.calibration linux' ∧
      Honoured (windowsApi true) (windowsRestarts true 1) 1 0 Names.calibration windows' := by
  obtain ⟨windows, windows', windowsStarted, windowsCalled, _⟩ :=
    windows_first_set Names.calibration
  obtain ⟨linux', linuxCalled⟩ : ∃ linux', LinuxReader.setChannelSourceBinding plain .done 0
      Names.calibration firstStart = (linux', .returned .success) := ⟨_, rfl⟩
  have linuxStarted : LinuxReader.start plain allDone 1 .absent =
    .bound firstStart (.returned .success) :=
    rfl
  have honoured := advertised_honoured_iff plain Nat.zero_lt_one Names.calibration linuxStarted []
    windowsStarted []
  exact ⟨linux', windows', linuxCalled,
    (honoured.1 (by decide) .done linux' linuxCalled).mpr (.inr rfl),
    (honoured.2 (by decide) true windows' windowsCalled).mpr (by decide)⟩

/-- The Linux reader accepts `CPU Utility`, the Windows reader `CPU Temperature`, and both
then report another name. -/
theorem accepted_names_unreported :
    (∃ linux', LinuxReader.setChannelSourceBinding plain .done 0 Names.cpuUtility firstStart =
        (linux', .returned .success) ∧
      ¬ Honoured (linuxApi plain) (linuxRestarts plain 1) 1 0 Names.cpuUtility linux') ∧
    ∃ windows windows',
      WindowsReader.start true quietEnv 1 emptyKey = .bound windows (.returned .success) ∧
      WindowsReader.setChannelSourceBinding true true 0 Names.cpuTemperature windows =
        (windows', .returned .success) ∧
      ¬ Honoured (windowsApi true) (windowsRestarts true 1) 1 0 Names.cpuTemperature windows' := by
  obtain ⟨windows, windows', started, called, callback⟩ := windows_first_set Names.cpuTemperature
  refine ⟨⟨_, rfl, fun honoured => ?_⟩, windows, windows', started, called, fun honoured => ?_⟩
  · exact absurd (honoured _ .here) (by decide)
  · have reported : WindowsReader.callbackToNameString (windows'.tables.callback 0) =
        Names.cpuTemperature := honoured _ .here
    rw [callback] at reported
    exact absurd reported (by decide)

end PerformancePanel.Guarantees.AdvertisedBindings
