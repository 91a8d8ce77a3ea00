import PerformancePanel.Guarantees.AdvertisedBindings
import PerformancePanel.Guarantees.BindingRestored
import PerformancePanel.Guarantees.CpuUtility
import PerformancePanel.Source.Tick

/-!
# Voltmeter protection

A calibration defaults to half scale "to prevent voltmeter damage", and to full scale for a
channel that is found stored as `Calibration`. The default is stored like a chosen value and
outlives the binding it was made for: such a channel, bound to a live source later, is
driven above half scale although nobody calibrated it. The Linux reader binds no live
source at all.
-/
set_option autoImplicit false

namespace PerformancePanel.Guarantees.VoltmeterProtection
open Source.Common Source.DataSources Source.Collector Source.DataSourceInterface Source.Tick
open Source.JsonLibrary Source.Registry Settings Library
open Source.LinuxReader (Linux)
open Source.WindowsReader (Windows RegistryEnv channelKey calibrationKey defaultCalibration
  setValue_tables setValue_other)
open Source.WindowsLoad (EnvSucceeds TakenUpTo takenName loop_takes)
open Settings.LinuxStored (linuxApi)
open Settings.WindowsStored (windowsApi)
open WindowsRestart (emptyKey quietEnv quietEnv_succeeds)
open LinuxRestart (allDone firstStart)

/-! ## Runs of a reader and its ticks -/

/-- Any source but the constant one. -/
def Live (callback : Callback) : Prop := ∃ source, callback = some source ∧ source ≠ .calibration

/-- A reader's memory and store under the calls of a run. `initializeBinding` is told whether it
runs in the same process and what it meets. -/
structure Panel (σ ε : Type) where
  tables : σ → Tables
  initializeBinding : Bool → ε → σ → σ
  after : σ → Call → σ

inductive Event (ε : Type) where
  | initializeBinding (sameProcess : Bool) (met : ε)
  | call (call : Call)
  | tick (env : TickEnv)

/-- `calibrated` are the channels whose calibration the initial store held or
`set_channel_calibration` was called for. -/
structure State (σ : Type) where
  reader : σ
  lastTimes : SystemTimes
  calibrated : Nat → Bool

def recorded (calibrated : Nat → Bool) : Call → Nat → Bool
  | .setChannelCalibration channel _ => Function.update calibrated channel true
  | _ => calibrated

def step {σ ε : Type} (P : Panel σ ε) (channelCount : UInt8) (s : State σ) : Event ε → State σ
  | .initializeBinding sameProcess met =>
    { s with
      reader := P.initializeBinding sameProcess met s.reader
      lastTimes := if sameProcess then s.lastTimes else SystemTimes.zero }
  | .call call =>
    { s with
      reader := P.after s.reader call
      calibrated := recorded s.calibrated call }
  | .tick env =>
    { s with
      lastTimes := (mainLoopCallback env channelCount (P.tables s.reader).arrays
        s.lastTimes).lastTimes }

/-- The property: no tick sends more than half scale to a channel that is bound to a live
source and was never calibrated. -/
def Protected {σ ε : Type} (P : Panel σ ε) (channelCount : UInt8) (s : State σ) : Prop :=
  ∀ env, ∀ packet ∈
      (mainLoopCallback env channelCount (P.tables s.reader).arrays s.lastTimes).transfers,
    s.calibrated packet.channel.toNat = false →
    Live ((P.tables s.reader).callback packet.channel.toNat) → packet.level ≤ 0x80

/-! ## A tick on default calibrations -/

/-- A live source is on an uncalibrated channel only at half scale. -/
def HalfScale (t : Tables) (count : Nat) (calibrated : Nat → Bool) : Prop :=
  ∀ channel < count, calibrated channel = false → Live (t.callback channel) →
    t.calibration channel = 0x80

/-- The counter one unit later. -/
def nextTime (last : FileTime) : FileTime where
  dwLowDateTime := last.dwLowDateTime + 1
  dwHighDateTime :=
    if last.dwLowDateTime + 1 = 0 then last.dwHighDateTime + 1 else last.dwHighDateTime

/-- Everything reads high at one channel, and no CPU sample succeeds at another. -/
def hotAt (channel : Nat) (last : SystemTimes) : TickEnv where
  os i :=
    { systemTimes := if i = channel then some ⟨last.idle, nextTime last.kernel, last.user⟩ else none
      memoryLoad := some 99
      gpuPercentage := some 99
      gpuTemperature := some 99
      undefinedConversion := 0 }
  transfer _ := .success

theorem nextTime_delta (last : FileTime) : calculateDelta last (nextTime last) ≠ 0 := by
  intro same
  have equal : (nextTime last).value = last.value := by
    rw [calculateDelta, UInt64.sub_eq_iff_eq_add, UInt64.zero_add] at same
    exact same
  have counts := congrArg UInt64.toNat equal
  rw [CpuUtility.fileTime_value, CpuUtility.fileTime_value, CpuUtility.count,
    CpuUtility.count] at counts
  have low : (nextTime last).dwLowDateTime.toNat = (last.dwLowDateTime.toNat + 1) % 2 ^ 32 :=
    UInt32.toNat_add _ _
  have before := last.dwLowDateTime.toNat_lt
  omega

/-- A processor that was busy all the time reads full scale. -/
theorem busy_reading {last : SystemTimes} {os : OsReadings}
    (sampled : os.systemTimes = some ⟨last.idle, nextTime last.kernel, last.user⟩) :
    (dataSourceCpuUtility last os).1 = 255 := by
  have idle : calculateDelta last.idle last.idle = 0 := UInt64.sub_self _
  have user : calculateDelta last.user last.user = 0 := UInt64.sub_self _
  have kernel := nextTime_delta last.kernel
  have positive : 0 < (calculateDelta last.kernel (nextTime last.kernel)).toNat :=
    Nat.pos_of_ne_zero fun zero => kernel (UInt64.toNat.inj zero)
  simp only [dataSourceCpuUtility, sampled, idle, user, UInt64.add_zero, UInt64.sub_zero,
    cpuQuotient, if_neg kernel, Nat.mul_div_cancel_left 255 positive]
  rfl

theorem hotAt_counters (t : Tables) (channel : Nat) (last : SystemTimes) {i : Nat}
    (before : i ≤ channel) :
    countersBefore (hotAt channel last) t last i = last := by
  induction i with
  | zero => rfl
  | succ i ih =>
    have earlier : countersBefore (hotAt channel last) t last i = last := ih (by omega)
    have unsampled : ((hotAt channel last).os i).systemTimes = none := if_neg (by omega)
    simp only [countersBefore, earlier]
    cases t.callback i with
    | none => rfl
    | some source =>
      by_cases cpu : source = .cpuUtility
      · subst cpu
        simp [DataSource.read, dataSourceCpuUtility, unsampled]
      · exact read_keeps_counters cpu _ _

theorem hotAt_reading (t : Tables) (channel : Nat) (last : SystemTimes) (source : DataSource) :
    253 ≤ readingFor (hotAt channel last) t last source channel := by
  unfold readingFor
  rw [hotAt_counters t channel last (le_refl channel)]
  cases source with
  | cpuUtility =>
    have reading : (DataSource.cpuUtility.read last ((hotAt channel last).os channel)).1 = 255 :=
      busy_reading (if_pos rfl)
    rw [reading]
    decide
  | calibration => exact UInt8.le_of_lt (by decide : (253 : UInt8) < 255)
  | nvidiaGpuUtility => exact UInt8.le_refl 253
  | nvidiaGpuTemperature => exact UInt8.le_refl 253
  | ramUtility => exact UInt8.le_refl 253

section tick
variable {σ ε : Type} {P : Panel σ ε} {channelCount : UInt8} {s : State σ}
  (sized : (P.tables s.reader).Sized channelCount.toNat)
include sized

theorem protected_of_halfScale
    (half : HalfScale (P.tables s.reader) channelCount.toNat s.calibrated) :
    Protected P channelCount s := by
  intro env packet sent uncalibrated live
  obtain ⟨channel, source, below, bound, rfl⟩ := mem_transfers sized sent
  have small : channelCount.toNat < 256 := channelCount.toNat_lt
  rw [packetFor_channel (by omega)] at uncalibrated live
  rw [packetFor_level, half channel below uncalibrated live]
  exact UInt8.le_of_lt (calibrated_lt_calibration _ (by decide))

/-- At any other default a hot source shows. -/
theorem halfScale_of_protected
    (defaults : ∀ channel < channelCount.toNat, s.calibrated channel = false →
      (P.tables s.reader).calibration channel = 0x80 ∨
      (P.tables s.reader).calibration channel = 0xFF)
    (safe : Protected P channelCount s) :
    HalfScale (P.tables s.reader) channelCount.toNat s.calibrated := by
  intro channel below uncalibrated live
  refine (defaults channel below uncalibrated).resolve_right fun full => ?_
  obtain ⟨source, bound, _⟩ := id live
  have small : channelCount.toNat < 256 := channelCount.toNat_lt
  have sent := @packet_sent (hotAt channel s.lastTimes) _ s.lastTimes _ sized (fun _ => rfl) _ _
    below bound
  have level := safe _ _ sent
  rw [packetFor_channel (by omega), packetFor_level, full] at level
  have hot := calibrated_mono (hotAt_reading (P.tables s.reader) channel s.lastTimes source)
    (UInt8.le_refl 0xFF)
  have above : calibrated 253 0xFF = 252 := by decide
  rw [above] at hot
  exact absurd (UInt8.le_trans hot (level uncalibrated live)) (by decide)

end tick

theorem not_live_none : ¬ Live none := by
  rintro ⟨source, bound, _⟩
  cases bound

theorem halfScale_setCallback_iff {t : Tables} {count channel : Nat} {calibrated : Nat → Bool}
    (sized : t.Sized count) (half : HalfScale t count calibrated) (callback : Callback) :
    HalfScale (t.setCallback channel callback) count calibrated ↔
      (channel < count → calibrated channel = false → Live callback →
        t.calibration channel = 0x80) := by
  constructor
  · intro after below uncalibrated live
    have here := after channel below uncalibrated
    rw [Tables.callback_setCallback_self sized below, Tables.calibration_setCallback] at here
    exact here live
  · intro allowed other below uncalibrated live
    rw [Tables.calibration_setCallback]
    by_cases same : other = channel
    · subst same
      rw [Tables.callback_setCallback_self sized below] at live
      exact allowed below uncalibrated live
    · rw [Tables.callback_setCallback_ne _ same] at live
      exact half other below uncalibrated live

/-- A channel that is given a calibration is calibrated from then on. -/
theorem halfScale_setCalibration {t : Tables} {count : Nat} {calibrated : Nat → Bool}
    (half : HalfScale t count calibrated) (channel : Nat) (value : UInt8) :
    HalfScale (t.setCalibration channel value) count (Function.update calibrated channel true) := by
  intro other below uncalibrated live
  have different : other ≠ channel := by
    rintro rfl
    rw [Function.update_self] at uncalibrated
    cases uncalibrated
  rw [Function.update_of_ne different] at uncalibrated
  rw [Tables.callback_setCalibration] at live
  rw [Tables.calibration_setCalibration_ne _ different]
  exact half other below uncalibrated live

/-! ## Windows -/

/-- The reader's state with `nvidia_gpu_found`. -/
structure Driver where
  windows : Windows
  nvidiaGpuFound : Bool

/-- What one initialisation meets, its registry calls succeeding. -/
structure Met (count : Nat) where
  nvidiaGpuFound : Bool
  envs : Nat → RegistryEnv
  succeeds : ∀ channel < count, EnvSucceeds (envs channel)

/-- `data_source_nvidia_prepare` sets the flag and never clears it. -/
def Met.found {count : Nat} (met : Met count) (sameProcess : Bool) (d : Driver) : Bool :=
  met.nvidiaGpuFound || (sameProcess && d.nvidiaGpuFound)

def windowsPanel (count : Nat) : Panel Driver (Met count) where
  tables d := d.windows.tables
  initializeBinding sameProcess met d :=
    match Source.WindowsReader.restart (met.found sameProcess d) sameProcess met.envs count
      d.windows with
    | .bound windows _ => ⟨windows, met.found sameProcess d⟩
    | .unallocated _ => d
  after d call := { d with windows := (windowsApi d.nvidiaGpuFound).after d.windows call }

/-- The condition on one event, in the state before it: it binds a live source to an
uncalibrated channel only while the channel's calibration, the stored one for an
initialisation, is half scale. -/
def BindsAtHalfScale (count : Nat) (s : State Driver) : Event (Met count) → Prop
  | .initializeBinding sameProcess met => ∀ channel < count, s.calibrated channel = false →
      Live (Source.WindowsReader.nameStringToCallback (met.found sameProcess s.reader)
        (takenName (met.envs channel).keyValueBuffer
          (s.reader.windows.registry (channelKey channel)))) →
      s.reader.windows.registry (calibrationKey channel) = some (dword 0x80)
  | .call (.setChannelSourceBinding channel name) =>
    channel < count → s.calibrated channel = false →
      Live (Source.WindowsReader.nameStringToCallback s.reader.nvidiaGpuFound name) →
      s.reader.windows.tables.calibration channel = 0x80
  | _ => True

/-- What every run keeps: an uncalibrated channel has one of the two defaults, and has it
stored. -/
structure Defaulted (count : Nat) (s : State Driver) : Prop where
  loaded : WindowsStored.Loaded count s.reader.windows
  defaults : ∀ channel < count, s.calibrated channel = false →
    (s.reader.windows.tables.calibration channel = 0x80 ∨
      s.reader.windows.tables.calibration channel = 0xFF) ∧
    s.reader.windows.registry (calibrationKey channel) =
      some (dword (s.reader.windows.tables.calibration channel))

section windows
variable {count : Nat} {s : State Driver}

theorem initializeBinding_takes (sameProcess : Bool) (met : Met count) (d : Driver) :
    ∃ windows, (windowsPanel count).initializeBinding sameProcess met d =
        ⟨windows, met.found sameProcess d⟩ ∧
      TakenUpTo (met.found sameProcess d) met.envs d.windows.registry count count windows := by
  obtain ⟨windows, looped, taken⟩ := loop_takes (met.found sameProcess d)
    (sameProcess && d.windows.opened) d.windows.registry met.succeeds
  refine ⟨windows, ?_, taken⟩
  simp [windowsPanel, Source.WindowsReader.restart, initializeDataSourceBinding, looped]

/-- Only a call of `set_channel_calibration` touches a channel's calibration. -/
theorem after_calibration {nvidiaGpuFound : Bool} {windows : Windows} {call : Call} {channel : Nat}
    (other : ∀ value, call ≠ .setChannelCalibration channel value) :
    ((windowsApi nvidiaGpuFound).after windows call).registry (calibrationKey channel) =
        windows.registry (calibrationKey channel) ∧
      ((windowsApi nvidiaGpuFound).after windows call).tables.calibration channel =
        windows.tables.calibration channel := by
  cases call with
  | setChannelSourceBinding c name =>
    refine ⟨setValue_other true
      (Ne.symm (Source.WindowsLoad.channelKey_ne_calibrationKey c channel)) _ _, ?_⟩
    exact congrArg (·.calibration channel) (setValue_tables _ _ _ _)
  | clearBinding c => exact ⟨rfl, rfl⟩
  | setChannelCalibration c value =>
    have different : channel ≠ c := by
      rintro rfl
      exact other value rfl
    refine ⟨setValue_other true
      (fun same => different (Source.WindowsLoad.calibrationKey_injective same)) _ _, ?_⟩
    refine (congrArg (·.calibration channel) (setValue_tables _ _ _ _)).trans ?_
    exact Tables.calibration_setCalibration_ne _ different _

theorem recorded_eq_false {calibrated : Nat → Bool} {call : Call} {channel : Nat}
    (uncalibrated : recorded calibrated call channel = false) :
    calibrated channel = false ∧ ∀ value, call ≠ .setChannelCalibration channel value := by
  cases call with
  | setChannelSourceBinding c name => exact ⟨uncalibrated, fun _ same => by cases same⟩
  | clearBinding c => exact ⟨uncalibrated, fun _ same => by cases same⟩
  | setChannelCalibration c value =>
    have different : channel ≠ c := by
      rintro rfl
      simp [recorded] at uncalibrated
    refine ⟨?_, fun _ same => ?_⟩
    · simpa [recorded, Function.update_of_ne different] using uncalibrated
    · cases same
      exact different rfl

/-- Every event keeps the defaults, which a later initialisation reads back. -/
theorem step_defaulted (channelCount : UInt8) (s : State Driver) (e : Event (Met count))
    (before : Defaulted count s) :
    Defaulted count (step (windowsPanel count) channelCount s e) := by
  cases e with
  | initializeBinding sameProcess met =>
    obtain ⟨windows, result, taken⟩ := initializeBinding_takes sameProcess met s.reader
    refine ⟨?_, fun channel below uncalibrated => ?_⟩
    · simp only [step, result]
      exact ⟨taken.sized, taken.opened⟩
    · obtain ⟨value, stored⟩ := before.defaults channel below uncalibrated
      obtain ⟨same, kept⟩ := (taken.calibrated channel below).1 _ stored
      simp only [step, result, same]
      exact ⟨value, kept⟩
  | call call =>
    refine ⟨AdvertisedBindings.step_loaded before.loaded (true, call),
      fun channel below uncalibrated => ?_⟩
    obtain ⟨earlier, other⟩ := recorded_eq_false uncalibrated
    have kept := @after_calibration s.reader.nvidiaGpuFound s.reader.windows call channel other
    simp only [step, windowsPanel, kept.1, kept.2]
    exact before.defaults channel below earlier
  | tick env => exact ⟨before.loaded, before.defaults⟩

/-- An event leaves every live source at half scale exactly when it meets the condition. -/
theorem step_halfScale_iff (channelCount : UInt8) (e : Event (Met count))
    (before : Defaulted count s) (half : HalfScale s.reader.windows.tables count s.calibrated) :
    HalfScale (step (windowsPanel count) channelCount s e).reader.windows.tables count
        (step (windowsPanel count) channelCount s e).calibrated ↔ BindsAtHalfScale count s e := by
  cases e with
  | initializeBinding sameProcess met =>
    obtain ⟨windows, result, taken⟩ := initializeBinding_takes sameProcess met s.reader
    simp only [step, result, HalfScale, BindsAtHalfScale]
    refine forall_congr' fun channel => forall_congr' fun below =>
      forall_congr' fun uncalibrated => ?_
    have stored := (before.defaults channel below uncalibrated).2
    rw [(taken.named channel below).2, ((taken.calibrated channel below).1 _ stored).1, stored,
      Option.some.injEq, dword_inj]
  | call call =>
    cases call with
    | setChannelSourceBinding channel name =>
      have tables : ((windowsPanel count).after s.reader
          (.setChannelSourceBinding channel name)).windows.tables =
            s.reader.windows.tables.setCallback channel
              (Source.WindowsReader.nameStringToCallback s.reader.nvidiaGpuFound name) :=
        setValue_tables _ _ _ _
      simp only [step, recorded, tables]
      exact halfScale_setCallback_iff before.loaded.1 half _
    | clearBinding channel =>
      have cleared :
          HalfScale (s.reader.windows.tables.setCallback channel none) count s.calibrated :=
        (halfScale_setCallback_iff before.loaded.1 half none).mpr
          fun _ _ live => (not_live_none live).elim
      exact ⟨fun _ => trivial, fun _ => cleared⟩
    | setChannelCalibration channel value =>
      have tables : ((windowsPanel count).after s.reader
          (.setChannelCalibration channel value)).windows.tables =
            s.reader.windows.tables.setCalibration channel value :=
        setValue_tables _ _ _ _
      simp only [step, recorded, tables]
      exact ⟨fun _ => trivial, fun _ => halfScale_setCalibration half channel value⟩
  | tick env => exact ⟨fun _ => trivial, fun _ => half⟩

theorem windows_protected_iff {channelCount : UInt8} {s : State Driver}
    (defaulted : Defaulted channelCount.toNat s)
    (half : HalfScale s.reader.windows.tables channelCount.toNat s.calibrated)
    (events : List (Event (Met channelCount.toNat))) :
    Runs.AllReached (step (windowsPanel channelCount.toNat) channelCount)
        (Protected (windowsPanel channelCount.toNat) channelCount) s events ↔
      Runs.EachStep (step (windowsPanel channelCount.toNat) channelCount)
        (BindsAtHalfScale channelCount.toNat) s events := by
  refine Runs.allReached_iff_eachStep (J := Defaulted channelCount.toNat)
    (P := fun s => Defaulted channelCount.toNat s ∧
      HalfScale s.reader.windows.tables channelCount.toNat s.calibrated)
    (step_defaulted channelCount) ?_ ?_ ?_ defaulted ⟨defaulted, half⟩ events
  · intro s holds
    exact protected_of_halfScale (P := windowsPanel channelCount.toNat) holds.1.loaded.1 holds.2
  · intro s e kept holds condition
    exact ⟨step_defaulted channelCount s e kept,
      (step_halfScale_iff channelCount e kept holds.2).mpr condition⟩
  · intro s e kept holds safe
    have next := step_defaulted channelCount s e kept
    refine (step_halfScale_iff channelCount e kept holds.2).mp ?_
    exact halfScale_of_protected (P := windowsPanel channelCount.toNat) next.loaded.1
      (fun channel below uncalibrated => (next.defaults channel below uncalibrated).1) safe

end windows

/-! ## Linux -/

def linuxPanel (J : JsonC) (count : Nat) : Panel Linux (Nat → SaveOutcome × SaveOutcome) where
  tables := Linux.tables
  initializeBinding sameProcess saves s :=
    match Source.LinuxReader.restart J sameProcess saves count s with
    | .bound s' _ => s'
    | .unallocated _ => s
  after := (linuxApi J).after

/-- No channel is bound to a live source. -/
def Unlit (count : Nat) (t : Tables) : Prop :=
  t.Sized count ∧ ∀ callback ∈ t.callbacks, ¬ Live callback

theorem not_live_of_unlit {count : Nat} {t : Tables} (unlit : Unlit count t) (channel : Nat) :
    ¬ Live (t.callback channel) := by
  rw [Tables.callback, List.getD_eq_getElem?_getD]
  cases found : t.callbacks[channel]? with
  | none => exact not_live_none
  | some callback => exact unlit.2 callback (List.mem_of_getElem? found)

theorem unlit_zeroed (count : Nat) : Unlit count (Tables.zeroed count) := by
  refine ⟨Tables.zeroed_sized count, fun callback member => ?_⟩
  rw [List.eq_of_mem_replicate member]
  exact not_live_none

theorem unlit_setCallback {count : Nat} {t : Tables} (unlit : Unlit count t) (channel : Nat)
    {callback : Callback} (dark : ¬ Live callback) :
    Unlit count (t.setCallback channel callback) := by
  refine ⟨(Tables.setCallback_sized _ _ _ _).mpr unlit.1, fun other member => ?_⟩
  rcases List.mem_or_eq_of_mem_set member with earlier | rfl
  · exact unlit.2 other earlier
  · exact dark

theorem unlit_setCalibration {count : Nat} {t : Tables} (unlit : Unlit count t) (channel : Nat)
    (value : UInt8) : Unlit count (t.setCalibration channel value) :=
  ⟨(Tables.setCalibration_sized _ _ _ _).mpr unlit.1, unlit.2⟩

/-- The only source this reader has is the constant one. -/
theorem linux_not_live (name : Name) : ¬ Live (Source.LinuxReader.nameStringToCallback name) := by
  unfold Source.LinuxReader.nameStringToCallback
  split
  · rintro ⟨source, bound, other⟩
    exact other (Option.some.inj bound).symm
  · exact not_live_none

section linux
variable {J : JsonC} {count : Nat} {s : Linux}

theorem saveThen_unlit (unlit : Unlit count s.tables) {commit : Tables → Tables}
    (commits : Unlit count (commit s.tables)) (save : SaveOutcome) (root : Json)
    (failure : Status) :
    Unlit count (Source.LinuxReader.saveThen J save root commit failure s).1.tables := by
  cases save with
  | done => exact commits
  | failed written => exact unlit
  | stopped written => exact unlit

theorem addDefault_unlit (unlit : Unlit count s.tables) {commit : Tables → Tables}
    (commits : Unlit count (commit s.tables)) (save : SaveOutcome) (key : String) (value : Json) :
    Unlit count (Source.LinuxReader.addDefault J save key value commit s).1.tables := by
  unfold Source.LinuxReader.addDefault
  cases s.withMember? key value with
  | none => exact unlit
  | some root => exact saveThen_unlit unlit commits save root _

theorem setMember_unlit (unlit : Unlit count s.tables) {commit : Tables → Tables}
    (commits : Unlit count (commit s.tables)) (save : SaveOutcome) (key : String)
    (update : Json → Option Json) :
    Unlit count (Source.LinuxReader.setMember J save key update commit s).1.tables := by
  unfold Source.LinuxReader.setMember
  split
  · exact saveThen_unlit unlit commits save _ _
  · exact unlit

theorem bindName_unlit (unlit : Unlit count s.tables) (save : SaveOutcome) (channel : Nat) :
    Unlit count (Source.LinuxReader.bindName J save channel s).1.tables := by
  unfold Source.LinuxReader.bindName
  cases s.member? (Source.LinuxReader.channelKey channel) with
  | none => exact addDefault_unlit unlit unlit save _ _
  | some object =>
    dsimp only
    cases J.getString object with
    | none => exact unlit
    | some name => exact unlit_setCallback unlit channel (linux_not_live name)

theorem bindCalibration_unlit (unlit : Unlit count s.tables) (save : SaveOutcome) (channel : Nat) :
    Unlit count (Source.LinuxReader.bindCalibration J save channel s).1.tables := by
  unfold Source.LinuxReader.bindCalibration
  cases s.member? (Source.LinuxReader.calibrationKey channel) with
  | none => exact addDefault_unlit unlit (unlit_setCalibration unlit channel 0x80) save _ _
  | some object => exact unlit_setCalibration unlit channel _

theorem getBoundDataSource_unlit (unlit : Unlit count s.tables) (saves : SaveOutcome × SaveOutcome)
    (channel : Nat) :
    Unlit count (Source.LinuxReader.getBoundDataSource J saves channel s).1.tables := by
  unfold Source.LinuxReader.getBoundDataSource
  cases Source.LinuxReader.loadRoot s with
  | none => exact unlit
  | some root =>
    have named := @bindName_unlit J count { s with rootObject := some root } unlit saves.1 channel
    dsimp only
    split
    next s' read =>
      rw [read] at named
      exact bindCalibration_unlit named saves.2 channel
    next s' outcome _ read =>
      rw [read] at named
      exact named

/-- However an initialisation ends, it has bound no live source. -/
theorem loop_unlit (saves : Nat → SaveOutcome × SaveOutcome) (unlit : Unlit count s.tables) :
    Unlit count (bindLoop
      (fun channel s => Source.LinuxReader.getBoundDataSource J (saves channel) channel s)
      count 0 s).1.tables :=
  bindLoop_keeps (I := fun s : Linux => Unlit count s.tables)
    (fun channel _ _ before => getBoundDataSource_unlit before (saves channel) channel)
    (Nat.zero_add count) unlit

theorem after_unlit (unlit : Unlit count s.tables) (call : Call) :
    Unlit count ((linuxApi J).after s call).tables := by
  cases call with
  | setChannelSourceBinding channel name =>
    exact setMember_unlit unlit (unlit_setCallback unlit channel (linux_not_live name)) _ _ _
  | clearBinding channel => exact unlit_setCallback unlit channel not_live_none
  | setChannelCalibration channel value =>
    exact setMember_unlit unlit (unlit_setCalibration unlit channel value) _ _ _

theorem step_unlit (channelCount : UInt8) (s : State Linux)
    (e : Event (Nat → SaveOutcome × SaveOutcome)) (unlit : Unlit count s.reader.tables) :
    Unlit count (step (linuxPanel J count) channelCount s e).reader.tables := by
  cases e with
  | initializeBinding sameProcess saves => exact loop_unlit saves (unlit_zeroed count)
  | call call => exact after_unlit unlit call
  | tick env => exact unlit

theorem linux_protected {channelCount : UInt8} {s : State Linux}
    (unlit : Unlit channelCount.toNat s.reader.tables)
    (events : List (Event (Nat → SaveOutcome × SaveOutcome))) :
    Runs.AllReached (step (linuxPanel J channelCount.toNat) channelCount)
      (Protected (linuxPanel J channelCount.toNat) channelCount) s events := by
  have reached := Runs.allReached_of_invariant
    (P := fun s : State Linux => Unlit channelCount.toNat s.reader.tables)
    (fun s e before => @step_unlit J channelCount.toNat channelCount s e before) unlit events
  refine reached.mono fun s unlit => ?_
  exact protected_of_halfScale (P := linuxPanel J channelCount.toNat) unlit.1
    fun channel _ _ live => (not_live_of_unlit unlit channel live).elim

end linux

/-! ## From the first initialisation -/

/-- The process after `initialize_data_source_binding` on a key. -/
def begun (nvidiaGpuFound : Bool) (registry : RegistryKey) (windows : Windows) : State Driver where
  reader := ⟨windows, nvidiaGpuFound⟩
  lastTimes := SystemTimes.zero
  calibrated channel := (registry (calibrationKey channel)).isSome

theorem defaultCalibration_cases (name : Name) :
    defaultCalibration name = 0x80 ∨ defaultCalibration name = 0xFF := by
  unfold defaultCalibration
  split
  · exact .inr rfl
  · exact .inl rfl

/-- A name with a live source is not the one that defaults to full scale. -/
theorem defaultCalibration_live {nvidiaGpuFound : Bool} {name : Name}
    (live : Live (Source.WindowsReader.nameStringToCallback nvidiaGpuFound name)) :
    defaultCalibration name = 0x80 := by
  unfold defaultCalibration
  refine if_neg fun same => ?_
  obtain ⟨source, bound, other⟩ := live
  rw [same] at bound
  exact other (Option.some.inj bound).symm

section begun
variable {nvidiaGpuFound : Bool} {count : Nat} {envs : Nat → RegistryEnv} {registry : RegistryKey}
  {windows : Windows} (taken : TakenUpTo nvidiaGpuFound envs registry count count windows)
include taken

theorem begun_default {channel : Nat} (below : channel < count)
    (uncalibrated : (begun nvidiaGpuFound registry windows).calibrated channel = false) :
    windows.tables.calibration channel = defaultCalibration
        (takenName (envs channel).keyValueBuffer (registry (channelKey channel))) ∧
      windows.registry (calibrationKey channel) =
        some (dword (windows.tables.calibration channel)) := by
  have missing : registry (calibrationKey channel) = none :=
    Option.isSome_eq_false_iff.mp uncalibrated |> Option.isNone_iff_eq_none.mp
  exact (taken.calibrated channel below).2 missing

theorem begun_defaulted : Defaulted count (begun nvidiaGpuFound registry windows) := by
  refine ⟨⟨taken.sized, taken.opened⟩, fun channel below uncalibrated => ?_⟩
  obtain ⟨value, stored⟩ := begun_default taken below uncalibrated
  refine ⟨?_, stored⟩
  show windows.tables.calibration channel = 0x80 ∨ windows.tables.calibration channel = 0xFF
  rw [value]
  exact defaultCalibration_cases _

theorem begun_halfScale :
    HalfScale windows.tables count (begun nvidiaGpuFound registry windows).calibrated := by
  intro channel below uncalibrated live
  rw [(taken.named channel below).2] at live
  rw [(begun_default taken below uncalibrated).1]
  exact defaultCalibration_live live

end begun

/-- On Windows, in every run from any key with the registry calls succeeding: no tick drives
an uncalibrated channel with a live source above half scale exactly when such a source is
bound, by a call or by an initialisation, only while the channel's calibration is half scale.
On Linux no run does, however its saves end. -/
theorem voltmeter_protected_iff (J : JsonC) (nvidiaGpuFound : Bool) (channelCount : UInt8)
    {registry : RegistryKey} {envs : Nat → RegistryEnv} {windows : Windows}
    (succeeds : ∀ channel < channelCount.toNat, EnvSucceeds (envs channel))
    (windowsStarted : Source.WindowsReader.start nvidiaGpuFound envs channelCount.toNat registry =
      .bound windows (.returned .success))
    (windowsEvents : List (Event (Met channelCount.toNat)))
    {file : ConfigFile} {saves : Nat → SaveOutcome × SaveOutcome} {linux : Linux}
    {outcome : Outcome}
    (linuxStarted : Source.LinuxReader.start J saves channelCount.toNat file = .bound linux outcome)
    (linuxCalibrated : Nat → Bool) (linuxEvents : List (Event (Nat → SaveOutcome × SaveOutcome))) :
    (Runs.AllReached (step (windowsPanel channelCount.toNat) channelCount)
        (Protected (windowsPanel channelCount.toNat) channelCount)
        (begun nvidiaGpuFound registry windows) windowsEvents ↔
      Runs.EachStep (step (windowsPanel channelCount.toNat) channelCount)
        (BindsAtHalfScale channelCount.toNat)
        (begun nvidiaGpuFound registry windows) windowsEvents) ∧
    Runs.AllReached (step (linuxPanel J channelCount.toNat) channelCount)
      (Protected (linuxPanel J channelCount.toNat) channelCount)
      ⟨linux, SystemTimes.zero, linuxCalibrated⟩ linuxEvents := by
  constructor
  · have taken := Source.WindowsLoad.start_taken succeeds windowsStarted
    exact windows_protected_iff (begun_defaulted taken) (begun_halfScale taken) windowsEvents
  · have looped := Source.LinuxLoad.start_bound.mp linuxStarted
    have unlit := @loop_unlit J channelCount.toNat
      (Source.LinuxReader.fresh file (Tables.zeroed channelCount.toNat)) saves (unlit_zeroed _)
    rw [looped] at unlit
    exact linux_protected unlit linuxEvents

/-- The only channel is bound to the memory load. -/
def bindRam {ε : Type} : List (Event ε) :=
  [.call (.setChannelSourceBinding 0 Source.Names.ramUtility)]

theorem voltmeter_protected_firstPanel :
    Runs.AllReached (step (windowsPanel 1) 1) (Protected (windowsPanel 1) 1)
        (begun true emptyKey BindingRestored.firstWindows) bindRam ∧
      Runs.AllReached (step (linuxPanel plain 1) 1) (Protected (linuxPanel plain 1) 1)
        ⟨firstStart, SystemTimes.zero, fun _ => false⟩ bindRam := by
  have linuxStarted : Source.LinuxReader.start plain allDone 1 .absent =
      .bound firstStart (.returned .success) := rfl
  have guarded := voltmeter_protected_iff plain true 1 (quietEnv_succeeds 1)
    BindingRestored.firstWindows_started bindRam linuxStarted (fun _ => false) bindRam
  exact ⟨guarded.1.mpr ⟨fun _ _ _ => rfl, trivial⟩, guarded.2⟩

/-- A channel first loaded as `Calibration` and then bound to the memory load is sent 252
when memory is nearly full. -/
theorem default_survives_binding :
    ∃ windows, Source.WindowsReader.start true quietEnv 1
        (regSetValueEx emptyKey (channelKey 0)
          (Source.WindowsReader.stored Source.Names.calibration)) =
          .bound windows (.returned .success) ∧
      ¬ Runs.AllReached (step (windowsPanel 1) 1) (Protected (windowsPanel 1) 1)
        (begun true (regSetValueEx emptyKey (channelKey 0)
          (Source.WindowsReader.stored Source.Names.calibration)) windows) bindRam := by
  refine ⟨_, rfl, fun reached => ?_⟩
  have level : (252 : UInt8) ≤ 0x80 := reached.last (hotAt 0 SystemTimes.zero) (sendUsage 0 252)
    List.mem_cons_self rfl ⟨.ramUtility, rfl, fun same => by cases same⟩
  exact absurd level (by decide)

end PerformancePanel.Guarantees.VoltmeterProtection
