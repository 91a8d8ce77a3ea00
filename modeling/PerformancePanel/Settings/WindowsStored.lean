import PerformancePanel.Settings.StoredReader
import PerformancePanel.Source.WindowsLoad

/-!
# The Windows reader as stored settings

With every registry call succeeding, the two setters are writes of the channel's cell
that nothing refuses. The array entry is taken from the name that was set, the stored
value is cut at its byte count: the two agree for names whose byte count fits a `DWORD`.
-/
set_option autoImplicit false

namespace PerformancePanel.Settings.WindowsStored
open Source.Common Source.DataSources Source.Collector Source.DataSourceInterface
open Source.Registry Source.WindowsReader Source.WindowsLoad Library Library.WriteThrough

/-- The interface as this reader implements it, every registry call succeeding. -/
def windowsApi (nvidiaGpuFound : Bool) : DataSourceApi Windows where
  tables := Windows.tables
  dataSourceNames := dataSourceNames
  nameStringToCallback := nameStringToCallback nvidiaGpuFound
  callbackToNameString := callbackToNameString
  setChannelSourceBinding := setChannelSourceBinding nvidiaGpuFound true
  clearBinding := clearBinding
  setChannelCalibration := setChannelCalibration true

def bindingCodec (nvidiaGpuFound : Bool) : Codec (Option (List UInt8)) Name Callback where
  accepts := fun _ => true
  encode := fun name => some (stored name)
  decode := fun value => nameStringToCallback nvidiaGpuFound (storedName value)
  absent := none

def calibrationCodec : Codec (Option (List UInt8)) UInt8 UInt8 where
  accepts := fun _ => true
  encode := fun value => some (dword value)
  decode := fun value => lowByte (value.getD [])
  absent := 0

def representation (nvidiaGpuFound : Bool) :
    Representation Windows (Option (List UInt8)) (Option (List UInt8)) where
  api := windowsApi nvidiaGpuFound
  storedBinding := fun s channel => s.registry (channelKey channel)
  storedCalibration := fun s channel => s.registry (calibrationKey channel)
  bindings := bindingCodec nvidiaGpuFound
  calibrations := calibrationCodec

/-- A name that the byte count of the setter covers. -/
def Fits (name : Name) : Prop := name.units ≠ [] ∧ name.units.length < 2 ^ 31

def Loaded (count : Nat) (s : Windows) : Prop :=
  s.tables.Sized count ∧ (0 < count → s.opened = true)

/-! A setter neither closes the key nor changes an array's length, however the storage
takes it. -/

theorem setValue_loaded {count : Nat} {s : Windows} (loaded : Loaded count s) (succeeds : Bool)
    (key : String) (data : List UInt8) : Loaded count (setValue succeeds key data s).1 := by
  refine ⟨?_, fun positive => ?_⟩
  · rw [setValue_tables]
    exact loaded.1
  · rw [setValue_opened]
    exact loaded.2 positive

theorem setChannelSourceBinding_loaded {count : Nat} {s : Windows} (loaded : Loaded count s)
    (nvidiaGpuFound succeeds : Bool) (channel : Nat) (name : Name) :
    Loaded count (setChannelSourceBinding nvidiaGpuFound succeeds channel name s).1 := by
  have changed : Loaded count { s with
      tables := s.tables.setCallback channel (nameStringToCallback nvidiaGpuFound name) } :=
    ⟨(Tables.setCallback_sized _ _ _ _).mpr loaded.1, loaded.2⟩
  exact setValue_loaded changed succeeds _ _

theorem setChannelCalibration_loaded {count : Nat} {s : Windows} (loaded : Loaded count s)
    (succeeds : Bool) (channel : Nat) (value : UInt8) :
    Loaded count (setChannelCalibration succeeds channel value s).1 := by
  have changed : Loaded count { s with tables := s.tables.setCalibration channel value } :=
    ⟨(Tables.setCalibration_sized _ _ _ _).mpr loaded.1, loaded.2⟩
  exact setValue_loaded changed succeeds _ _

/-- The values of one kind of key after a value of that kind is set. -/
theorem regSetValueEx_update (registry : RegistryKey) {key : Nat → String}
    (injective : ∀ {c c'}, key c = key c' → c = c') (channel : Nat) (data : List UInt8) :
    (fun c => regSetValueEx registry (key channel) data (key c)) =
      Function.update (fun c => registry (key c)) channel (some data) := by
  funext c
  by_cases same : c = channel
  · rw [same, regSetValueEx_self, Function.update_self]
  · rw [Function.update_of_ne same, regSetValueEx_ne _ fun equal => same (injective equal)]

section refinement
variable {nvidiaGpuFound : Bool} {count : Nat} {s : Windows} (loaded : Loaded count s)
  {channel : Nat} (below : channel < count)
include loaded below

theorem setChannelSourceBinding_refines {name : Name} (fits : Fits name) :
    Loaded count (setChannelSourceBinding nvidiaGpuFound true channel name s).1 ∧
      (representation nvidiaGpuFound).bindingCells
          (setChannelSourceBinding nvidiaGpuFound true channel name s).1 =
        write (bindingCodec nvidiaGpuFound) ((representation nvidiaGpuFound).bindingCells s)
          channel name ∧
      (representation nvidiaGpuFound).calibrationCells
          (setChannelSourceBinding nvidiaGpuFound true channel name s).1 =
        (representation nvidiaGpuFound).calibrationCells s := by
  have isOpen : s.opened = true := loaded.2 (by omega)
  refine ⟨setChannelSourceBinding_loaded loaded nvidiaGpuFound true channel name, ?_⟩
  have accepts : (bindingCodec nvidiaGpuFound).accepts
      (((representation nvidiaGpuFound).bindingCells s).stored channel) = true := rfl
  rw [setChannelSourceBinding_opened isOpen, write, if_pos accepts]
  constructor
  · have source : storedName (some (stored name)) = name := by
      rw [stored_whole fits.1 fits.2]
      exact ofBuffer_bytes name
    simp only [Representation.bindingCells, representation, windowsApi, bindingCodec, source,
      callback_update loaded.1 below, regSetValueEx_update _ channelKey_injective]
  · have other (c : Nat) : calibrationKey c ≠ channelKey channel :=
      Ne.symm (channelKey_ne_calibrationKey channel c)
    simp only [Representation.calibrationCells, representation, windowsApi,
      regSetValueEx_ne _ (other _)]
    rfl

theorem setChannelCalibration_refines (value : UInt8) :
    Loaded count (setChannelCalibration true channel value s).1 ∧
      (representation nvidiaGpuFound).bindingCells (setChannelCalibration true channel value s).1 =
        (representation nvidiaGpuFound).bindingCells s ∧
      (representation nvidiaGpuFound).calibrationCells
      (setChannelCalibration true channel value s).1 =
        write calibrationCodec ((representation nvidiaGpuFound).calibrationCells s) channel
          value := by
  have isOpen : s.opened = true := loaded.2 (by omega)
  refine ⟨setChannelCalibration_loaded loaded true channel value, ?_⟩
  have accepts : calibrationCodec.accepts
      (((representation nvidiaGpuFound).calibrationCells s).stored channel) = true := rfl
  rw [setChannelCalibration_opened isOpen, write, if_pos accepts]
  constructor
  · have other (c : Nat) : channelKey c ≠ calibrationKey channel :=
      channelKey_ne_calibrationKey c channel
    simp only [Representation.bindingCells, representation, windowsApi,
      regSetValueEx_ne _ (other _)]
    rfl
  · simp only [Representation.calibrationCells, representation, windowsApi, calibrationCodec,
      calibration_update loaded.1 below, regSetValueEx_update _ calibrationKey_injective]
    rfl

theorem clearBinding_refines :
    Loaded count (clearBinding channel s).1 ∧
      (representation nvidiaGpuFound).bindingCells (clearBinding channel s).1 =
        drop (bindingCodec nvidiaGpuFound)
          ((representation nvidiaGpuFound).bindingCells s) channel ∧
      (representation nvidiaGpuFound).calibrationCells (clearBinding channel s).1 =
        (representation nvidiaGpuFound).calibrationCells s := by
  obtain ⟨sized, opened⟩ := loaded
  refine ⟨⟨(Tables.setCallback_sized _ _ _ _).mpr sized, opened⟩, ?_, rfl⟩
  have cached := callback_update sized below none
  exact congrArg (Cells.mk _) cached

end refinement

/-- Every reported name is one the reader lists. -/
theorem callbackToNameString_listed (callback : Callback) :
    callbackToNameString callback ∈ dataSourceNames := by
  cases callback with
  | none => decide
  | some source => cases source <;> decide

/-- The Windows reader refines write-through cells. -/
def windowsStored (nvidiaGpuFound : Bool) (count : Nat) :
    StoredReader Windows (Option (List UInt8)) (Option (List UInt8)) where
  toRepresentation := representation nvidiaGpuFound
  count := count
  fits := Fits
  Loaded := Loaded count
  absent_none := rfl
  refused_none := fun _ refused => by cases refused
  listed := callbackToNameString_listed
  listed_fits := by
    intro name member
    have all : ∀ listed ∈ dataSourceNames, listed.units ≠ [] ∧
      listed.units.length < 2 ^ 31 := by decide
    exact all name member
  refines := by
    intro s call loaded admissible
    cases call with
    | setChannelSourceBinding channel name =>
      exact setChannelSourceBinding_refines loaded admissible.1 admissible.2
    | clearBinding channel => exact clearBinding_refines loaded admissible
    | setChannelCalibration channel value =>
        exact setChannelCalibration_refines loaded admissible value

/-- A start leaves a loaded reader whose callbacks are decoded from the key. -/
theorem loaded_of_start {nvidiaGpuFound : Bool} {registry : RegistryKey} {count : Nat} {s : Windows}
    (loaded : LoadedUpTo nvidiaGpuFound registry count count s) :
    Loaded count s ∧ ∀ c < count, s.tables.callback c =
      nameStringToCallback nvidiaGpuFound (storedName (s.registry (channelKey c))) := by
  refine ⟨⟨loaded.sized, loaded.opened⟩, fun c below => ?_⟩
  obtain ⟨same, restartable, callback⟩ := loaded.named c below
  rw [callback, ← same, restartable.source]

end PerformancePanel.Settings.WindowsStored
