import PerformancePanel.Source.Collector
import PerformancePanel.Source.JsonLibrary

/-!
# Linux configuration reader

Source: datasource/linux/configurationreader.c. The state is the cached document
`root_object`, config.json and the two binding arrays; the outcome of every save is an
input of the call that makes it. `stat` fails exactly when the file is missing. The
only name this reader maps to a source is `Calibration`.
-/
set_option autoImplicit false

namespace PerformancePanel.Source.LinuxReader
open Common DataSources Collector JsonLibrary

/-- `data_source_names`, in the order of the reader's enumeration. -/
def dataSourceNames : List Name :=
  [Names.unallocated, Names.calibration, Names.cpuUtility, Names.gpuUtility, Names.ramUtility,
    Names.cpuTemperature, Names.gpuTemperature]

def nameStringToCallback (name : Name) : Callback :=
  if name = Names.calibration then some .calibration else none

def callbackToNameString (callback : Callback) : Name :=
  if callback = some .calibration then Names.calibration else Names.unallocated

def channelKey (channel : Nat) : String := Names.numbered "channel" channel

def calibrationKey (channel : Nat) : String := Names.numbered "calibration" channel

structure Linux where
  rootObject : Option Json
  file : ConfigFile
  tables : Tables

namespace Linux

/-- `json_object_object_get_ex(root_object, key, &object)`; false while it is NULL. -/
def member? (s : Linux) (key : String) : Option Json := s.rootObject.bind (·.get? key)

/-- The cached document with one member set; `none` on anything but an object. -/
def withMember? (s : Linux) (key : String) (value : Json) : Option Json :=
  s.rootObject.bind (·.put? key value)

end Linux

/-- The cached document is replaced and saved; it stays replaced if the save fails. -/
def saveRoot (J : JsonC) (save : SaveOutcome) (root : Json) (s : Linux) : Linux × SaveResult :=
  let saved := jsonObjectToFileExt J root s.file save
  ({ s with rootObject := some root, file := saved.1 }, saved.2)

/-- Save, then update the arrays on success or return `failure`. -/
def saveThen (J : JsonC) (save : SaveOutcome) (root : Json) (commit : Tables → Tables)
    (failure : Status) (s : Linux) : Linux × Outcome :=
  match saveRoot J save root s with
  | (s', .written) => ({ s' with tables := commit s'.tables }, .returned .success)
  | (s', .error) => (s', .returned failure)
  | (s', .stopped) => (s', .stopped)

/-- The document `get_bound_data_source` works on; `none` is a file that cannot be loaded. -/
def loadRoot (s : Linux) : Option Json :=
  match s.rootObject with
  | some root => some root
  | none =>
    match s.file with
    | .absent => some (.object [])
    | file => jsonObjectFromFile file

/-- A missing key is added with its default and the whole document saved. -/
def addDefault (J : JsonC) (save : SaveOutcome) (key : String) (value : Json)
    (commit : Tables → Tables) (s : Linux) : Linux × Outcome :=
  match s.withMember? key value with
  | some root => saveThen J save root commit .invalidConfiguration s
  | none => (s, .fault .notAnObject)

/-- First half of `get_bound_data_source`. A default binding leaves `*callback` alone. -/
def bindName (J : JsonC) (save : SaveOutcome) (channel : Nat) (s : Linux) : Linux × Outcome :=
  match s.member? (channelKey channel) with
  | some object =>
    match J.getString object with
    | some name =>
      ({ s with tables := s.tables.setCallback channel (nameStringToCallback name) },
        .returned .success)
    | none => (s, .fault .nullString)
  | none => addDefault J save (channelKey channel) (.string Names.unallocated.units) id s

/-- Second half of `get_bound_data_source`. -/
def bindCalibration (J : JsonC) (save : SaveOutcome) (channel : Nat) (s : Linux) :
    Linux × Outcome :=
  match s.member? (calibrationKey channel) with
  | some object =>
    ({ s with tables := s.tables.setCalibration channel (UInt8.ofInt (J.getInt object)) },
      .returned .success)
  | none =>
    addDefault J save (calibrationKey channel) (.int 0x80) (·.setCalibration channel 0x80) s

def getBoundDataSource (J : JsonC) (saves : SaveOutcome × SaveOutcome) (channel : Nat)
    (s : Linux) : Linux × Outcome :=
  match loadRoot s with
  | none => (s, .returned .invalidConfiguration)
  | some root =>
    match bindName J saves.1 channel { s with rootObject := some root } with
    | (s', .returned .success) => bindCalibration J saves.2 channel s'
    | (s', outcome) => (s', outcome)

def getSourceBindingName (s : Linux) (channel : Nat) : Name :=
  callbackToNameString (s.tables.callback channel)

/-- The common shape of the two setters: the key must exist and hold a value of the
right type; the arrays change only after a successful save. -/
def setMember (J : JsonC) (save : SaveOutcome) (key : String) (update : Json → Option Json)
    (commit : Tables → Tables) (s : Linux) : Linux × Outcome :=
  match ((s.member? key).bind update).bind (s.withMember? key) with
  | some root => saveThen J save root commit .deviceConfigurationFailed s
  | none => (s, .returned .deviceConfigurationFailed)

def setChannelSourceBinding (J : JsonC) (save : SaveOutcome) (channel : Nat) (bindingName : Name)
    (s : Linux) : Linux × Outcome :=
  setMember J save (channelKey channel) (·.setString? bindingName)
    (·.setCallback channel (nameStringToCallback bindingName)) s

def clearBinding (channel : Nat) (s : Linux) : Linux × Outcome :=
  ({ s with tables := s.tables.setCallback channel none }, .returned .success)

def setChannelCalibration (J : JsonC) (save : SaveOutcome) (channel : Nat) (calibration : UInt8)
    (s : Linux) : Linux × Outcome :=
  setMember J save (calibrationKey channel) (·.setInt? calibration.toNat)
    (·.setCalibration channel calibration) s

/-- A fresh process: nothing cached, arrays not yet allocated. -/
def fresh (file : ConfigFile) (tables : Tables) : Linux := ⟨none, file, tables⟩

/-- `initialize_data_source_binding` of a fresh process whose allocations succeed. -/
def start (J : JsonC) (saves : Nat → SaveOutcome × SaveOutcome) (count : Nat)
    (file : ConfigFile) : Initialized Linux :=
  initializeDataSourceBinding true true count (fresh file)
    fun channel s => getBoundDataSource J (saves channel) channel s

/-- `initialize_data_source_binding` again: the same process has its document cached, a
later one finds the file alone. -/
def restart (J : JsonC) (sameProcess : Bool) (saves : Nat → SaveOutcome × SaveOutcome) (count : Nat)
    (s : Linux) : Initialized Linux :=
  initializeDataSourceBinding true true count
    (fun tables => ⟨if sameProcess then s.rootObject else none, s.file, tables⟩)
    fun channel s => getBoundDataSource J (saves channel) channel s

end PerformancePanel.Source.LinuxReader
