import Mathlib.Logic.Function.Basic
import PerformancePanel.Source.WindowsReader

/-!
# The two roots of the registry key

Source: the opening branch of `get_bound_data_source` in
datasource/windows/registryreader.c. The settings key exists under two roots; a process
opens the one under `HKEY_LOCAL_MACHINE`, or, without the rights to, the one of the user,
and keeps it in the static `registry_key` to its end. `WindowsReader` is the same reader
on the one key it has open.
-/
set_option autoImplicit false

namespace PerformancePanel.Source.RegistryHives
open Common DataSources Collector Registry
open WindowsReader (Windows RegistryEnv)

inductive Hive where
  | localMachine
  | currentUser
  deriving DecidableEq, Repr

/-- A process and both keys; `none` is a `registry_key` that is NULL. -/
structure Hosted where
  registryKey : Option Hive
  hives : Hive → RegistryKey
  tables : Tables

/-- The root that the two `RegCreateKeyEx` calls open. -/
def regCreateKeyEx (env : RegistryEnv) : Option Hive :=
  if env.openLocalMachine then some .localMachine
  else if env.openCurrentUser then some .currentUser
  else none

/-- The process as the reader of one of the keys. -/
def Hosted.reader (s : Hosted) (hive : Hive) : Windows where
  opened := s.registryKey == some hive
  registry := s.hives hive
  tables := s.tables

/-- The process after a call of that reader. -/
def Hosted.read (s : Hosted) (hive : Hive) (w : Windows) : Hosted where
  registryKey := s.registryKey
  hives := Function.update s.hives hive w.registry
  tables := w.tables

def getBoundDataSource (nvidiaGpuFound : Bool) (env : RegistryEnv) (channel : Nat) (s : Hosted) :
    Hosted × Outcome :=
  match s.registryKey.or (regCreateKeyEx env) with
  | none => (s, .returned .invalidConfiguration)
  | some hive =>
    let opened : Hosted := { s with registryKey := some hive }
    let result := WindowsReader.getBoundDataSource nvidiaGpuFound env channel (opened.reader hive)
    (opened.read hive result.1, result.2)

/-- A setter on the open key; a `registry_key` that is NULL refuses every value. -/
def onKey (setter : Windows → Windows × Outcome) (s : Hosted) : Hosted × Outcome :=
  match s.registryKey with
  | some hive =>
    let result := setter (s.reader hive)
    (s.read hive result.1, result.2)
  | none =>
    let result := setter ⟨false, fun _ => none, s.tables⟩
    ({ s with tables := result.1.tables }, result.2)

/-- What a process does with its settings, storage outcomes included. -/
inductive Event where
  | initializeBinding (nvidiaGpuFound : Bool) (envs : Nat → RegistryEnv) (count : Nat)
  | setChannelSourceBinding (nvidiaGpuFound succeeds : Bool) (channel : Nat) (bindingName : Name)
  | clearBinding (channel : Nat)
  | setChannelCalibration (succeeds : Bool) (channel : Nat) (calibration : UInt8)

/-- One event; an initialisation whose allocations succeed. -/
def perform (s : Hosted) : Event → Hosted × Outcome
  | .initializeBinding nvidiaGpuFound envs count =>
    bindLoop (fun channel s => getBoundDataSource nvidiaGpuFound (envs channel) channel s) count 0
      { s with tables := Tables.zeroed count }
  | .setChannelSourceBinding nvidiaGpuFound succeeds channel bindingName =>
    onKey (WindowsReader.setChannelSourceBinding nvidiaGpuFound succeeds channel bindingName) s
  | .clearBinding channel =>
    ({ s with tables := s.tables.setCallback channel none }, .returned .success)
  | .setChannelCalibration succeeds channel calibration =>
    onKey (WindowsReader.setChannelCalibration succeeds channel calibration) s

/-- The same event of a process that has one key. -/
def performOn (w : Windows) : Event → Windows × Outcome
  | .initializeBinding nvidiaGpuFound envs count =>
    bindLoop (fun channel s => WindowsReader.getBoundDataSource nvidiaGpuFound (envs channel)
      channel s)
      count 0 { w with tables := Tables.zeroed count }
  | .setChannelSourceBinding nvidiaGpuFound succeeds channel bindingName =>
    WindowsReader.setChannelSourceBinding nvidiaGpuFound succeeds channel bindingName w
  | .clearBinding channel => WindowsReader.clearBinding channel w
  | .setChannelCalibration succeeds channel calibration =>
    WindowsReader.setChannelCalibration succeeds channel calibration w

/-- A state and the outcomes of the calls so far. -/
structure Seen (σ : Type) where
  state : σ
  outcomes : List Outcome

def record {σ : Type} (perform : σ → Event → σ × Outcome) (seen : Seen σ) (e : Event) : Seen σ where
  state := (perform seen.state e).1
  outcomes := seen.outcomes ++ [(perform seen.state e).2]

/-- A process on both keys. -/
def process (hives : Hive → RegistryKey) (events : List Event) : Seen Hosted :=
  events.foldl (record perform) ⟨⟨none, hives, Tables.zeroed 0⟩, []⟩

/-- A process on one key. -/
def processOn (registry : RegistryKey) (events : List Event) : Seen Windows :=
  events.foldl (record performOn) ⟨WindowsReader.fresh registry (Tables.zeroed 0), []⟩

/-- What an event leaves in `registry_key`. -/
def keyAfter (registryKey : Option Hive) : Event → Option Hive
  | .initializeBinding _ envs count =>
    if 0 < count then registryKey.or (regCreateKeyEx (envs 0)) else registryKey
  | _ => registryKey

/-- The key that a process works on, if it ever opens one. -/
def hiveOf (events : List Event) : Option Hive := events.foldl keyAfter none

end PerformancePanel.Source.RegistryHives
