import PerformancePanel.Source.Collector

/-!
# The configuration interface

Source: include/datasource.h, the calls a front end makes on a loaded configuration
reader. Both readers give the same `get_source_binding_name`; `iterate_binding_names`
lists `dataSourceNames`.
-/
set_option autoImplicit false

namespace PerformancePanel.Source.DataSourceInterface
open Common DataSources Collector

/-- One implementation of the interface; `σ` is its process memory and its store. -/
structure DataSourceApi (σ : Type) where
  tables : σ → Tables
  dataSourceNames : List Name
  nameStringToCallback : Name → Callback
  callbackToNameString : Callback → Name
  setChannelSourceBinding : Nat → Name → σ → σ × Outcome
  clearBinding : Nat → σ → σ × Outcome
  setChannelCalibration : Nat → UInt8 → σ → σ × Outcome

inductive Call where
  | setChannelSourceBinding (channel : Nat) (bindingName : Name)
  | clearBinding (channel : Nat)
  | setChannelCalibration (channel : Nat) (calibration : UInt8)

def Call.channel : Call → Nat
  | .setChannelSourceBinding channel _ => channel
  | .clearBinding channel => channel
  | .setChannelCalibration channel _ => channel

/-- A call that decides what a channel is bound to. -/
def Call.isBindingOf (channel : Nat) : Call → Bool
  | .setChannelSourceBinding c _ => c == channel
  | .clearBinding c => c == channel
  | .setChannelCalibration _ _ => false

/-- The last binding operation on a channel was `clear_binding`. -/
def LastCleared (channel : Nat) (calls : List Call) : Prop :=
  (calls.filter (Call.isBindingOf channel)).getLast? = some (.clearBinding channel)

namespace DataSourceApi

variable {σ : Type} (api : DataSourceApi σ)

def getSourceBindingName (s : σ) (channel : Nat) : Name :=
  api.callbackToNameString ((api.tables s).callback channel)

def perform (s : σ) : Call → σ × Outcome
  | .setChannelSourceBinding channel bindingName =>
    api.setChannelSourceBinding channel bindingName s
  | .clearBinding channel => api.clearBinding channel s
  | .setChannelCalibration channel calibration => api.setChannelCalibration channel calibration s

def after (s : σ) (call : Call) : σ := (api.perform s call).1

end DataSourceApi

end PerformancePanel.Source.DataSourceInterface
