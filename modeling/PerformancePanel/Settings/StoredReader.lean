import Mathlib.Data.List.Induction
import PerformancePanel.Library.WriteThrough
import PerformancePanel.Source.DataSourceInterface

/-!
# What a configuration reader is for

Seen from the front ends a loaded reader keeps, for each channel, a stored binding and a
stored calibration and the array entries decoded from them: two families of write-through
cells. `StoredReader` states this of an implementation, for the channels below its count
and as long as the storage accepts every write. The implementation's run is then the run
of the cells, and whatever the last operation on a channel was, a later start decodes the
entry the process had, unless that operation was `clear_binding`.
-/
set_option autoImplicit false

namespace PerformancePanel.Settings
open Source.Common Source.DataSources Source.Collector Source.DataSourceInterface
open Library Library.WriteThrough

/-- How an implementation represents the two cell families. -/
structure Representation (σ B C : Type) where
  api : DataSourceApi σ
  storedBinding : σ → Nat → B
  storedCalibration : σ → Nat → C
  bindings : Codec B Name Callback
  calibrations : Codec C UInt8 UInt8

namespace Representation

variable {σ B C : Type} (R : Representation σ B C)

def bindingCells (s : σ) : Cells Nat B Callback := ⟨R.storedBinding s, (R.api.tables s).callback⟩

def calibrationCells (s : σ) : Cells Nat C UInt8 :=
  ⟨R.storedCalibration s, (R.api.tables s).calibration⟩

end Representation

/-- What one call means for the binding cells. -/
def bindingOps : Call → List (Op Nat Name)
  | .setChannelSourceBinding channel bindingName => [.write channel bindingName]
  | .clearBinding channel => [.drop channel]
  | .setChannelCalibration _ _ => []

/-- What one call means for the calibration cells. -/
def calibrationOps : Call → List (Op Nat UInt8)
  | .setChannelCalibration channel calibration => [.write channel calibration]
  | _ => []

/-- A call on a channel below the count whose name the storage keeps whole. -/
def Call.Admissible (count : Nat) (fits : Name → Prop) : Call → Prop
  | .setChannelSourceBinding channel bindingName => channel < count ∧ fits bindingName
  | .clearBinding channel => channel < count
  | .setChannelCalibration channel _ => channel < count

/-- An implementation whose calls are the operations of write-through cells. -/
structure StoredReader (σ B C : Type) extends Representation σ B C where
  count : Nat
  fits : Name → Prop
  Loaded : σ → Prop
  absent_none : bindings.absent = none
  refused_none : ∀ value, bindings.accepts value = false → bindings.decode value = none
  listed : ∀ callback, api.callbackToNameString callback ∈ api.dataSourceNames
  listed_fits : ∀ name ∈ api.dataSourceNames, fits name
  refines : ∀ s call, Loaded s → Call.Admissible count fits call →
    Loaded (api.after s call) ∧
      toRepresentation.bindingCells (api.after s call) =
        Runs.run (WriteThrough.step bindings) (toRepresentation.bindingCells s) (bindingOps call) ∧
      toRepresentation.calibrationCells (api.after s call) =
        Runs.run (WriteThrough.step calibrations) (toRepresentation.calibrationCells s)
          (calibrationOps call)

/-! ## Array entries as functions of the channel -/

theorem callback_update {t : Tables} {count channel : Nat} (sized : t.Sized count)
    (below : channel < count) (bound : Callback) :
    (t.setCallback channel bound).callback = Function.update t.callback channel bound := by
  funext other
  by_cases same : other = channel
  · subst same
    rw [Function.update_self, Tables.callback_setCallback_self sized below]
  · rw [Function.update_of_ne same, Tables.callback_setCallback_ne _ same]

theorem calibration_update {t : Tables} {count channel : Nat} (sized : t.Sized count)
    (below : channel < count) (value : UInt8) :
    (t.setCalibration channel value).calibration = Function.update t.calibration channel value := by
  funext other
  by_cases same : other = channel
  · subst same
    rw [Function.update_self, Tables.calibration_setCalibration_self sized below]
  · rw [Function.update_of_ne same, Tables.calibration_setCalibration_ne _ same]

/-! ## Dropped cells and cleared channels -/

theorem dropped_append {ι W : Type} [DecidableEq ι] (i : ι) (d : Bool)
    (first rest : List (Op ι W)) :
    dropped i d (first ++ rest) = dropped i (dropped i d first) rest := by
  induction first generalizing d with
  | nil => rfl
  | cons op first ih => cases op <;> exact ih _

/-- A channel's cell was dropped last exactly when its binding was cleared last. -/
theorem dropped_iff_lastCleared (channel : Nat) (calls : List Call) :
    dropped channel false (calls.flatMap bindingOps) = true ↔ LastCleared channel calls := by
  induction calls using List.reverseRecOn with
  | nil => simp [dropped, LastCleared]
  | append_singleton calls call ih =>
    rw [List.flatMap_append, dropped_append]
    unfold LastCleared at ih ⊢
    rw [List.filter_append]
    by_cases about : call.isBindingOf channel = true
    · rw [List.filter_cons_of_pos about]
      cases call with
      | setChannelSourceBinding c bindingName =>
        have same : c = channel := by simpa [Call.isBindingOf] using about
        simp [bindingOps, dropped, same]
      | clearBinding c =>
        have same : c = channel := by simpa [Call.isBindingOf] using about
        simp [bindingOps, dropped, same]
      | setChannelCalibration c calibration => simp [Call.isBindingOf] at about
    · rw [List.filter_cons_of_neg about, List.filter_nil, List.append_nil, ← ih]
      cases call with
      | setChannelSourceBinding c bindingName =>
        have different : ¬ c = channel := by simpa [Call.isBindingOf] using about
        simp [bindingOps, dropped, different]
      | clearBinding c =>
        have different : ¬ c = channel := by simpa [Call.isBindingOf] using about
        simp [bindingOps, dropped, different]
      | setChannelCalibration c calibration => simp [bindingOps, dropped]

namespace StoredReader

variable {σ B C : Type} (R : StoredReader σ B C)

/-- Every array entry is what a later start decodes. -/
def InSync (s : σ) : Prop :=
  ∀ channel < R.count, WriteThrough.InSync R.bindings (R.bindingCells s) channel ∧
    WriteThrough.InSync R.calibrations (R.calibrationCells s) channel

variable {R}

theorem dropped_none (cells : Cells Nat B Callback) (channel : Nat) :
    (drop R.bindings cells channel).cached channel = none := by
  rw [drop_self, R.absent_none]

/-- A stored form that refuses writes decodes to the absent callback. -/
theorem refused_absent (value : B) (refused : R.bindings.accepts value = false) :
    R.bindings.decode value = R.bindings.absent := by
  rw [R.absent_none, R.refused_none value refused]

/-- A call that does not bind the channel leaves its binding cell alone. -/
theorem after_other {s : σ} (loaded : R.Loaded s) {call : Call}
    (admissible : Call.Admissible R.count R.fits call) {channel : Nat}
    (other : call.isBindingOf channel = false) :
    R.storedBinding (R.api.after s call) channel = R.storedBinding s channel ∧
      (R.api.tables (R.api.after s call)).callback channel = (R.api.tables s).callback channel := by
  have cells := (R.refines s call loaded admissible).2.1
  have stored := congrArg (fun cells => cells.stored channel) cells
  have cached := congrArg (fun cells => cells.cached channel) cells
  cases call with
  | setChannelSourceBinding c name =>
    have different : channel ≠ c := by
      rintro rfl
      simp [Call.isBindingOf] at other
    have untouched := write_other (K := R.bindings) (R.bindingCells s) different name
    exact ⟨stored.trans untouched.1, cached.trans untouched.2⟩
  | clearBinding c =>
    have different : channel ≠ c := by
      rintro rfl
      simp [Call.isBindingOf] at other
    exact ⟨stored, cached.trans (drop_other (R.bindingCells s) different)⟩
  | setChannelCalibration c value => exact ⟨stored, cached⟩

/-- A call that does not set the channel's calibration leaves its calibration cell alone. -/
theorem after_otherCalibration {s : σ} (loaded : R.Loaded s) {call : Call}
    (admissible : Call.Admissible R.count R.fits call) {channel : Nat}
    (other : ∀ value, call ≠ .setChannelCalibration channel value) :
    R.storedCalibration (R.api.after s call) channel = R.storedCalibration s channel ∧
      (R.api.tables (R.api.after s call)).calibration channel =
        (R.api.tables s).calibration channel := by
  have cells := (R.refines s call loaded admissible).2.2
  have stored := congrArg (fun cells => cells.stored channel) cells
  have cached := congrArg (fun cells => cells.cached channel) cells
  cases call with
  | setChannelSourceBinding c name => exact ⟨stored, cached⟩
  | clearBinding c => exact ⟨stored, cached⟩
  | setChannelCalibration c value =>
    have different : channel ≠ c := by
      rintro rfl
      exact other value rfl
    have untouched := write_other (K := R.calibrations) (R.calibrationCells s) different value
    exact ⟨stored.trans untouched.1, cached.trans untouched.2⟩

/-- The refinement over runs: the reader's run is the run of its cells. -/
theorem run_cells {s : σ} (loaded : R.Loaded s) {calls : List Call}
    (admissible : ∀ call ∈ calls, Call.Admissible R.count R.fits call) :
    R.Loaded (Runs.run R.api.after s calls) ∧
      R.bindingCells (Runs.run R.api.after s calls) =
        Runs.run (WriteThrough.step R.bindings) (R.bindingCells s) (calls.flatMap bindingOps) ∧
      R.calibrationCells (Runs.run R.api.after s calls) =
        Runs.run (WriteThrough.step R.calibrations) (R.calibrationCells s)
          (calls.flatMap calibrationOps) := by
  have bindings := Runs.run_refines R.bindingCells bindingOps
    (fun s call loaded rule =>
      ⟨(R.refines s call loaded rule).1, (R.refines s call loaded rule).2.1⟩)
    loaded admissible
  have calibrations := Runs.run_refines R.calibrationCells calibrationOps
    (fun s call loaded rule =>
      ⟨(R.refines s call loaded rule).1, (R.refines s call loaded rule).2.2⟩)
    loaded admissible
  exact ⟨bindings.1, bindings.2, calibrations.2⟩

/-- The calibration cells only see writes, which keep them in sync. -/
theorem run_calibration_inSync {s : σ} (loaded : R.Loaded s) {calls : List Call}
    (admissible : ∀ call ∈ calls, Call.Admissible R.count R.fits call) {channel : Nat}
    (before : WriteThrough.InSync R.calibrations (R.calibrationCells s) channel) :
    WriteThrough.InSync R.calibrations (R.calibrationCells (Runs.run R.api.after s calls))
      channel := by
  induction calls generalizing s with
  | nil => exact before
  | cons call calls ih =>
    obtain ⟨next, -, cells⟩ := R.refines s call loaded (admissible call List.mem_cons_self)
    refine ih next (fun later member => admissible later (List.mem_cons_of_mem call member)) ?_
    rw [cells]
    cases call with
    | setChannelSourceBinding c bindingName => exact before
    | clearBinding c => exact before
    | setChannelCalibration c calibration => exact write_inSync before c calibration

/-- After any run a channel not cleared last holds what a later start decodes. -/
theorem run_binding_inSync {s : σ} (loaded : R.Loaded s) {calls : List Call}
    (admissible : ∀ call ∈ calls, Call.Admissible R.count R.fits call) {channel : Nat}
    (before : WriteThrough.InSync R.bindings (R.bindingCells s) channel)
    (kept : ¬ LastCleared channel calls) :
    WriteThrough.InSync R.bindings (R.bindingCells (Runs.run R.api.after s calls)) channel := by
  rw [(run_cells loaded admissible).2.1]
  have notDropped : dropped channel false (calls.flatMap bindingOps) = false := by
    rw [← Bool.not_eq_true, dropped_iff_lastCleared]
    exact kept
  have settled : Settled R.bindings (R.bindingCells s) channel false := before
  exact run_inSync R.refused_absent settled notDropped

theorem mem_bindingOps {calls : List Call} {channel : Nat} {name : Name}
    (member : Op.write channel name ∈ calls.flatMap bindingOps) :
    .setChannelSourceBinding channel name ∈ calls := by
  obtain ⟨call, inside, written⟩ := List.mem_flatMap.mp member
  cases call with
  | setChannelSourceBinding c n =>
    have same := List.mem_singleton.mp written
    rw [Op.write.injEq] at same
    rw [same.1, same.2]
    exact inside
  | clearBinding c => cases List.mem_singleton.mp written
  | setChannelCalibration c v => cases written

/-- What holds of a stored binding at first and of every admissible name's stored form
holds after the run. -/
theorem run_storedBinding {P : B → Prop} {s : σ} (loaded : R.Loaded s) {calls : List Call}
    (admissible : ∀ call ∈ calls, Call.Admissible R.count R.fits call) {channel : Nat}
    (start : P (R.storedBinding s channel))
    (encoded : ∀ name, R.fits name → P (R.bindings.encode name)) :
    P (R.storedBinding (Runs.run R.api.after s calls) channel) := by
  have cells := congrArg (fun c => c.stored channel) (run_cells loaded admissible).2.1
  have written := run_stored (K := R.bindings) (s := R.bindingCells s) start
    fun c name member => encoded name (admissible _ (mem_bindingOps member)).2
  rw [← cells] at written
  exact written

/-- The same for calibrations, of which every value is admissible. -/
theorem run_storedCalibration {P : C → Prop} {s : σ} (loaded : R.Loaded s) {calls : List Call}
    (admissible : ∀ call ∈ calls, Call.Admissible R.count R.fits call) {channel : Nat}
    (start : P (R.storedCalibration s channel))
    (encoded : ∀ value, P (R.calibrations.encode value)) :
    P (R.storedCalibration (Runs.run R.api.after s calls) channel) := by
  have cells := congrArg (fun c => c.stored channel) (run_cells loaded admissible).2.2
  have written := run_stored (K := R.calibrations) (s := R.calibrationCells s) start
    fun c value (_ : Op.write c value ∈ calls.flatMap calibrationOps) => encoded value
  rw [← cells] at written
  exact written

end StoredReader

end PerformancePanel.Settings
