import Mathlib.Logic.Function.Basic
import PerformancePanel.Library.Runs

/-!
# Write-through cells

A family of cells keeps a stored form and a cached value. A write that the stored
form accepts replaces both; a refused write changes nothing; a drop clears only the
cache. Reloading decodes every stored form, so a reload agrees with the cache exactly
on the cells in sync, and only a drop can leave a cell out of sync.
-/
set_option autoImplicit false

namespace PerformancePanel.Library.WriteThrough

variable {ι V W A : Type*} [DecidableEq ι]

structure Codec (V W A : Type*) where
  accepts : V → Bool
  encode : W → V
  decode : V → A
  absent : A

structure Cells (ι V A : Type*) where
  stored : ι → V
  cached : ι → A

inductive Op (ι W : Type*) where
  | write (i : ι) (value : W)
  | drop (i : ι)

variable (K : Codec V W A)

def write (s : Cells ι V A) (i : ι) (value : W) : Cells ι V A :=
  if K.accepts (s.stored i) then
    ⟨Function.update s.stored i (K.encode value),
      Function.update s.cached i (K.decode (K.encode value))⟩
  else s

def drop (s : Cells ι V A) (i : ι) : Cells ι V A :=
  { s with cached := Function.update s.cached i K.absent }

def step (s : Cells ι V A) : Op ι W → Cells ι V A
  | .write i value => write K s i value
  | .drop i => drop K s i

def InSync (s : Cells ι V A) (i : ι) : Prop := s.cached i = K.decode (s.stored i)

/-- The last operation on a cell was a drop. -/
def dropped (i : ι) : Bool → List (Op ι W) → Bool
  | d, [] => d
  | d, .write j _ :: rest => dropped i (if j = i then false else d) rest
  | d, .drop j :: rest => dropped i (if j = i then true else d) rest

variable {K}

theorem write_accepted {s : Cells ι V A} {i : ι} (accepted : K.accepts (s.stored i) = true)
    (value : W) :
    (write K s i value).stored i = K.encode value ∧
      (write K s i value).cached i = K.decode (K.encode value) := by
  simp [write, accepted]

theorem write_refused {s : Cells ι V A} {i : ι} (refused : K.accepts (s.stored i) = false)
    (value : W) : write K s i value = s := by
  simp [write, refused]

/-- A write touches only its own cell. -/
theorem write_other (s : Cells ι V A) {i j : ι} (different : j ≠ i) (value : W) :
    (write K s i value).stored j = s.stored j ∧ (write K s i value).cached j = s.cached j := by
  unfold write
  split
  · exact ⟨Function.update_of_ne different _ _, Function.update_of_ne different _ _⟩
  · exact ⟨rfl, rfl⟩

theorem drop_self (s : Cells ι V A) (i : ι) : (drop K s i).cached i = K.absent :=
  Function.update_self _ _ _

theorem drop_other (s : Cells ι V A) {i j : ι} (different : j ≠ i) :
    (drop K s i).cached j = s.cached j :=
  Function.update_of_ne different _ _

/-- What holds of a cell given whether its last operation was a drop. -/
def Settled (K : Codec V W A) (s : Cells ι V A) (i : ι) (wasDropped : Bool) : Prop :=
  if wasDropped then s.cached i = K.absent else InSync K s i

/-- Writes alone keep every cell in sync. -/
theorem write_inSync {s : Cells ι V A} {i : ι} (before : InSync K s i) (j : ι) (value : W) :
    InSync K (write K s j value) i := by
  unfold InSync at before ⊢
  by_cases same : i = j
  · subst same
    cases accepted : K.accepts (s.stored i) with
    | true =>
      have both := write_accepted accepted value
      rw [both.1, both.2]
    | false => rwa [write_refused accepted]
  · have untouched := write_other (K := K) s same value
    rw [untouched.1, untouched.2, before]

/-- A write settles its cell: accepted, both sides are replaced; refused, the stored
form decodes to the absent value that the cache holds or is in sync with. -/
theorem settled_write (refusedAbsent : ∀ v, K.accepts v = false → K.decode v = K.absent)
    {s : Cells ι V A} {i : ι} {wasDropped : Bool} (before : Settled K s i wasDropped) (value : W) :
    Settled K (write K s i value) i false := by
  cases wasDropped with
  | false => exact write_inSync before i value
  | true =>
    have absent : s.cached i = K.absent := before
    show InSync K (write K s i value) i
    unfold InSync
    cases accepted : K.accepts (s.stored i) with
    | true =>
      have both := write_accepted accepted value
      rw [both.1, both.2]
    | false => rw [write_refused accepted, absent, refusedAbsent _ accepted]

theorem settled_step (refusedAbsent : ∀ v, K.accepts v = false → K.decode v = K.absent)
    {s : Cells ι V A} (i : ι) {wasDropped : Bool} (before : Settled K s i wasDropped)
    (op : Op ι W) : Settled K (step K s op) i (dropped i wasDropped [op]) := by
  cases op with
  | write j value =>
    by_cases same : j = i
    · subst same
      simpa [step, dropped] using settled_write refusedAbsent before value
    · have untouched := write_other (K := K) s (Ne.symm same) value
      simpa [step, dropped, same, Settled, InSync, untouched.1, untouched.2] using before
  | drop j =>
    by_cases same : j = i
    · subst same
      simp [step, dropped, Settled, drop]
    · have untouched := drop_other (K := K) s (Ne.symm same)
      have stored : (drop K s j).stored = s.stored := rfl
      simpa [step, dropped, same, Settled, InSync, untouched, stored] using before

/-- After any run a cell whose last operation was not a drop is in sync. -/
theorem run_inSync (refusedAbsent : ∀ v, K.accepts v = false → K.decode v = K.absent)
    {s : Cells ι V A} {i : ι} {wasDropped : Bool} (before : Settled K s i wasDropped)
    {ops : List (Op ι W)} (kept : dropped i wasDropped ops = false) :
    InSync K (Runs.run (step K) s ops) i := by
  induction ops generalizing s wasDropped with
  | nil =>
    simp only [dropped] at kept
    subst kept
    exact before
  | cons op rest ih =>
    have next := settled_step refusedAbsent i before op
    refine ih next ?_
    cases op <;> exact kept

/-- What holds of a cell's stored form at first and of every form written holds after
the run. -/
theorem run_stored {P : V → Prop} {s : Cells ι V A} {i : ι} {ops : List (Op ι W)}
    (start : P (s.stored i)) (encoded : ∀ j value, .write j value ∈ ops → P (K.encode value)) :
    P ((Runs.run (step K) s ops).stored i) := by
  induction ops generalizing s with
  | nil => exact start
  | cons op rest ih =>
    refine ih ?_ fun j value member => encoded j value (List.mem_cons_of_mem op member)
    cases op with
    | drop j => exact start
    | write j value =>
      by_cases same : i = j
      · subst same
        cases accepted : K.accepts (s.stored i) with
        | true =>
          rw [step, (write_accepted accepted value).1]
          exact encoded i value List.mem_cons_self
        | false =>
          rw [step, write_refused accepted]
          exact start
      · rw [step, (write_other s same value).1]
        exact start

end PerformancePanel.Library.WriteThrough
