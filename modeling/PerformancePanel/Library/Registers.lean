import Mathlib.Logic.Function.Basic

/-!
# Registers and the writes made to them

A register holds the last value written to it. What a list of writes leaves in one register
is told by the writes to that register alone: its old value if there are none, and the
common value of those there are.
-/
set_option autoImplicit false

namespace PerformancePanel.Library.Registers

variable {ι V : Type*} [DecidableEq ι]

def write (registers : ι → V) (w : ι × V) : ι → V := Function.update registers w.1 w.2

def writes (registers : ι → V) (ws : List (ι × V)) : ι → V := ws.foldl write registers

@[simp] theorem writes_cons (registers : ι → V) (w : ι × V) (ws : List (ι × V)) :
    writes registers (w :: ws) = writes (write registers w) ws := rfl

theorem writes_append (registers : ι → V) (first rest : List (ι × V)) :
    writes registers (first ++ rest) = writes (writes registers first) rest := by
  simp [writes]

/-- A register that is not written keeps its value. -/
theorem writes_untouched {registers : ι → V} {ws : List (ι × V)} {i : ι}
    (untouched : ∀ w ∈ ws, w.1 ≠ i) :
    writes registers ws i = registers i := by
  induction ws generalizing registers with
  | nil => rfl
  | cons w ws ih =>
    have other : i ≠ w.1 := Ne.symm (untouched w List.mem_cons_self)
    rw [writes_cons, ih fun w' member => untouched w' (List.mem_cons_of_mem w member)]
    exact Function.update_of_ne other _ _

/-- A register whose writes all carry one value holds it. -/
theorem writes_agree {registers : ι → V} {ws : List (ι × V)} {i : ι} {v : V} (written : (i, v) ∈ ws)
    (agree : ∀ w ∈ ws, w.1 = i → w.2 = v) : writes registers ws i = v := by
  induction ws generalizing registers with
  | nil => exact absurd written List.not_mem_nil
  | cons w ws ih =>
    have later : ∀ w' ∈ ws, w'.1 = i → w'.2 = v :=
      fun w' member => agree w' (List.mem_cons_of_mem w member)
    rw [writes_cons]
    by_cases again : (i, v) ∈ ws
    · exact ih again later
    · have last : w = (i, v) := by
        rcases List.mem_cons.mp written with same | inside
        · exact same.symm
        · exact absurd inside again
      have untouched : ∀ w' ∈ ws, w'.1 ≠ i := by
        intro w' member here
        have value := later w' member here
        exact again (by rw [← here, ← value]; exact member)
      rw [writes_untouched untouched, last]
      exact Function.update_self _ _ _

end PerformancePanel.Library.Registers
