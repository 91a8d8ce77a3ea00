import Mathlib.Logic.Function.Iterate

/-!
# While loops by iteration count

`iterate fuel` runs at most `fuel` iterations; `none` means the test still held.
An invariant under which the test never fails shows that no count leaves the loop; one
that every iteration keeps while a measure goes down shows that enough iterations do.
In general it is left at the first iteration whose test fails.
-/
set_option autoImplicit false

namespace PerformancePanel.Library.WhileLoop

variable {σ : Type*} (test : σ → Bool) (body : σ → σ)

def iterate : Nat → σ → Option σ
  | 0, s => if test s then none else some s
  | fuel + 1, s => if test s then iterate fuel (body s) else some s

variable {test body}

theorem iterate_exit {s : σ} (h : test s = false) (fuel : Nat) :
    iterate test body fuel s = some s := by
  cases fuel <;> simp [iterate, h]

/-- The loop is left with the first state that fails the test, if that comes in time. -/
theorem iterate_some_iff {fuel : Nat} {s final : σ} :
    iterate test body fuel s = some final ↔ ∃ k ≤ fuel, (∀ j < k, test (body^[j] s) = true) ∧
      test (body^[k] s) = false ∧ body^[k] s = final := by
  induction fuel generalizing s with
  | zero =>
    cases tested : test s with
    | false =>
      rw [iterate_exit tested, Option.some.injEq]
      constructor
      · rintro rfl
        exact ⟨0, Nat.le_refl 0, fun j negative => absurd negative (Nat.not_lt_zero j), tested, rfl⟩
      · rintro ⟨k, within, -, -, same⟩
        rw [Nat.le_zero.mp within] at same
        exact same
    | true =>
      have running : iterate test body 0 s = none := if_pos tested
      rw [running]
      constructor
      · rintro ⟨⟩
      · rintro ⟨k, within, -, failed, -⟩
        rw [Nat.le_zero.mp within] at failed
        exact absurd (tested.symm.trans failed) (by decide)
  | succ fuel ih =>
    cases tested : test s with
    | false =>
      rw [iterate_exit tested, Option.some.injEq]
      constructor
      · rintro rfl
        exact ⟨0, Nat.zero_le _, fun j negative => absurd negative (Nat.not_lt_zero j), tested, rfl⟩
      · rintro ⟨k, -, passed, -, same⟩
        cases k with
        | zero => exact same
        | succ k => exact absurd (tested.symm.trans (passed 0 (Nat.succ_pos k))) Bool.false_ne_true
    | true =>
      have unfolded : iterate test body (fuel + 1) s = iterate test body fuel (body s) :=
        if_pos tested
      rw [unfolded, ih]
      constructor
      · rintro ⟨k, inTime, passed, failed, same⟩
        refine ⟨k + 1, Nat.succ_le_succ inTime, fun j before => ?_, failed, same⟩
        cases j with
        | zero => exact tested
        | succ j => exact passed j (Nat.lt_of_succ_lt_succ before)
      · rintro ⟨k, inTime, passed, failed, same⟩
        cases k with
        | zero => exact absurd (tested.symm.trans failed) (by decide)
        | succ k =>
          exact ⟨k, Nat.le_of_succ_le_succ inTime, fun j before =>
            passed (j + 1) (Nat.succ_lt_succ before), failed, same⟩

/-- No number of iterations leaves a loop whose invariant implies its test. -/
theorem iterate_none_of_invariant {I : σ → Prop} (holds : ∀ s, I s → test s = true)
    (keeps : ∀ s, I s → I (body s)) (fuel : Nat) {s : σ} (start : I s) :
    iterate test body fuel s = none := by
  induction fuel generalizing s with
  | zero => simp [iterate, holds s start]
  | succ fuel ih => simp [iterate, holds s start, ih (keeps s start)]

/-- A loop whose body keeps an invariant and lowers a measure is left with the invariant. -/
theorem iterate_total {I : σ → Prop} (measure : σ → Nat)
    (keeps : ∀ s, I s → test s = true → I (body s) ∧ measure (body s) < measure s) {fuel : Nat}
    {s : σ} (start : I s) (enough : measure s ≤ fuel) :
    ∃ final, iterate test body fuel s = some final ∧ I final ∧ test final = false := by
  induction fuel generalizing s with
  | zero =>
    cases tested : test s with
    | false => exact ⟨s, iterate_exit tested 0, start, tested⟩
    | true =>
      have lower := (keeps s start tested).2
      omega
  | succ fuel ih =>
    cases tested : test s with
    | false => exact ⟨s, iterate_exit tested _, start, tested⟩
    | true =>
      obtain ⟨next, lower⟩ := keeps s start tested
      obtain ⟨final, ended, holds⟩ := ih next (by omega)
      refine ⟨final, ?_, holds⟩
      rw [iterate, if_pos tested, ended]

end PerformancePanel.Library.WhileLoop
