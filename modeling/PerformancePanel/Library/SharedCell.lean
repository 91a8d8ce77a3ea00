import Mathlib.Logic.Function.Basic
import PerformancePanel.Library.Runs

/-!
# Parties on one cell

Parties with private states act on a shared cell, in any order. An action is blind where
the cell has no part in what it does to its party, and the cell is then either left alone or
overwritten with a content that does not depend on the old one. Among parties whose actions
are blind nobody sees the others, and the last to overwrite the cell leaves in it what it
would have left without them (`run_cell`).
-/
set_option autoImplicit false

namespace PerformancePanel.Library.SharedCell
open Runs

variable {ι π κ α : Type*}

/-- The cell and every party's private state. -/
structure World (ι π κ : Type*) where
  cell : κ
  party : ι → π

variable [DecidableEq ι] (act : α → π → κ → π × κ)

/-- An action of one party. -/
def step (w : World ι π κ) (e : ι × α) : World ι π κ where
  cell := (act e.2 (w.party e.1) w.cell).2
  party := Function.update w.party e.1 (act e.2 (w.party e.1) w.cell).1

/-- The actions of one party. -/
def own (i : ι) (events : List (ι × α)) : List (ι × α) := events.filter fun e => e.1 = i

/-- The action leaves the same content in the cell, whatever was there. -/
def Overwrites (a : α) (p : π) : Prop := ∃ content, ∀ k, (act a p k).2 = content

/-- What an action does in a state: some private state, whatever is in the cell, which it
leaves alone or overwrites. -/
structure Blind (a : α) (p : π) : Prop where
  party : ∀ k k', (act a p k).1 = (act a p k').1
  cell : (∀ k, (act a p k).2 = k) ∨ Overwrites act a p

variable {act} {Inv : π → Prop} {w : World ι π κ} {i : ι}

/-- Nobody's state is touched by another party. -/
theorem step_other {e : ι × α} (other : e.1 ≠ i) : (step act w e).party i = w.party i :=
  Function.update_of_ne (Ne.symm other) _ _

theorem step_own (a : α) : (step act w (i, a)).party i = (act a (w.party i) w.cell).1 :=
  Function.update_self _ _ _

/-- Actions that keep what holds of a party keep it beside any others. -/
theorem step_inv (keeps : ∀ a p k, Inv p → Inv (act a p k).1) (e : ι × α) (inv : Inv (w.party i)) :
    Inv ((step act w e).party i) := by
  obtain ⟨j, a⟩ := e
  by_cases mine : j = i
  · subst mine
    rw [step_own]
    exact keeps a _ _ inv
  · rw [step_other mine]
    exact inv

/-- A party whose actions stay blind sees nothing of the others. -/
theorem run_party (blind : ∀ a p, Inv p → Blind act a p)
    (keeps : ∀ a p k, Inv p → Inv (act a p k).1) (inv : Inv (w.party i)) (events : List (ι × α)) :
    (run (step act) w events).party i = (run (step act) w (own i events)).party i := by
  have others : ∀ (w : World ι π κ) (e : ι × α), Inv (w.party i) → decide (e.1 = i) = false →
      (step act w e).party i = w.party i := fun _ _ _ other => step_other (of_decide_eq_false other)
  have mine : ∀ (w w' : World ι π κ) (e : ι × α), Inv (w.party i) → Inv (w'.party i) →
    decide (e.1 = i) = true →
      w.party i = w'.party i → (step act w e).party i = (step act w' e).party i := by
    rintro w w' ⟨j, a⟩ inv _ mine same
    have self : j = i := of_decide_eq_true mine
    subst self
    rw [step_own, step_own, ← same]
    exact (blind a _ inv).party _ _
  exact run_view (fun w : World ι π κ => w.party i) (fun e => decide (e.1 = i))
    (fun _ e => step_inv keeps e) others mine inv inv rfl events

/-- An action either leaves the cell as the others left it, or leaves in it what the party's
own actions alone would. -/
theorem run_cell (blind : ∀ a p, Inv p → Blind act a p) (keeps : ∀ a p k, Inv p → Inv (act a p k).1)
    (inv : Inv (w.party i)) (events : List (ι × α)) (a : α) :
    (Overwrites act a ((run (step act) w events).party i) →
      (run (step act) w (events ++ [(i, a)])).cell =
      (run (step act) w (own i events ++ [(i, a)])).cell) ∧
    (¬ Overwrites act a ((run (step act) w events).party i) →
      (run (step act) w (events ++ [(i, a)])).cell = (run (step act) w events).cell) := by
  have same := run_party blind keeps inv events
  have kept : Inv ((run (step act) w events).party i) :=
    (allReached_of_invariant (P := fun w : World ι π κ => Inv (w.party i))
      (fun _ e => step_inv keeps e) inv events).last
  simp only [run_append, run_cons, run_nil]
  constructor
  · rintro ⟨content, overwritten⟩
    show (act a _ _).2 = (act a _ _).2
    rw [← same, overwritten, overwritten]
  · intro reads
    rcases (blind a _ kept).cell with untouched | overwrites
    · exact untouched _
    · exact absurd overwrites reads

end PerformancePanel.Library.SharedCell
