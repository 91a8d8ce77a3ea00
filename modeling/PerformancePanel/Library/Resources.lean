import Mathlib.Data.Finset.Basic

/-!
# Calls on acquired resources

A program acquires resources, uses and releases them. A list of actions is disciplined when
each acts on what is held: nothing is acquired twice, used before or after it is held, or
released twice. `acts` computes what is held at the end; `none` is an undisciplined action,
after which nothing is promised.
-/
set_option autoImplicit false

namespace PerformancePanel.Library.Resources

variable {ρ : Type*} [DecidableEq ρ]

inductive Action (ρ : Type*) where
  | acquire (r : ρ)
  | use (r : ρ)
  | release (r : ρ)

def act (held : Finset ρ) : Action ρ → Option (Finset ρ)
  | .acquire r => if r ∈ held then none else some (insert r held)
  | .use r => if r ∈ held then some held else none
  | .release r => if r ∈ held then some (held.erase r) else none

def acts (held : Finset ρ) (actions : List (Action ρ)) : Option (Finset ρ) :=
  actions.foldlM act held

@[simp] theorem acts_nil (held : Finset ρ) : acts held [] = some held := rfl

theorem acts_cons (held : Finset ρ) (action : Action ρ) (actions : List (Action ρ)) :
    acts held (action :: actions) = (act held action).bind (acts · actions) := rfl

theorem acts_append (held : Finset ρ) (first rest : List (Action ρ)) :
    acts held (first ++ rest) = (acts held first).bind (acts · rest) := by
  simp only [acts, List.foldlM_append]
  rfl

/-- Using what is held any number of times changes nothing. -/
theorem acts_uses {held : Finset ρ} {actions : List (Action ρ)}
    (uses : ∀ action ∈ actions, ∃ r ∈ held, action = .use r) : acts held actions = some held := by
  induction actions with
  | nil => rfl
  | cons action actions ih =>
    obtain ⟨r, isHeld, rfl⟩ := uses action List.mem_cons_self
    have first : act held (.use r) = some held := if_pos isHeld
    rw [acts_cons, first, Option.bind_some]
    exact ih fun later member => uses later (List.mem_cons_of_mem _ member)

/-- Nothing after an undisciplined action makes up for it. -/
theorem acts_undisciplined {held : Finset ρ} {first : List (Action ρ)}
    (undisciplined : acts held first = none)
    (rest : List (Action ρ)) : acts held (first ++ rest) = none := by
  rw [acts_append, undisciplined, Option.bind_none]

end PerformancePanel.Library.Resources
