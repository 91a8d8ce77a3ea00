import Mathlib.Data.List.Nodup

/-!
# Objects owned by a parent

A framework names its objects by handles and deletes them with their parent. Handles of
the objects that exist are distinct as long as each new one is fresh, so the objects
that share one handle are at most one.
-/
set_option autoImplicit false

namespace PerformancePanel.Library.OwnedObjects

variable {α κ : Type*} (handle : α → κ) (parent : α → κ)

/-- No two existing objects share a handle. -/
def Unique (objects : List α) : Prop := (objects.map handle).Nodup

def deleteChildren [DecidableEq κ] (owner : κ) (objects : List α) : List α :=
  objects.filter fun o => parent o ≠ owner

variable {handle parent}

theorem mem_deleteChildren [DecidableEq κ] {owner : κ} {objects : List α} {o : α} :
    o ∈ deleteChildren parent owner objects ↔ o ∈ objects ∧ parent o ≠ owner := by
  simp [deleteChildren]

theorem unique_nil : Unique handle [] := List.nodup_nil

theorem unique_append {objects : List α} (unique : Unique handle objects) {o : α}
    (fresh : ∀ other ∈ objects, handle other ≠ handle o) : Unique handle (objects ++ [o]) := by
  unfold Unique
  rw [List.map_append, List.map_singleton]
  apply List.Nodup.append unique (List.nodup_singleton _)
  intro h member new
  obtain ⟨other, existing, rfl⟩ := List.mem_map.mp member
  exact fresh other existing (List.mem_singleton.mp new)

theorem unique_filter {objects : List α} (unique : Unique handle objects) (keep : α → Bool) :
    Unique handle (objects.filter keep) :=
  unique.sublist (List.filter_sublist.map handle)

theorem unique_deleteChildren [DecidableEq κ] {objects : List α} (unique : Unique handle objects)
    (owner : κ) : Unique handle (deleteChildren parent owner objects) :=
  unique_filter unique _

/-- Changing objects in place keeps their handles distinct. -/
theorem unique_map {objects : List α} (unique : Unique handle objects) {change : α → α}
    (keeps : ∀ o, handle (change o) = handle o) : Unique handle (objects.map change) := by
  have same : (objects.map change).map handle = objects.map handle := by
    rw [List.map_map]
    apply List.map_congr_left
    intro o _
    exact keeps o
  unfold Unique
  rw [same]
  exact unique

theorem length_le_one_of_handle {objects : List α} (unique : Unique handle objects) {h : κ}
    (only : ∀ o ∈ objects, handle o = h) : objects.length ≤ 1 := by
  cases objects with
  | nil => exact Nat.zero_le 1
  | cons first rest =>
    cases rest with
    | nil => exact Nat.le_refl 1
    | cons second rest =>
      have distinct : handle first ∉ (second :: rest).map handle := (List.nodup_cons.mp unique).1
      have same : handle first = handle second := by
        rw [only first (by simp), only second (by simp)]
      exact absurd (same ▸ List.mem_map_of_mem (List.mem_cons_self)) distinct

end PerformancePanel.Library.OwnedObjects
