import Mathlib.Data.Finset.Dedup
import PerformancePanel.Library.Resources

/-!
# Pointers into a heap

A heap hands out addresses it has not handed out before and records what is done with
them. A program owns what its pointers point to when these are all the blocks that are
held, each by one pointer: then it may touch them, and freeing each once gives everything
back. NULL owns nothing.
-/
set_option autoImplicit false

namespace PerformancePanel.Library.Pointers
open Resources

/-- NULL, or the address of a block. -/
abbrev Pointer := Option Nat

structure Heap where
  next : Nat
  log : List (Action Nat)

def empty : Heap := ⟨0, []⟩

def malloc (succeeds : Bool) (h : Heap) : Pointer × Heap :=
  if succeeds then (some h.next, ⟨h.next + 1, h.log ++ [.acquire h.next]⟩) else (none, h)

/-- Freeing NULL does nothing. -/
def free (p : Pointer) (h : Heap) : Heap :=
  match p with
  | some block => { h with log := h.log ++ [.release block] }
  | none => h

/-- An access to the block behind a pointer; through NULL none takes place. -/
def touch (p : Pointer) (h : Heap) : Heap :=
  match p with
  | some block => { h with log := h.log ++ [.use block] }
  | none => h

/-- The block moves, or stays when there is no room; NULL is returned then. -/
def realloc (succeeds : Bool) (p : Pointer) (h : Heap) : Pointer × Heap :=
  if succeeds then malloc true (free p h) else (none, h)

/-- The blocks behind some pointers. -/
def blocks (pointers : List Pointer) : List Nat := pointers.filterMap id

/-- Nothing was touched or freed that was not held, and what is held is behind these. -/
structure Owns (h : Heap) (pointers : List Pointer) : Prop where
  disciplined : acts ∅ h.log = some (blocks pointers).toFinset
  apart : (blocks pointers).Nodup
  given : ∀ block ∈ blocks pointers, block < h.next

theorem owns_empty : Owns empty [] := ⟨rfl, List.nodup_nil, nofun⟩

section operations
variable {h : Heap} {pointers : List Pointer} {p : Pointer}

theorem owns_perm {others : List Pointer} (owns : Owns h pointers) (same : pointers.Perm others) :
    Owns h others := by
  have permuted : (blocks pointers).Perm (blocks others) := same.filterMap id
  refine ⟨?_, permuted.nodup_iff.mp owns.apart, fun block member => ?_⟩
  · rw [owns.disciplined, List.toFinset_eq_of_perm _ _ permuted]
  · exact owns.given block (permuted.mem_iff.mpr member)

theorem owns_null : Owns h (none :: pointers) ↔ Owns h pointers :=
  ⟨fun owns => ⟨owns.disciplined, owns.apart, owns.given⟩,
    fun owns => ⟨owns.disciplined, owns.apart, owns.given⟩⟩

theorem owns_malloc (owns : Owns h pointers) (succeeds : Bool) :
    Owns (malloc succeeds h).2 ((malloc succeeds h).1 :: pointers) := by
  cases succeeds with
  | false => exact owns_null.mpr owns
  | true =>
    have fresh : h.next ∉ blocks pointers := fun member => Nat.lt_irrefl _ (owns.given _ member)
    have new : blocks (some h.next :: pointers) = h.next :: blocks pointers := rfl
    refine ⟨?_, ?_, fun block member => ?_⟩
    · show acts ∅ (h.log ++ [.acquire h.next]) = _
      rw [acts_append, owns.disciplined, Option.bind_some, acts_cons, act,
        if_neg fun member => fresh (List.mem_toFinset.mp member), Option.bind_some, acts_nil]
      show _ = some (blocks (some h.next :: pointers)).toFinset
      rw [new, List.toFinset_cons]
    · show (blocks (some h.next :: pointers)).Nodup
      rw [new]
      exact List.nodup_cons.mpr ⟨fresh, owns.apart⟩
    · show block < h.next + 1
      rcases List.mem_cons.mp (new ▸ member : block ∈ h.next :: blocks pointers) with same | old
      · omega
      · have := owns.given block old
        omega

theorem owns_free (owns : Owns h (p :: pointers)) : Owns (free p h) pointers := by
  cases p with
  | none => exact owns_null.mp owns
  | some block =>
    have new : blocks (some block :: pointers) = block :: blocks pointers := rfl
    obtain ⟨disciplined, apart, given⟩ := owns
    rw [new] at disciplined apart given
    obtain ⟨once, rest⟩ := List.nodup_cons.mp apart
    refine ⟨?_, rest, fun other member => given other (List.mem_cons_of_mem _ member)⟩
    show acts ∅ (h.log ++ [.release block]) = _
    have held : block ∈ (block :: blocks pointers).toFinset := by simp
    rw [acts_append, disciplined, Option.bind_some, acts_cons, act, if_pos held, Option.bind_some,
      acts_nil,
      List.toFinset_cons, Finset.erase_insert fun member => once (List.mem_toFinset.mp member)]

theorem owns_touch (owns : Owns h pointers) (member : p ∈ pointers) :
    Owns (touch p h) pointers := by
  cases p with
  | none => exact owns
  | some block =>
    have held : block ∈ (blocks pointers).toFinset :=
      List.mem_toFinset.mpr (List.mem_filterMap.mpr ⟨some block, member, rfl⟩)
    refine ⟨?_, owns.apart, owns.given⟩
    show acts ∅ (h.log ++ [.use block]) = _
    rw [acts_append, owns.disciplined, Option.bind_some, acts_cons, act, if_pos held,
      Option.bind_some, acts_nil]

theorem owns_realloc (owns : Owns h (p :: pointers)) (succeeds : Bool) :
    Owns (realloc succeeds p h).2
      ((if succeeds then (realloc succeeds p h).1 else p) :: pointers) := by
  cases succeeds with
  | false => exact owns
  | true => exact owns_malloc (owns_free owns) true

end operations

end PerformancePanel.Library.Pointers
