import Mathlib.Data.List.TakeWhile
import Mathlib.Data.List.Infix

/-!
# C strings in bounded buffers

A buffer holds a string up to its first terminator. Comparing it with a terminator-free
string reads on while the two agree: it stays inside a buffer that is longer than that
string, and one that holds its own terminator. The buffer holds the string exactly when it
starts with the string and a terminator.
-/
set_option autoImplicit false

namespace PerformancePanel.Library.CString

variable {α : Type*} [DecidableEq α]

/-- The string at the start of a buffer. -/
def read (nul : α) (buffer : List α) : List α := buffer.takeWhile (· != nul)

/-- `strcmp(buffer, known) == 0`; `none` is a read behind the end of the buffer. -/
def equals (nul : α) : (buffer known : List α) → Option Bool
  | [], _ => none
  | unit :: _, [] => some (unit = nul)
  | unit :: buffer, k :: known => if unit = k then equals nul buffer known else some false

variable {nul : α} {known : List α}

@[simp] theorem read_ended (buffer : List α) : read nul (nul :: buffer) = [] := by
  simp [read]

theorem read_more {unit : α} (more : unit ≠ nul) (buffer : List α) :
    read nul (unit :: buffer) = unit :: read nul buffer := by
  simp [read, more]

/-- A buffer longer than the string holds it exactly when it starts with it, terminated. -/
theorem read_eq_iff (nulFree : nul ∉ known) {buffer : List α}
    (shorter : known.length < buffer.length) :
    read nul buffer = known ↔ known ++ [nul] <+: buffer := by
  induction known generalizing buffer with
  | nil =>
    cases buffer with
    | nil => cases shorter
    | cons unit buffer =>
      by_cases ends : unit = nul
      · simp [ends]
      · simp [read_more ends, Ne.symm ends]
  | cons k known ih =>
    have notFirst : nul ≠ k := List.ne_of_not_mem_cons nulFree
    have notLater : nul ∉ known := List.not_mem_of_not_mem_cons nulFree
    cases buffer with
    | nil => cases shorter
    | cons unit buffer =>
      have rest := ih notLater (Nat.lt_of_succ_lt_succ shorter)
      by_cases ends : unit = nul
      · subst ends
        simp [Ne.symm notFirst]
      · rw [read_more ends, List.cons.injEq, rest, List.cons_append, List.cons_prefix_cons, eq_comm]

/-- The comparison stays inside a longer buffer, and answers whether it holds the string. -/
theorem equals_of_shorter (nulFree : nul ∉ known) {buffer : List α}
    (shorter : known.length < buffer.length) :
    equals nul buffer known = some (decide (read nul buffer = known)) := by
  induction known generalizing buffer with
  | nil =>
    cases buffer with
    | nil => cases shorter
    | cons unit buffer =>
      by_cases ends : unit = nul
      · simp [equals, ends]
      · simp [equals, ends, read_more ends]
  | cons k known ih =>
    have notFirst : nul ≠ k := List.ne_of_not_mem_cons nulFree
    have notLater : nul ∉ known := List.not_mem_of_not_mem_cons nulFree
    cases buffer with
    | nil => cases shorter
    | cons unit buffer =>
      have rest := ih notLater (Nat.lt_of_succ_lt_succ shorter)
      by_cases ends : unit = nul
      · subst ends
        simp [equals, notFirst]
      · by_cases same : unit = k
        · simp [equals, same, rest, read_more (Ne.symm notFirst)]
        · simp [equals, same, read_more ends]

/-- It stays inside a buffer with a terminator, whatever follows that. -/
theorem equals_of_terminated {buffer : List α} (terminated : nul ∈ buffer) (nulFree : nul ∉ known) :
    equals nul buffer known = some (decide (read nul buffer = known)) := by
  induction buffer generalizing known with
  | nil => cases terminated
  | cons unit buffer ih =>
    by_cases ends : unit = nul
    · subst ends
      cases known with
      | nil => simp [equals]
      | cons k known =>
        have notFirst : unit ≠ k := List.ne_of_not_mem_cons nulFree
        simp [equals, notFirst]
    · have later : nul ∈ buffer := (List.mem_cons.mp terminated).resolve_left (Ne.symm ends)
      rw [read_more ends]
      cases known with
      | nil => simp [equals, ends]
      | cons k known =>
        have rest := ih later (List.not_mem_of_not_mem_cons nulFree)
        by_cases same : unit = k <;> simp [equals, same, rest]

omit [DecidableEq α] in
/-- No terminated string is a proper part of another. -/
theorem eq_of_terminated_prefix {first second : List α} (nulFree : nul ∉ second)
    (inside : first ++ [nul] <+: second ++ [nul]) : first = second := by
  induction first generalizing second with
  | nil =>
    cases second with
    | nil => rfl
    | cons unit second =>
      have same : nul = unit := (List.cons_prefix_cons.mp inside).1
      exact absurd same (List.ne_of_not_mem_cons nulFree)
  | cons unit first ih =>
    cases second with
    | nil => simp at inside
    | cons unit' second =>
      rw [List.cons_append, List.cons_append, List.cons_prefix_cons] at inside
      rw [inside.1, ih (List.not_mem_of_not_mem_cons nulFree) inside.2]

end PerformancePanel.Library.CString
