import Mathlib.Data.List.Nodup

/-!
# Keyed lists with in-place replacement

`put` replaces the value of the first entry with a key, or appends a new entry:
insertion-ordered object members. Lookup is the library's `List.lookup`.
-/
set_option autoImplicit false

namespace PerformancePanel.Library.Assoc

variable {κ β : Type*} [DecidableEq κ]

def put (key : κ) (value : β) : List (κ × β) → List (κ × β)
  | [] => [(key, value)]
  | (k, v) :: rest => if k = key then (k, value) :: rest else (k, v) :: put key value rest

@[simp] theorem lookup_put_self (key : κ) (value : β) (entries : List (κ × β)) :
    (put key value entries).lookup key = some value := by
  induction entries with
  | nil => simp [put]
  | cons head rest ih =>
    obtain ⟨k, v⟩ := head
    by_cases same : k = key
    · subst same
      simp [put]
    · have differs : (key == k) = false := by simpa using Ne.symm same
      simp only [put, if_neg same, List.lookup_cons, differs, ih]

theorem lookup_put_ne {key other : κ} (different : other ≠ key) (value : β)
    (entries : List (κ × β)) : (put key value entries).lookup other = entries.lookup other := by
  have differs : (other == key) = false := by simpa using different
  induction entries with
  | nil => simp [put, List.lookup_cons, differs]
  | cons head rest ih =>
    obtain ⟨k, v⟩ := head
    by_cases same : k = key
    · subst same
      simp only [put, if_true, List.lookup_cons, differs]
    · simp only [put, if_neg same, List.lookup_cons, ih]

/-- Only a value that is there already is put without a change. -/
theorem put_eq_self_iff {key : κ} {value : β} {entries : List (κ × β)} :
    put key value entries = entries ↔ entries.lookup key = some value := by
  induction entries with
  | nil => simp [put]
  | cons head rest ih =>
    obtain ⟨k, v⟩ := head
    by_cases same : k = key
    · subst same
      simp [put, eq_comm]
    · have differs : (key == k) = false := by simpa using Ne.symm same
      simp [put, same, List.lookup_cons, differs, ih]

/-- Puts under two keys commute when one of the keys is there already; two new entries are
kept in the order they came in. -/
theorem put_comm {first second : κ} (different : first ≠ second) (value other : β)
    {entries : List (κ × β)} (present : entries.lookup first ≠ none) :
    put second other (put first value entries) = put first value (put second other entries) := by
  induction entries with
  | nil => exact absurd rfl present
  | cons head rest ih =>
    obtain ⟨k, v⟩ := head
    by_cases isFirst : k = first
    · subst isFirst
      simp [put, different]
    · have later : rest.lookup first ≠ none := by
        have differs : (first == k) = false := by simpa using Ne.symm isFirst
        simpa only [List.lookup_cons, differs] using present
      by_cases isSecond : k = second
      · subst isSecond
        simp [put, isFirst]
      · simp [put, isFirst, isSecond, ih later]

/-! ## Edits that leave other entries alone -/

/-- A key that is there stays where it is, a new one goes behind the others. -/
theorem keys_put (key : κ) (value : β) (entries : List (κ × β)) :
    (put key value entries).map Prod.fst =
      if key ∈ entries.map Prod.fst then entries.map Prod.fst
        else entries.map Prod.fst ++ [key] := by
  induction entries with
  | nil => rfl
  | cons head rest ih =>
    obtain ⟨k, v⟩ := head
    by_cases same : k = key
    · simp [put, same]
    · rw [put, if_neg same, List.map_cons, ih, List.map_cons]
      by_cases inside : key ∈ rest.map Prod.fst
      · rw [if_pos inside, if_pos (List.mem_cons_of_mem k inside)]
      · have outside : key ∉ k :: rest.map Prod.fst := by
          rw [List.mem_cons, not_or]
          exact ⟨Ne.symm same, inside⟩
        rw [if_neg inside, if_neg outside]
        rfl

theorem filter_put {key : κ} {foreign : κ → Bool} (own : foreign key = false) (value : β)
    (entries : List (κ × β)) :
    (put key value entries).filter (foreign ·.1) = entries.filter (foreign ·.1) := by
  induction entries with
  | nil => simp [put, own]
  | cons head rest ih =>
    obtain ⟨k, v⟩ := head
    by_cases same : k = key
    · subst same
      simp [put, own]
    · rw [put, if_neg same, List.filter_cons, List.filter_cons, ih]

/-- What puts under own keys leave of some entries: the foreign ones as they were, every key
in its place, new keys behind them, none of them twice or foreign. -/
structure Edited (foreign : κ → Bool) (before after : List (κ × β)) : Prop where
  others : after.filter (foreign ·.1) = before.filter (foreign ·.1)
  order : before.map Prod.fst <+: after.map Prod.fst
  unique : (before.map Prod.fst).Nodup → (after.map Prod.fst).Nodup
  added : ∀ key ∈ after.map Prod.fst, key ∈ before.map Prod.fst ∨ foreign key = false

omit [DecidableEq κ] in
theorem Edited.refl (foreign : κ → Bool) (entries : List (κ × β)) :
    Edited foreign entries entries :=
  ⟨rfl, List.prefix_rfl, id, fun _ => Or.inl⟩

theorem Edited.put {foreign : κ → Bool} {before after : List (κ × β)}
    (edited : Edited foreign before after) {key : κ} (own : foreign key = false) (value : β) :
    Edited foreign before (put key value after) := by
  refine ⟨(filter_put own value after).trans edited.others, ?_, fun unique => ?_,
    fun k member => ?_⟩
  · rw [keys_put]
    split
    · exact edited.order
    · exact edited.order.trans (List.prefix_append _ _)
  · rw [keys_put]
    split
    next => exact edited.unique unique
    next absent =>
      refine List.Nodup.append (edited.unique unique) (List.nodup_singleton key) ?_
      exact List.disjoint_singleton.mpr absent
  · rw [keys_put] at member
    split at member
    next => exact edited.added k member
    next =>
      rcases List.mem_append.mp member with inside | new
      · exact edited.added k inside
      · exact Or.inr (List.mem_singleton.mp new ▸ own)

end PerformancePanel.Library.Assoc
