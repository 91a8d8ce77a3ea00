import PerformancePanel.Library.WhileLoop
import PerformancePanel.Source.LinuxReader
import PerformancePanel.Source.WindowsReader

/-!
# The list of binding names

Source: `iterate_binding_names` of both readers, and the loops of control/mfc/adjust_dialog.cpp
and control/qt/adjust_dialog.cpp that fill a combo box with what it returns. The two readers
differ in the list alone. The index is an `int` compared with a `size_t`, so a negative one
lies behind every list.
-/
set_option autoImplicit false

namespace PerformancePanel.Source.BindingNames
open Common Library

/-- `MAX_CHANNEL_NAME_LENGTH`. -/
def maxChannelNameLength : Nat := 32

/-- What an `int` index is as a `size_t`. -/
def position (index : Int32) : Nat := index.toInt64.toUInt64.toNat

/-- `strcpy` and `_tcscpy_s`: the name and its NUL over the start of the buffer. -/
def copyName (buffer : List CharT) (name : Name) : List CharT :=
  name.units ++ 0 :: buffer.drop (name.units.length + 1)

/-- `iterate_binding_names` over a list of names. -/
def iterateNames (dataSourceNames : List Name) (bindingNameBuf : List CharT)
    (bindingNameBufCharCount : Nat) (index : Int32) : List CharT × Status :=
  match dataSourceNames[position index]? with
  | none => (bindingNameBuf, .overflow)
  | some name =>
    if name.units.length ≥ bindingNameBufCharCount then (bindingNameBuf, .bufferTooSmall)
    else (copyName bindingNameBuf name,
      if position index = dataSourceNames.length - 1 then .success else .hasNext)

/-- The locals of a filling loop and the items its combo box has so far. -/
structure Filling where
  status : Status
  index : Int32
  buffer : List CharT
  combo : List Name
  deriving DecidableEq, Repr

def fillTest (s : Filling) : Bool := s.status = .hasNext

/-- One iteration; after the `break` the test fails as well. -/
def fillBody (iterateBindingNames : List CharT → Nat → Int32 → List CharT × Status)
    (charCount : Nat) (s : Filling) : Filling :=
  let answer := iterateBindingNames s.buffer charCount s.index
  if answer.2 ≠ .hasNext ∧ answer.2 ≠ .success then
    { s with status := answer.2, index := s.index + 1, buffer := answer.1 }
  else ⟨answer.2, s.index + 1, answer.1, s.combo ++ [Name.ofBuffer answer.1]⟩

/-- The loop that fills a combo box; `none` is a loop that `fuel` iterations do not leave. -/
def fillCombo (iterateBindingNames : List CharT → Nat → Int32 → List CharT × Status)
    (charCount fuel : Nat) (buffer : List CharT) : Option Filling :=
  WhileLoop.iterate fillTest (fillBody iterateBindingNames charCount) fuel ⟨.hasNext, 0, buffer, []⟩

/-- The name and its NUL have room in so many characters. -/
def fits (charCount : Nat) (name : Name) : Bool := name.units.length < charCount

/-! ## One call -/

theorem position_ofNat {i : Nat} (small : i < 2 ^ 31) : position (Int32.ofNat i) = i := by
  have value : (Int32.ofNat i).toInt64.toBitVec.toInt = i := by
    show (Int32.ofNat i).toInt64.toInt = i
    rw [Int32.toInt_toInt64, Int32.toInt_ofNat_of_lt small]
  have bound := (Int32.ofNat i).toInt64.toBitVec.isLt
  rw [position, ← Int64.toNat_toBitVec]
  rw [BitVec.toInt_eq_toNat_cond] at value
  split at value <;> omega

theorem position_negative {index : Int32} (negative : index < 0) : 2 ^ 63 ≤ position index := by
  have value : index.toInt64.toBitVec.toInt < 0 := by
    show index.toInt64.toInt < 0
    rw [Int32.toInt_toInt64]
    exact Int32.lt_iff_toInt_lt.mp negative
  have bound := index.toInt64.toBitVec.isLt
  rw [position, ← Int64.toNat_toBitVec]
  rw [BitVec.toInt_eq_toNat_cond] at value
  split at value <;> omega

/-- A copy with room stays inside the buffer and reads as the name. -/
theorem copyName_spec {buffer : List CharT} {name : Name}
    (room : name.units.length < buffer.length) :
    (copyName buffer name).length = buffer.length ∧
    Name.ofBuffer (copyName buffer name) = name := by
  refine ⟨?_, Name.ofBuffer_append_nul name _⟩
  simp only [copyName, List.length_append, List.length_cons, List.length_drop]
  omega

section list
variable {names : List Name}

/-- Behind the list, and at every negative index, nothing is written. -/
theorem iterateNames_behind (buffer : List CharT) (charCount : Nat) {index : Int32}
    (behind : names.length ≤ position index) :
    iterateNames names buffer charCount index = (buffer, .overflow) := by
  simp [iterateNames, List.getElem?_eq_none behind]

/-- Inside the list: a name without room is refused, another is copied. -/
theorem iterateNames_at (buffer : List CharT) (charCount : Nat) {i : Nat} {name : Name}
    (small : names.length < 2 ^ 31) (found : names[i]? = some name) :
    iterateNames names buffer charCount (Int32.ofNat i) =
      if fits charCount name then
        (copyName buffer name, if i = names.length - 1 then .success else .hasNext)
      else (buffer, .bufferTooSmall) := by
  have inside : i < names.length := (List.getElem?_eq_some_iff.mp found).1
  have here : position (Int32.ofNat i) = i := position_ofNat (by omega)
  simp only [iterateNames, here, found, fits, decide_eq_true_eq]
  by_cases room : name.units.length < charCount
  · rw [if_neg (Nat.not_le.mpr room), if_pos room]
  · rw [if_pos (Nat.not_lt.mp room), if_neg room]

/-! ## The filling loop -/

/-- What a filling loop ends with: the names before the first without room. -/
def finalStatus (names : List Name) (charCount : Nat) : Status :=
  if names.all (fits charCount) then .success else .bufferTooSmall

/-- The loop is at a name of the list, the names before it being its items. -/
structure Filling.AtName (names : List Name) (charCount : Nat) (s : Filling) : Prop where
  status : s.status = .hasNext
  index : s.index = Int32.ofNat s.combo.length
  items : ∃ name rest, names = s.combo ++ name :: rest
  fit : ∀ name ∈ s.combo, fits charCount name = true

/-- The loop has ended. -/
structure Filling.Ended (names : List Name) (charCount : Nat) (s : Filling) : Prop where
  status : s.status = finalStatus names charCount
  items : s.combo = names.takeWhile (fits charCount)

/-- What every iteration keeps, for a buffer of the given length. -/
def Filled (names : List Name) (charCount length : Nat) (s : Filling) : Prop :=
  s.buffer.length = length ∧ (s.AtName names charCount ∨ s.Ended names charCount)

/-- The names still to be asked for. -/
def remaining (names : List Name) (s : Filling) : Nat :=
  if s.status = .hasNext then names.length - s.combo.length else 0

theorem finalStatus_ne_hasNext (charCount : Nat) : finalStatus names charCount ≠ .hasNext := by
  unfold finalStatus
  split <;> nofun

/-- An iteration at a name adds it, or stops at one without room. -/
theorem fillBody_at (small : names.length < 2 ^ 31) {charCount : Nat} {s : Filling}
    (index : s.index = Int32.ofNat s.combo.length) (room : charCount ≤ s.buffer.length)
    {name : Name} {rest : List Name} (split : names = s.combo ++ name :: rest) :
    fillBody (iterateNames names) charCount s =
      if fits charCount name then
        ⟨if rest = [] then .success else .hasNext, s.index + 1, copyName s.buffer name,
          s.combo ++ [name]⟩
      else ⟨.bufferTooSmall, s.index + 1, s.buffer, s.combo⟩ := by
  have found : names[s.combo.length]? = some name := by simp [split]
  have last : s.combo.length = names.length - 1 ↔ rest = [] := by
    rw [split, List.length_append, List.length_cons, ← List.length_eq_zero_iff]
    omega
  have answer := iterateNames_at s.buffer charCount small found
  rw [← index] at answer
  simp only [fillBody, answer]
  by_cases short : fits charCount name = true
  · have inside : name.units.length < s.buffer.length :=
      lt_of_lt_of_le (of_decide_eq_true short) room
    simp only [if_pos short, (copyName_spec inside).2, last]
    by_cases ends : rest = [] <;> simp [ends]
  · simp [short]

/-- One iteration goes on to the next name or ends the loop. -/
theorem fillBody_filled (small : names.length < 2 ^ 31) {charCount length : Nat}
    (room : charCount ≤ length)
    {s : Filling} (filled : Filled names charCount length s) (more : fillTest s = true) :
    Filled names charCount length (fillBody (iterateNames names) charCount s) ∧
      remaining names (fillBody (iterateNames names) charCount s) < remaining names s := by
  obtain ⟨sized, here | ended⟩ := filled
  swap
  · rw [fillTest, ended.status, decide_eq_true_eq] at more
    exact absurd more (finalStatus_ne_hasNext charCount)
  obtain ⟨status, index, ⟨name, rest, split⟩, fit⟩ := here
  have before : remaining names s = rest.length + 1 := by
    rw [remaining, if_pos status, split]
    simp
  rw [fillBody_at small index (sized ▸ room) split, before]
  by_cases short : fits charCount name = true
  · have inside : name.units.length < s.buffer.length := by
      have := of_decide_eq_true short
      omega
    have copied := (copyName_spec inside).1.trans sized
    have fit' : ∀ n ∈ s.combo ++ [name], fits charCount n = true := by
      intro n member
      rcases List.mem_append.mp member with earlier | last
      · exact fit n earlier
      · rw [List.mem_singleton.mp last]
        exact short
    rw [if_pos short]
    cases rest with
    | nil =>
      have all : names.all (fits charCount) = true := by
        rw [split]
        exact List.all_eq_true.mpr fit'
      refine ⟨⟨copied, Or.inr ⟨?_, ?_⟩⟩, Nat.succ_pos _⟩
      · simp [finalStatus, all]
      · rw [List.takeWhile_eq_self_iff.mpr (List.all_eq_true.mp all), split]
    | cons following rest =>
      refine ⟨⟨copied, Or.inl ⟨rfl, ?_, ⟨following, rest, ?_⟩, fit'⟩⟩, ?_⟩
      · simp [index, List.length_append]
      · simp [split]
      · simp [remaining, split]
        omega
  · have notAll : names.all (fits charCount) = false := by
      rw [split]
      simp [short]
    rw [if_neg short]
    refine ⟨⟨sized, Or.inr ⟨?_, ?_⟩⟩, Nat.succ_pos _⟩
    · simp [finalStatus, notAll]
    · rw [split, List.takeWhile_append_of_pos fit, List.takeWhile_cons_of_neg short,
        List.append_nil]

/-- Whatever the buffer, the loop over a list ends with the names before the first that has no
room, inside its buffer. -/
theorem fillCombo_spec (nonempty : names ≠ []) (small : names.length < 2 ^ 31) {charCount : Nat}
    {buffer : List CharT} (room : charCount ≤ buffer.length) {fuel : Nat}
    (enough : names.length ≤ fuel) :
    ∃ final, fillCombo (iterateNames names) charCount fuel buffer = some final ∧
      final.buffer.length = buffer.length ∧ final.Ended names charCount := by
  obtain ⟨first, rest, rfl⟩ := List.exists_cons_of_ne_nil nonempty
  have start : Filled (first :: rest) charCount buffer.length ⟨.hasNext, 0, buffer, []⟩ :=
    ⟨rfl, Or.inl ⟨rfl, rfl, ⟨first, rest, rfl⟩, fun _ absent => absurd absent List.not_mem_nil⟩⟩
  obtain ⟨final, left, ⟨sized, state⟩, tested⟩ :=
    WhileLoop.iterate_total (remaining (first :: rest))
      (fun s filled more => fillBody_filled small room filled more) start enough
  refine ⟨final, left, sized, ?_⟩
  rcases state with here | ended
  · rw [fillTest, here.status] at tested
    cases tested
  · exact ended

end list

end PerformancePanel.Source.BindingNames

namespace PerformancePanel.Source.LinuxReader

def iterateBindingNames := BindingNames.iterateNames dataSourceNames

end PerformancePanel.Source.LinuxReader

namespace PerformancePanel.Source.WindowsReader

def iterateBindingNames := BindingNames.iterateNames dataSourceNames

end PerformancePanel.Source.WindowsReader
