import PerformancePanel.Library.CString
import PerformancePanel.Source.Names

/-!
# Registry values and strings

The registry calls of datasource/windows/registryreader.c on the values of one key. A
value is its stored bytes; characters are 16-bit little-endian units. `RegSetValueEx`
stores a `REG_SZ` with its terminating NUL when the byte count leaves it out;
`RegQueryValueEx` copies every stored byte over the start of the buffer, or fails when
the value is missing or longer than the size it is given, which it reads as bytes.
-/
set_option autoImplicit false

namespace PerformancePanel.Source.Registry
open Common

/-- The values of one key: names and stored bytes. -/
abbrev RegistryKey := String → Option (List UInt8)

def unitBytes (u : CharT) : List UInt8 := [u.toUInt8, (u >>> 8).toUInt8]

def bytes (units : List CharT) : List UInt8 := units.flatMap unitBytes

/-- The characters a buffer of bytes holds. -/
def units : List UInt8 → List CharT
  | low :: high :: rest => (low.toUInt16 ||| (high.toUInt16 <<< 8)) :: units rest
  | _ => []

/-- What `RegSetValueEx` stores for a `REG_SZ` of `byteCount` bytes. -/
def storedString (name : Name) (byteCount : Nat) : List UInt8 :=
  let data := (bytes (name.units ++ [0])).take byteCount
  if data = [] ∨ (units data).getLast? = some 0 then data else data ++ unitBytes 0

/-- A `DWORD` holding a byte. -/
def dword (value : UInt8) : List UInt8 := [value, 0, 0, 0]

theorem dword_inj {value other : UInt8} : dword value = dword other ↔ value = other := by
  simp [dword]

/-- `(uint8_t)` of a `DWORD`. -/
def lowByte (data : List UInt8) : UInt8 := data.headD 0

/-- `RegQueryValueEx`: whether it succeeds, and the buffer afterwards. A value that does
not fit leaves the buffer undefined. -/
def regQueryValueEx (registry : RegistryKey) (key : String) (buffer : List UInt8) (size : Nat)
    (undefinedData : List UInt8) : Bool × List UInt8 :=
  match registry key with
  | some data =>
    if data.length ≤ size then (true, data ++ buffer.drop data.length) else (false, undefinedData)
  | none => (false, buffer)

/-- `RegSetValueEx` that succeeds. -/
def regSetValueEx (registry : RegistryKey) (key : String) (data : List UInt8) : RegistryKey :=
  fun other => if other = key then some data else registry other

@[simp] theorem regSetValueEx_self (registry : RegistryKey) (key : String) (data : List UInt8) :
    regSetValueEx registry key data key = some data := if_pos rfl

theorem regSetValueEx_ne (registry : RegistryKey) {key other : String} (different : other ≠ key)
    (data : List UInt8) : regSetValueEx registry key data other = registry other :=
  if_neg different

theorem regSetValueEx_comm (registry : RegistryKey) {key other : String} (different : key ≠ other)
    (data data' : List UInt8) :
    regSetValueEx (regSetValueEx registry key data) other data' =
      regSetValueEx (regSetValueEx registry other data') key data := by
  funext name
  by_cases here : name = key
  · subst here
    rw [regSetValueEx_ne _ different, regSetValueEx_self, regSetValueEx_self]
  · by_cases there : name = other
    · subst there
      rw [regSetValueEx_self, regSetValueEx_ne _ here, regSetValueEx_self]
    · rw [regSetValueEx_ne _ there, regSetValueEx_ne _ here, regSetValueEx_ne _ here,
        regSetValueEx_ne _ there]

/-! ## Characters and bytes -/

theorem unit_of_bytes (u : CharT) :
    (u.toUInt8.toUInt16 ||| ((u >>> 8).toUInt8.toUInt16 <<< 8)) = u := by
  have hu := u.toNat_lt
  apply UInt16.toNat.inj
  simp only [UInt16.toNat_or, UInt8.toNat_toUInt16, UInt16.toNat_toUInt8, UInt16.toNat_shiftLeft,
    UInt16.toNat_shiftRight]
  show u.toNat % 2 ^ 8 ||| (u.toNat >>> 8 % 2 ^ 8) <<< 8 % 2 ^ 16 = u.toNat
  have low : u.toNat % 2 ^ 8 < 2 ^ 8 := Nat.mod_lt _ (by decide)
  have high : (u.toNat >>> 8 % 2 ^ 8) <<< 8 % 2 ^ 16 = (u.toNat >>> 8) <<< 8 := by
    rw [Nat.shiftRight_eq_div_pow, Nat.shiftLeft_eq, Nat.shiftLeft_eq]
    omega
  rw [high, Nat.or_comm, ← Nat.shiftLeft_add_eq_or_of_lt low, Nat.shiftLeft_eq,
    Nat.shiftRight_eq_div_pow]
  omega

theorem bytes_cons (u : CharT) (us : List CharT) :
    bytes (u :: us) = u.toUInt8 :: (u >>> 8).toUInt8 :: bytes us := rfl

@[simp] theorem bytes_length (us : List CharT) : (bytes us).length = 2 * us.length := by
  induction us with
  | nil => rfl
  | cons u us ih =>
    rw [bytes_cons, List.length_cons, List.length_cons, List.length_cons, ih]
    omega

theorem bytes_append (first rest : List CharT) :
    bytes (first ++ rest) = bytes first ++ bytes rest := by
  simp [bytes]

theorem units_bytes_append (us : List CharT) (rest : List UInt8) :
    units (bytes us ++ rest) = us ++ units rest := by
  induction us with
  | nil => rfl
  | cons u us ih =>
    rw [bytes_cons, List.cons_append, List.cons_append, units, unit_of_bytes, ih]
    rfl

@[simp] theorem units_bytes (us : List CharT) : units (bytes us) = us := by
  have whole := units_bytes_append us []
  simpa [units] using whole

theorem bytes_of_unit (low high : UInt8) :
    unitBytes (low.toUInt16 ||| (high.toUInt16 <<< 8)) = [low, high] := by
  have hl : low.toNat < 2 ^ 8 := low.toNat_lt
  have hh := high.toNat_lt
  have value : (low.toUInt16 ||| (high.toUInt16 <<< 8)).toNat = high.toNat * 256 + low.toNat := by
    simp only [UInt16.toNat_or, UInt8.toNat_toUInt16, UInt16.toNat_shiftLeft]
    show low.toNat ||| high.toNat <<< 8 % 2 ^ 16 = _
    have fits : high.toNat <<< 8 < 2 ^ 16 := by
      rw [Nat.shiftLeft_eq]
      omega
    rw [Nat.mod_eq_of_lt fits, Nat.or_comm, ← Nat.shiftLeft_add_eq_or_of_lt hl, Nat.shiftLeft_eq]
  have lowByte : (low.toUInt16 ||| (high.toUInt16 <<< 8)).toUInt8 = low := by
    apply UInt8.toNat.inj
    rw [UInt16.toNat_toUInt8, value]
    omega
  have highByte : ((low.toUInt16 ||| (high.toUInt16 <<< 8)) >>> 8).toUInt8 = high := by
    apply UInt8.toNat.inj
    rw [UInt16.toNat_toUInt8, UInt16.toNat_shiftRight, value]
    show (high.toNat * 256 + low.toNat) >>> 8 % 2 ^ 8 = _
    rw [Nat.shiftRight_eq_div_pow]
    omega
  rw [unitBytes, lowByte, highByte]

/-- Data starts with the bytes of some characters exactly when its characters start with
these; an odd last byte is no character. -/
theorem bytes_prefix_iff {us : List CharT} {data : List UInt8} :
    bytes us <+: data ↔ us <+: units data := by
  constructor
  · rintro ⟨rest, rfl⟩
    rw [units_bytes_append]
    exact List.prefix_append us (units rest)
  · intro inside
    induction us generalizing data with
    | nil => exact List.nil_prefix
    | cons u us ih =>
      unfold units at inside
      split at inside
      next low high rest =>
        obtain ⟨same, later⟩ := List.cons_prefix_cons.mp inside
        have first : bytes (u :: us) = [low, high] ++ bytes us := by
          rw [same]
          exact congrArg (· ++ bytes us) (bytes_of_unit low high)
        rw [first]
        exact List.cons_prefix_cons.mpr ⟨rfl, List.cons_prefix_cons.mpr ⟨rfl, ih later⟩⟩
      next => simp at inside

theorem units_length (data : List UInt8) : (units data).length = data.length / 2 := by
  induction data using units.induct with
  | case1 low high rest ih =>
    rw [units, List.length_cons, ih, List.length_cons, List.length_cons]
    omega
  | case2 data short =>
    match data with
    | [] => rfl
    | [_] => simp [units]
    | low :: high :: rest => exact absurd rfl (short low high rest)

/-- A buffer with room for the name and its NUL holds it exactly when it starts with their
bytes. -/
theorem ofBuffer_eq_iff {name : Name} {buffer : List UInt8}
    (room : 2 * (name.units.length + 1) ≤ buffer.length) :
    Name.ofBuffer (units buffer) = name ↔ bytes (name.units ++ [0]) <+: buffer := by
  have shorter : name.units.length < (units buffer).length := by
    rw [units_length]
    omega
  rw [bytes_prefix_iff, ← Library.CString.read_eq_iff name.nulFree shorter]
  exact Name.ext_iff

/-- A terminated string is read the same whatever the buffer held behind it. -/
theorem ofBuffer_terminated {data : List UInt8} (terminated : (0 : CharT) ∈ units data)
    (rest : List UInt8) : Name.ofBuffer (units (data ++ rest)) = Name.ofBuffer (units data) := by
  apply Name.ext
  simp only [Name.ofBuffer]
  induction data using units.induct with
  | case1 low high tail ih =>
    rw [units] at terminated
    rw [List.cons_append, List.cons_append, units, units]
    by_cases ends : low.toUInt16 ||| high.toUInt16 <<< 8 = 0
    · rw [ends]
      simp
    · have later : (0 : CharT) ∈ units tail :=
        (List.mem_cons.mp terminated).resolve_left (Ne.symm ends)
      have more : (low.toUInt16 ||| high.toUInt16 <<< 8 != 0) = true := by simpa using ends
      simp only [List.takeWhile_cons, more, if_true, ih later]
  | case2 data short =>
    have empty : units data = [] := by
      unfold units
      split
      next low high tail => exact absurd rfl (short low high tail)
      next => rfl
    rw [empty] at terminated
    cases terminated

/-! ## Stored strings -/

/-- A string stored with its whole byte count is its characters and a NUL. -/
theorem storedString_whole (name : Name) (nonempty : name.units ≠ []) :
    storedString name (2 * name.units.length) = bytes (name.units ++ [0]) := by
  have data : (bytes (name.units ++ [0])).take (2 * name.units.length) = bytes name.units := by
    rw [bytes_append, List.take_left' (bytes_length _)]
  have written : bytes name.units ≠ [] := by
    intro empty
    have length := congrArg List.length empty
    rw [bytes_length, List.length_nil] at length
    exact nonempty (List.length_eq_zero_iff.mp (by omega))
  have unterminated : (units (bytes name.units)).getLast? ≠ some 0 := by
    rw [units_bytes]
    intro ends
    exact name.nulFree (List.mem_of_getLast? ends)
  unfold storedString
  rw [data, if_neg (not_or.mpr ⟨written, unterminated⟩), bytes_append]
  rfl

/-- It is read back whole. -/
theorem ofBuffer_bytes (name : Name) :
    Name.ofBuffer (units (bytes (name.units ++ [0]))) = name := by
  rw [units_bytes]
  exact Name.ofBuffer_append_nul name []

end PerformancePanel.Source.Registry
