import PerformancePanel.Library.Assoc
import PerformancePanel.Source.Names

/-!
# json-c as the Linux reader uses it

The library itself is not part of the source tree. Its documented behaviour enters in
two ways: operations whose result the documentation fixes are definitions under the
library's names, and the rest (reading a partly written document, number conversions,
text of a non-string value) are the fields of `JsonC` with the
laws the reader relies on. A file is represented by what `json_object_from_file` makes
of it; a save opens the file truncating it and writes the text in place.
-/
set_option autoImplicit false

namespace PerformancePanel.Source.JsonLibrary
open Common

/-- A parsed document. A `double` keeps its source text, as the tokener does. -/
inductive Json where
  | null
  | boolean (value : Bool)
  | int (value : Int)
  | double (text : String)
  | string (units : List CharT)
  | array (items : List Json)
  | object (members : List (String × Json))

/-- `json_object_object_get_ex`: false on anything but an object. -/
def Json.get? (document : Json) (key : String) : Option Json :=
  match document with
  | .object members => members.lookup key
  | _ => none

/-- `json_object_object_add_ex` with no options, and the effect on the document of
setting a member through the pointer `json_object_object_get_ex` returned. `none` is
the assertion that the value is an object. -/
def Json.put? (document : Json) (key : String) (value : Json) : Option Json :=
  match document with
  | .object members => some (.object (Library.Assoc.put key value members))
  | _ => none

/-- `json_object_set_string`: only on a string. -/
def Json.setString? (value : Json) (name : Name) : Option Json :=
  match value with
  | .string _ => some (.string name.units)
  | _ => none

/-- `json_object_set_int`: only on an int. -/
def Json.setInt? (value : Json) (new : Int) : Option Json :=
  match value with
  | .int _ => some (.int new)
  | _ => none

/-- `json_object_get_int` clamps to 32 bits. -/
def clampInt32 (value : Int) : Int := max (-2147483648) (min value 2147483647)

/-- What the reader relies on of the library. -/
structure JsonC where
  /-- `json_object_from_file` on a proper part of a document's text, so many characters
  long. -/
  readPartial : Json → Nat → Option Json
  doubleToInt : String → Int
  stringToInt : List CharT → Int
  /-- `json_object_to_json_string`, the text behind `json_object_get_string`. -/
  jsonText : Json → Name
  /-- The text of an object ends with its closing brace: a proper part is no document. -/
  readPartial_object : ∀ members characters, readPartial (.object members) characters = none
  /-- Only strings have a text starting with a capital C (numbers, literals, arrays and
  objects do not). -/
  jsonText_head : ∀ value, (∀ units, value ≠ .string units) →
    (jsonText value).units.head? ≠ some 67

namespace JsonC

variable (J : JsonC)

/-- `json_object_get_string`; `none` is the NULL of a JSON null. -/
def getString (value : Json) : Option Name :=
  match value with
  | .null => none
  | .string units => some (Name.ofBuffer units)
  | value => some (J.jsonText value)

/-- `json_object_get_int`. -/
def getInt (value : Json) : Int :=
  match value with
  | .null => 0
  | .boolean b => if b then 1 else 0
  | .int v => clampInt32 v
  | .double text => J.doubleToInt text
  | .string units => J.stringToInt units
  | .array _ => 0
  | .object _ => 0

end JsonC

/-- config.json: missing, or holding a text that reads as the given document. -/
inductive ConfigFile where
  | absent
  | text (document : Option Json)

/-- `json_object_from_file`: NULL for an unreadable text and for the document `null`. -/
def jsonObjectFromFile : ConfigFile → Option Json
  | .text (some .null) => none
  | .text document => document
  | .absent => none

/-- How much of the new text a save that does not complete has put into the file:
nothing at all, the file being as before; a proper part, after the truncating open; or
the whole text. -/
inductive Written where
  | untouched
  | part (characters : Nat)
  | whole
  deriving DecidableEq, Repr

/-- How one save goes: it succeeds, it is reported failed, or the process is stopped
inside it. -/
inductive SaveOutcome where
  | done
  | failed (written : Written)
  | stopped (written : Written)
  deriving DecidableEq, Repr

def SaveOutcome.written : SaveOutcome → Written
  | .done => .whole
  | .failed written => written
  | .stopped written => written

inductive SaveResult where
  | written | error | stopped
  deriving DecidableEq, Repr

def SaveOutcome.result : SaveOutcome → SaveResult
  | .done => .written
  | .failed _ => .error
  | .stopped _ => .stopped

def fileAfter (J : JsonC) (document : Json) (file : ConfigFile) : Written → ConfigFile
  | .untouched => file
  | .part characters => .text (J.readPartial document characters)
  | .whole => .text (some document)

/-- `json_object_to_file_ext`. -/
def jsonObjectToFileExt (J : JsonC) (document : Json) (file : ConfigFile) (save : SaveOutcome) :
    ConfigFile × SaveResult :=
  (fileAfter J document file save.written, save.result)

/-! ## Facts about documents and values -/

theorem get?_put?_self {document updated : Json} {key : String} {value : Json}
    (h : document.put? key value = some updated) : updated.get? key = some value := by
  cases document with
  | object members =>
    simp only [Json.put?, Option.some.injEq] at h
    subst h
    exact Library.Assoc.lookup_put_self key value members
  | _ => simp [Json.put?] at h

theorem get?_put?_ne {document updated : Json} {key other : String} {value : Json}
    (h : document.put? key value = some updated) (different : other ≠ key) :
    updated.get? other = document.get? other := by
  cases document with
  | object members =>
    simp only [Json.put?, Option.some.injEq] at h
    subst h
    exact Library.Assoc.lookup_put_ne different value members
  | _ => simp [Json.put?] at h

/-- Setting a member to the value it has changes nothing, and only that does. -/
theorem put?_eq_self_iff {document : Json} {key : String} {value : Json} :
    document.put? key value = some document ↔ document.get? key = some value := by
  cases document with
  | object members =>
    simp only [Json.put?, Json.get?, Option.some.injEq, Json.object.injEq]
    exact Library.Assoc.put_eq_self_iff
  | _ => exact ⟨nofun, nofun⟩

/-- Two members that the document has are set in either order. -/
theorem put?_comm {document first second : Json} {key other : String} {value new : Json}
    (different : key ≠ other) (present : document.get? key ≠ none)
    (putFirst : document.put? key value = some first)
    (putSecond : document.put? other new = some second) :
    first.put? other new = second.put? key value := by
  cases document with
  | object members =>
    simp only [Json.put?, Option.some.injEq] at putFirst putSecond
    subst putFirst putSecond
    exact congrArg (fun entries => some (Json.object entries))
      (Library.Assoc.put_comm different value new present)
  | _ => cases putFirst

theorem setString?_isSome {value : Json} {name : Name} {updated : Json}
    (h : value.setString? name = some updated) :
    updated = .string name.units ∧ ∃ units, value = .string units := by
  cases value with
  | string units =>
    simp only [Json.setString?, Option.some.injEq] at h
    exact ⟨h.symm, units, rfl⟩
  | _ => simp [Json.setString?] at h

theorem setInt?_isSome {value : Json} {new : Int} {updated : Json}
    (h : value.setInt? new = some updated) : updated = .int new := by
  cases value with
  | int v =>
    simp only [Json.setInt?, Option.some.injEq] at h
    exact h.symm
  | _ => simp [Json.setInt?] at h

@[simp] theorem getString_string (J : JsonC) (name : Name) :
    J.getString (.string name.units) = some name := by
  simp [JsonC.getString, Name.ofBuffer_units]

/-- A stored calibration value is read back whole. -/
theorem getInt_calibration (J : JsonC) (value : UInt8) :
    UInt8.ofInt (J.getInt (.int value.toNat)) = value := by
  have below := value.toNat_lt
  have unclamped : clampInt32 value.toNat = value.toNat := by
    unfold clampInt32
    omega
  have small : ((value.toNat : Int) % 2 ^ 8).toNat = value.toNat := by omega
  simp only [JsonC.getInt, unclamped, UInt8.ofInt, small, UInt8.ofNat_toNat]

/-- The text of a value that is no string is never the calibration name. -/
theorem getString_ne_calibration (J : JsonC) {value : Json} (h : ∀ units, value ≠ .string units) :
    J.getString value ≠ some Names.calibration := by
  intro same
  have head := J.jsonText_head value h
  have isText : J.getString value = none ∨ J.getString value = some (J.jsonText value) := by
    cases value with
    | null => exact Or.inl rfl
    | string units => exact absurd rfl (h units)
    | _ => exact Or.inr rfl
  rcases isText with null | text
  · rw [null] at same
    cases same
  · rw [text, Option.some.injEq] at same
    rw [same] at head
    exact head (by decide)

/-- An instance for documents whose members are strings and integers: the conversions
of other values are never asked for there. -/
def plain : JsonC where
  readPartial := fun _ _ => none
  doubleToInt := fun _ => 0
  stringToInt := fun _ => 0
  jsonText := fun _ => ⟨text "{ }", by decide⟩
  readPartial_object := fun _ _ => rfl
  jsonText_head := fun _ _ => by decide

end PerformancePanel.Source.JsonLibrary
