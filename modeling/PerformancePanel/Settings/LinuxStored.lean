import PerformancePanel.Settings.StoredReader
import PerformancePanel.Source.LinuxLoad

/-!
# The Linux reader as stored settings

With every save succeeding, config.json is the text of the cached document, each key of a
channel below the count is present, and the two setters are writes of the channel's cell:
a stored value of another JSON type refuses the write and decodes to NULL.
-/
set_option autoImplicit false

namespace PerformancePanel.Settings.LinuxStored
open Source.Common Source.DataSources Source.Collector Source.DataSourceInterface
open Source.JsonLibrary Source.LinuxReader Source.LinuxLoad Library Library.WriteThrough

/-- The interface as this reader implements it, every save succeeding. -/
def linuxApi (J : JsonC) : DataSourceApi Linux where
  tables := Linux.tables
  dataSourceNames := dataSourceNames
  nameStringToCallback := nameStringToCallback
  callbackToNameString := callbackToNameString
  setChannelSourceBinding := setChannelSourceBinding J .done
  clearBinding := clearBinding
  setChannelCalibration := setChannelCalibration J .done

/-- The value config.json has for a key. -/
def storedValue (s : Linux) (key : Key) : Json :=
  match jsonObjectFromFile s.file with
  | some document => valueAt document key
  | none => key.initial

def isString : Json → Bool
  | .string _ => true
  | _ => false

def isInt : Json → Bool
  | .int _ => true
  | _ => false

def bindingCodec (J : JsonC) : Codec Json Name Callback where
  accepts := isString
  encode := fun name => .string name.units
  decode := decodeBinding J
  absent := none

def calibrationCodec (J : JsonC) : Codec Json UInt8 UInt8 where
  accepts := isInt
  encode := fun value => .int value.toNat
  decode := decodeCalibration J
  absent := 0

def representation (J : JsonC) : Representation Linux Json Json where
  api := linuxApi J
  storedBinding := fun s channel => storedValue s (.binding channel)
  storedCalibration := fun s channel => storedValue s (.calibration channel)
  bindings := bindingCodec J
  calibrations := calibrationCodec J

/-- A document that every channel can be loaded from without a default. -/
structure Usable (J : JsonC) (count : Nat) (r : Json) : Prop where
  object : IsObject r
  keys : ∀ c < count, r.get? (Key.binding c).name ≠ none ∧ r.get? (Key.calibration c).name ≠ none
  readable : ∀ c < count, J.getString (valueAt r (.binding c)) ≠ none

/-- It stays so when one of its values is replaced by a readable one. -/
theorem usable_put {J : JsonC} {count : Nat} {r r' : Json} (usable : Usable J count r) {key : Key}
    {new : Json} (put : r.put? key.name new = some r')
    (text : ∀ c, key = .binding c → J.getString new ≠ none) : Usable J count r' where
  object := isObject_of_put? put
  keys := fun c below => ⟨present_put put (Or.inl (usable.keys c below).1),
    present_put put (Or.inl (usable.keys c below).2)⟩
  readable := fun c below => by
    by_cases same : Key.binding c = key
    · subst same
      rw [valueAt_put_self put]
      exact text c rfl
    · rw [valueAt_put_ne put same]
      exact usable.readable c below

/-- The cached document `r` of a loaded reader, saved as it is. -/
structure Saved (J : JsonC) (count : Nat) (s : Linux) (r : Json) : Prop where
  root : s.rootObject = some r
  object : IsObject r
  file : s.file = .text (some r)
  keys : ∀ c < count, r.get? (Key.binding c).name ≠ none ∧ r.get? (Key.calibration c).name ≠ none
  readable : ∀ c < count, J.getString (valueAt r (.binding c)) ≠ none

/-- A start with no channel caches nothing. -/
def Loaded (J : JsonC) (count : Nat) (s : Linux) : Prop :=
  s.tables.Sized count ∧ (0 < count → ∃ r, Saved J count s r)

theorem storedValue_eq {J : JsonC} {count : Nat} {s : Linux} {r : Json} (saved : Saved J count s r)
    (key : Key) : storedValue s key = valueAt r key := by
  obtain ⟨members, object⟩ := saved.object
  unfold storedValue
  rw [saved.file, object]
  rfl

section start
variable {J : JsonC} {count : Nat} {d : Json} {s : Linux} (loaded : LoadedUpTo J d count count s)
  (readable : ∀ c < count, J.getString (valueAt d (.binding c)) ≠ none)
include loaded readable

/-- A successful start with a channel to bind leaves its document saved. -/
theorem saved_of_start (positive : 0 < count) : ∃ r, Saved J count s r ∧ Extends d r := by
  obtain ⟨r, _, extended, holds, cached, keys⟩ := loaded.document
  have written : s.file = .text (some r) := by
    rcases holds with written | ⟨_, empty⟩
    · exact written
    · have present := (keys 0 positive).1
      rw [empty] at present
      exact absurd rfl present
  have texts : ∀ c < count, J.getString (valueAt r (.binding c)) ≠ none := by
    intro c below
    rw [extended.values]
    exact readable c below
  exact ⟨r, ⟨cached positive, extended.object, written, keys, texts⟩, extended⟩

/-- The file then has the values of the document the start found. -/
theorem storedValue_of_start (positive : 0 < count) (key : Key) :
    storedValue s key = valueAt d key := by
  obtain ⟨r, saved, extended⟩ := saved_of_start loaded readable positive
  rw [storedValue_eq saved, extended.values]

/-- A successful start leaves a loaded reader whose entries are decoded from its file. -/
theorem loaded_of_start :
    Loaded J count s ∧ ∀ c < count, s.tables.callback c =
      decodeBinding J (storedValue s (.binding c)) ∧
      s.tables.calibration c = decodeCalibration J (storedValue s (.calibration c)) := by
  refine ⟨⟨loaded.sized, fun positive => ?_⟩, fun c below => ?_⟩
  · obtain ⟨r, saved, _⟩ := saved_of_start loaded readable positive
    exact ⟨r, saved⟩
  · have bound := loaded.bound c below
    have value := storedValue_of_start loaded readable (by omega)
    rw [value, value]
    exact bound

end start

section calls
variable {J : JsonC} {count : Nat} {s : Linux}

/-- The saved document after one of its values is replaced. -/
theorem saved_after {r r' : Json} (saved : Saved J count s r) {key : Key} {new : Json}
    (put : r.put? key.name new = some r') (text : ∀ c, key = .binding c → J.getString new ≠ none)
    (tables : Tables) : Saved J count ⟨some r', .text (some r'), tables⟩ r' :=
  have usable := usable_put ⟨saved.object, saved.keys, saved.readable⟩ put text
  ⟨rfl, usable.object, rfl, usable.keys, usable.readable⟩

theorem storedValue_after {r r' : Json} (saved : Saved J count s r) {key : Key} {new : Json}
    (put : r.put? key.name new = some r') (tables : Tables) :
    storedValue ⟨some r', .text (some r'), tables⟩ = Function.update (storedValue s) key new := by
  obtain ⟨members, object⟩ := isObject_of_put? put
  funext other
  have stored : storedValue ⟨some r', .text (some r'), tables⟩ other = valueAt r' other := by
    rw [object]
    rfl
  rw [stored]
  by_cases same : other = key
  · rw [same, Function.update_self, valueAt_put_self put]
  · rw [Function.update_of_ne same, valueAt_put_ne put same, storedValue_eq saved]

variable (loaded : Loaded J count s) {channel : Nat} (below : channel < count) {key : Key}
  (own : key = .binding channel ∨ key = .calibration channel) (update : Json → Option Json)
include loaded below own

theorem own_saved : ∃ r value, Saved J count s r ∧ r.get? key.name = some value ∧
    storedValue s key = value := by
  obtain ⟨r, saved⟩ := loaded.2 (by omega)
  have keys := saved.keys channel below
  have present : r.get? key.name ≠ none := by
    rcases own with rfl | rfl
    · exact keys.1
    · exact keys.2
  obtain ⟨value, found⟩ := Option.ne_none_iff_exists'.mp present
  refine ⟨r, value, saved, found, ?_⟩
  rw [storedValue_eq saved, valueAt, found, Option.getD_some]

/-- A setter of one of the channel's keys: a value that accepts the update is replaced in
the cached document and in the file. -/
theorem setMember_stores {new : Json} (accepted : update (storedValue s key) = some new)
    (text : ∀ c, key = .binding c → J.getString new ≠ none) {commit : Tables → Tables}
    (sizes : ∀ t : Tables, (commit t).Sized count ↔ t.Sized count) :
    ∃ s', setMember J .done key.name update commit s = (s', .returned .success) ∧
      s'.tables = commit s.tables ∧ Loaded J count s' ∧
      storedValue s' = Function.update (storedValue s) key new := by
  obtain ⟨r, value, saved, found, stored⟩ := own_saved loaded below own
  rw [stored] at accepted
  obtain ⟨r', put, _⟩ := isObject_put? saved.object key.name new
  refine ⟨⟨some r', .text (some r'), commit s.tables⟩, ?_, rfl, ⟨?_, fun _ => ⟨r', ?_⟩⟩, ?_⟩
  · simp [setMember, Linux.member?, Linux.withMember?, saved.root, found, accepted, put,
      saveThen_done]
  · exact (sizes s.tables).mpr loaded.1
  · exact saved_after saved put text _
  · exact storedValue_after saved put _

/-- A stored value of another type refuses, and nothing changes. -/
theorem setMember_refuses (refused : update (storedValue s key) = none) (commit : Tables → Tables) :
    setMember J .done key.name update commit s = (s, .returned .deviceConfigurationFailed) := by
  obtain ⟨r, value, saved, found, stored⟩ := own_saved loaded below own
  rw [stored] at refused
  simp [setMember, Linux.member?, saved.root, found, refused]

end calls

theorem setString?_eq (value : Json) (name : Name) :
    value.setString? name = if isString value then some (.string name.units) else none := by
  cases value <;> rfl

theorem setInt?_eq (value : Json) (new : Int) :
    value.setInt? new = if isInt value then some (.int new) else none := by
  cases value <;> rfl

/-- The values of one kind of key after a write to a key of that kind. -/
theorem update_kind (stored : Key → Json) {kind : Nat → Key} (injective : Function.Injective kind)
    (channel : Nat) (new : Json) :
    (fun c => Function.update stored (kind channel) new (kind c)) =
      Function.update (fun c => stored (kind c)) channel new :=
  Function.update_comp_eq_of_injective stored injective channel new

theorem binding_injective : Function.Injective Key.binding := fun _ _ h => Key.binding.inj h

theorem calibration_injective : Function.Injective Key.calibration :=
  fun _ _ h => Key.calibration.inj h

section refinement
variable {J : JsonC} {count : Nat} {s : Linux} (loaded : Loaded J count s) {channel : Nat}
  (below : channel < count)
include loaded below

/-- A string is replaced by the new name, and the callback by the name's. -/
theorem setChannelSourceBinding_stores
    (accepted : isString (storedValue s (.binding channel)) = true) (name : Name) :
    ∃ s', setChannelSourceBinding J .done channel name s = (s', .returned .success) ∧
      s'.tables = s.tables.setCallback channel (nameStringToCallback name) ∧ Loaded J count s' ∧
      storedValue s' = Function.update (storedValue s) (.binding channel) (.string name.units) := by
  have update := setString?_eq (storedValue s (.binding channel)) name
  rw [accepted, if_pos rfl] at update
  exact setMember_stores loaded below (Or.inl rfl) (·.setString? name) update (fun _ _ => by simp)
    fun t => Tables.setCallback_sized t channel count _

/-- An int is replaced by the new calibration. -/
theorem setChannelCalibration_stores
    (accepted : isInt (storedValue s (.calibration channel)) = true) (value : UInt8) :
    ∃ s', setChannelCalibration J .done channel value s = (s', .returned .success) ∧
      s'.tables = s.tables.setCalibration channel value ∧ Loaded J count s' ∧
      storedValue s' = Function.update (storedValue s) (.calibration channel)
        (.int value.toNat) := by
  have update := setInt?_eq (storedValue s (.calibration channel)) value.toNat
  rw [accepted, if_pos rfl] at update
  exact setMember_stores loaded below (Or.inr rfl) (·.setInt? value.toNat) update
    (fun _ different => by cases different) fun t => Tables.setCalibration_sized t channel count _

/-- Setting a binding is a write of the channel's binding cell. -/
theorem setChannelSourceBinding_refines (name : Name) :
    Loaded J count (setChannelSourceBinding J .done channel name s).1 ∧
      (representation J).bindingCells (setChannelSourceBinding J .done channel name s).1 =
        write (bindingCodec J) ((representation J).bindingCells s) channel name ∧
      (representation J).calibrationCells (setChannelSourceBinding J .done channel name s).1 =
        (representation J).calibrationCells s := by
  have accepts : (bindingCodec J).accepts (((representation J).bindingCells s).stored channel) =
      isString (storedValue s (.binding channel)) := rfl
  unfold write
  rw [accepts]
  cases accepted : isString (storedValue s (.binding channel)) with
  | true =>
    obtain ⟨s', called, tables, loaded', values⟩ :=
      setChannelSourceBinding_stores loaded below accepted name
    rw [called, if_pos rfl]
    refine ⟨loaded', ?_, ?_⟩
    · simp only [Representation.bindingCells, representation, values, tables, linuxApi,
        bindingCodec,
        callback_update loaded.1 below, update_kind _ binding_injective, decodeBinding_name]
    · have other (c : Nat) : Key.calibration c ≠ Key.binding channel := fun same => by cases same
      simp only [Representation.calibrationCells, representation, values, tables, linuxApi,
        Function.update_of_ne (other _)]
      rfl
  | false =>
    have update := setString?_eq (storedValue s (.binding channel)) name
    rw [accepted, if_neg Bool.false_ne_true] at update
    have called := setMember_refuses loaded below (Or.inl rfl) (·.setString? name) update
      (·.setCallback channel (nameStringToCallback name))
    have result : (setChannelSourceBinding J .done channel name s).1 = s := congrArg Prod.fst called
    rw [result, if_neg Bool.false_ne_true]
    exact ⟨loaded, rfl, rfl⟩

/-- Setting a calibration is a write of the channel's calibration cell. -/
theorem setChannelCalibration_refines (value : UInt8) :
    Loaded J count (setChannelCalibration J .done channel value s).1 ∧
      (representation J).bindingCells (setChannelCalibration J .done channel value s).1 =
        (representation J).bindingCells s ∧
      (representation J).calibrationCells (setChannelCalibration J .done channel value s).1 =
        write (calibrationCodec J) ((representation J).calibrationCells s) channel value := by
  have accepts : (calibrationCodec J).accepts
      (((representation J).calibrationCells s).stored channel) =
        isInt (storedValue s (.calibration channel)) := rfl
  unfold write
  rw [accepts]
  cases accepted : isInt (storedValue s (.calibration channel)) with
  | true =>
    obtain ⟨s', called, tables, loaded', values⟩ :=
      setChannelCalibration_stores loaded below accepted value
    rw [called, if_pos rfl]
    refine ⟨loaded', ?_, ?_⟩
    · have other (c : Nat) : Key.binding c ≠ Key.calibration channel := fun same => by cases same
      simp only [Representation.bindingCells, representation, values, tables, linuxApi,
        Function.update_of_ne (other _)]
      rfl
    · simp only [Representation.calibrationCells, representation, values, tables, linuxApi,
        calibrationCodec, calibration_update loaded.1 below, update_kind _ calibration_injective,
        decodeCalibration_value]
  | false =>
    have update := setInt?_eq (storedValue s (.calibration channel)) value.toNat
    rw [accepted, if_neg Bool.false_ne_true] at update
    have called := setMember_refuses loaded below (Or.inr rfl) (·.setInt? value.toNat) update
      (·.setCalibration channel value)
    have result : (setChannelCalibration J .done channel value s).1 = s := congrArg Prod.fst called
    rw [result, if_neg Bool.false_ne_true]
    exact ⟨loaded, rfl, rfl⟩

/-- Clearing a binding drops the cell's cached entry. -/
theorem clearBinding_refines :
    Loaded J count (clearBinding channel s).1 ∧
      (representation J).bindingCells (clearBinding channel s).1 =
        drop (bindingCodec J) ((representation J).bindingCells s) channel ∧
      (representation J).calibrationCells (clearBinding channel s).1 =
        (representation J).calibrationCells s := by
  obtain ⟨sized, exists_saved⟩ := loaded
  obtain ⟨r, saved⟩ := exists_saved (by omega)
  have after : Saved J count (clearBinding channel s).1 r :=
    ⟨saved.root, saved.object, saved.file, saved.keys, saved.readable⟩
  refine ⟨⟨(Tables.setCallback_sized _ _ _ _).mpr sized, fun _ => ⟨r, after⟩⟩, ?_, rfl⟩
  have cached := callback_update sized below none
  unfold drop Representation.bindingCells
  exact congrArg (Cells.mk _) cached

end refinement

/-- Every reported name is one the reader lists. -/
theorem callbackToNameString_listed (callback : Callback) :
    callbackToNameString callback ∈ dataSourceNames := by
  cases callback with
  | none => decide
  | some source => cases source <;> decide

/-- The Linux reader refines write-through cells. -/
def linuxStored (J : JsonC) (count : Nat) : StoredReader Linux Json Json where
  toRepresentation := representation J
  count := count
  fits := fun _ => True
  Loaded := Loaded J count
  absent_none := rfl
  refused_none := fun value refused => decodeBinding_nonstring J fun units same => by
    rw [same] at refused
    cases refused
  listed := callbackToNameString_listed
  listed_fits := fun _ _ => trivial
  refines := by
    intro s call loaded admissible
    cases call with
    | setChannelSourceBinding channel name =>
      exact setChannelSourceBinding_refines loaded admissible.1 name
    | clearBinding channel => exact clearBinding_refines loaded admissible
    | setChannelCalibration channel value =>
      exact setChannelCalibration_refines loaded admissible value

/-- A later start on the file of a loaded reader succeeds with the stored cells as they are,
and decodes them. -/
theorem restart_loads {J : JsonC} {count : Nat} {s : Linux} (loaded : Loaded J count s)
    (saves : Nat → SaveOutcome × SaveOutcome) :
    ∃ s', start J saves count s.file = .bound s' (.returned .success) ∧ Loaded J count s' ∧
      storedValue s' = storedValue s ∧ ∀ c < count,
        s'.tables.callback c = decodeBinding J (storedValue s (.binding c)) ∧
        s'.tables.calibration c = decodeCalibration J (storedValue s (.calibration c)) := by
  cases count with
  | zero =>
    exact ⟨_, rfl, ⟨Tables.zeroed_sized 0, fun negative => absurd negative (Nat.lt_irrefl 0)⟩, rfl,
      fun _ negative => absurd negative (Nat.not_lt_zero _)⟩
  | succ last =>
    obtain ⟨r, saved⟩ := loaded.2 (Nat.succ_pos last)
    have needed : ∀ c < last + 1, Needed r (.binding c) (saves c).1 ∧
        Needed r (.calibration c) (saves c).2 := fun c below =>
      ⟨fun missing => absurd missing (saved.keys c below).1,
        fun missing => absurd missing (saved.keys c below).2⟩
    obtain ⟨s', started, again⟩ :=
      start_loads saved.object (Or.inl saved.file) needed saved.readable
    have values : ∀ key, storedValue s' key = storedValue s key := by
      intro key
      rw [storedValue_of_start again saved.readable (Nat.succ_pos last), storedValue_eq saved]
    obtain ⟨loaded', decoded⟩ := loaded_of_start again saved.readable
    refine ⟨s', started, loaded', funext values, fun c below => ?_⟩
    rw [← values, ← values]
    exact decoded c below

end PerformancePanel.Settings.LinuxStored
