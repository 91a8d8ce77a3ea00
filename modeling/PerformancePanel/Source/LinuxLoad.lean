import PerformancePanel.Source.LinuxReader

/-!
# Loading config.json

What `initialize_data_source_binding` makes of a document. Each channel owns two keys; a
missing key stands for its default, so inserting defaults changes no value
(`Ensured.values`), whatever happens to the save. When the saves that are needed succeed,
every channel holds the decoded values of the document the process started from
(`start_loads`).
-/
set_option autoImplicit false

namespace PerformancePanel.Source.LinuxLoad
open Common DataSources Collector JsonLibrary LinuxReader

/-- The members of config.json that the reader owns. -/
inductive Key where
  | binding (channel : Nat)
  | calibration (channel : Nat)
  deriving DecidableEq, Repr

def Key.name : Key → String
  | .binding channel => channelKey channel
  | .calibration channel => calibrationKey channel

/-- The value inserted for a missing key. -/
def Key.initial : Key → Json
  | .binding _ => .string Names.unallocated.units
  | .calibration _ => .int 0x80

/-- The value of a key, defaults included. -/
def valueAt (document : Json) (key : Key) : Json := (document.get? key.name).getD key.initial

def decodeBinding (J : JsonC) (value : Json) : Callback :=
  (J.getString value).bind nameStringToCallback

def decodeCalibration (J : JsonC) (value : Json) : UInt8 := UInt8.ofInt (J.getInt value)

def IsObject (document : Json) : Prop := ∃ members, document = .object members

/-- A fresh process works on this document when it finds this file. -/
def Holds (file : ConfigFile) (document : Json) : Prop :=
  file = .text (some document) ∨ (file = .absent ∧ document = .object [])

/-! ## Documents -/

theorem key_name_injective {first second : Key} (h : first.name = second.name) :
    first = second := by
  cases first with
  | binding c =>
    cases second with
    | binding c' => exact congrArg Key.binding (Names.numbered_injective "channel" h)
    | calibration c' =>
      exact absurd h (Names.numbered_ne (by decide) (by decide))
  | calibration c =>
    cases second with
    | binding c' =>
      exact absurd h (Names.numbered_ne (by decide) (by decide))
    | calibration c' => exact congrArg Key.calibration (Names.numbered_injective "calibration" h)

theorem isObject_put? {document : Json} (object : IsObject document) (key : String) (value : Json) :
    ∃ updated, document.put? key value = some updated ∧ IsObject updated := by
  obtain ⟨members, rfl⟩ := object
  exact ⟨_, rfl, _, rfl⟩

theorem isObject_of_put? {document updated : Json} {key : String} {value : Json}
    (h : document.put? key value = some updated) : IsObject updated := by
  cases document with
  | object members =>
    simp only [Json.put?, Option.some.injEq] at h
    exact ⟨_, h.symm⟩
  | _ => simp [Json.put?] at h

theorem valueAt_put_self {document updated : Json} {key : Key} {value : Json}
    (h : document.put? key.name value = some updated) : valueAt updated key = value := by
  rw [valueAt, get?_put?_self h, Option.getD_some]

theorem valueAt_put_ne {document updated : Json} {key other : Key} {value : Json}
    (h : document.put? key.name value = some updated) (different : other ≠ key) :
    valueAt updated other = valueAt document other := by
  have names : other.name ≠ key.name := fun same => different (key_name_injective same)
  rw [valueAt, valueAt, get?_put?_ne h names]

/-- Inserting the default of a missing key changes no value. -/
theorem valueAt_put_initial {document updated : Json} {key : Key}
    (missing : document.get? key.name = none)
    (h : document.put? key.name key.initial = some updated) (other : Key) :
    valueAt updated other = valueAt document other := by
  by_cases same : other = key
  · subst same
    rw [valueAt_put_self h, valueAt, missing, Option.getD_none]
  · exact valueAt_put_ne h same

theorem present_put {document updated : Json} {key other : Key} {value : Json}
    (h : document.put? key.name value = some updated)
    (present : document.get? other.name ≠ none ∨ other = key) : updated.get? other.name ≠ none := by
  by_cases same : other = key
  · subst same
    rw [get?_put?_self h]
    exact Option.some_ne_none value
  · have names : other.name ≠ key.name := fun equal => same (key_name_injective equal)
    rw [get?_put?_ne h names]
    exact present.resolve_right same

@[simp] theorem decodeBinding_name (J : JsonC) (name : Name) :
    decodeBinding J (.string name.units) = nameStringToCallback name := by
  simp [decodeBinding]

@[simp] theorem decodeCalibration_value (J : JsonC) (value : UInt8) :
    decodeCalibration J (.int value.toNat) = value :=
  getInt_calibration J value

theorem decodeBinding_initial (J : JsonC) (channel : Nat) :
    decodeBinding J (Key.binding channel).initial = none :=
  decodeBinding_name J Names.unallocated

theorem decodeCalibration_initial (J : JsonC) (channel : Nat) :
    decodeCalibration J (Key.calibration channel).initial = 0x80 :=
  getInt_calibration J 0x80

/-- A value that is no string stands for no source. -/
theorem decodeBinding_nonstring (J : JsonC) {value : Json} (h : ∀ units, value ≠ .string units) :
    decodeBinding J value = none := by
  have notCalibration := getString_ne_calibration J h
  unfold decodeBinding
  cases read : J.getString value with
  | none => rfl
  | some name =>
    have different : name ≠ Names.calibration := by
      intro same
      exact notCalibration (by rw [read, same])
    simp [nameStringToCallback, different]

theorem loadRoot_of_holds {s : Linux} {document : Json} (object : IsObject document)
    (uncached : s.rootObject = none) (holds : Holds s.file document) :
    loadRoot s = some document := by
  obtain ⟨members, rfl⟩ := object
  unfold loadRoot
  rcases holds with text | ⟨absent, empty⟩
  · rw [uncached, text]
    rfl
  · rw [uncached, absent, ← empty]

/-! ## One key -/

/-- What one half of `get_bound_data_source` does with its key on the cached document
`r`, leaving `r'`: values stay, the key is present, and the file is either untouched or
went through one save of `r'`. -/
structure Ensured (J : JsonC) (save : SaveOutcome) (key : Key) (r : Json) (s s' : Linux)
    (r' : Json) : Prop where
  root : s'.rootObject = some r'
  object : IsObject r'
  values : ∀ k, valueAt r' k = valueAt r k
  present : ∀ k : Key, r.get? k.name ≠ none → r'.get? k.name ≠ none
  file : (r' = r ∧ r.get? key.name ≠ none ∧ s'.file = s.file) ∨
    (r.get? key.name = none ∧ r'.get? key.name ≠ none ∧
      s'.file = fileAfter J r' s.file save.written)

theorem Ensured.added {J : JsonC} {save : SaveOutcome} {key : Key} {r r' : Json} {s s' : Linux}
    (h : Ensured J save key r s s' r') : r'.get? key.name ≠ none := by
  rcases h.file with ⟨same, present, _⟩ | ⟨_, present, _⟩
  · rw [same]
    exact present
  · exact present

theorem saveThen_state (J : JsonC) (save : SaveOutcome) (root : Json) (commit : Tables → Tables)
    (failure : Status) (s : Linux) :
    (saveThen J save root commit failure s).1.rootObject = some root ∧
      (saveThen J save root commit failure s).1.file = fileAfter J root s.file save.written := by
  cases save <;> exact ⟨rfl, rfl⟩

theorem saveThen_done (J : JsonC) (root : Json) (commit : Tables → Tables) (failure : Status)
    (s : Linux) :
    saveThen J .done root commit failure s =
      (⟨some root, .text (some root), commit s.tables⟩, .returned .success) := rfl

/-- The keys of the cached document. -/
theorem member?_of_root {s : Linux} {r : Json} (root : s.rootObject = some r) (key : String) :
    s.member? key = r.get? key := by
  rw [Linux.member?, root, Option.bind_some]

/-! What a setter does to a cached document when its save succeeds. -/

section setters
variable {J : JsonC} {s : Linux} {d : Json} (root : s.rootObject = some d) {key : String}
  {update : Json → Option Json} {change : Tables → Tables}
include root

/-- One whose key is missing or of another type changes nothing. -/
theorem setMember_refused (refused : (d.get? key).bind update = none) :
    (setMember J .done key update change s).1 = s := by
  unfold setMember
  rw [member?_of_root root, refused]
  rfl

/-- Otherwise the member is replaced in the document, which is saved. -/
theorem setMember_replaced {new r : Json} (accepted : (d.get? key).bind update = some new)
    (put : d.put? key new = some r) :
    (setMember J .done key update change s).1 = ⟨some r, .text (some r), change s.tables⟩ := by
  unfold setMember
  rw [member?_of_root root, accepted, Option.bind_some, Linux.withMember?, root,
    Option.bind_some, put]
  rfl

end setters

/-- What the two halves of a call leave of the keys that are not its own. -/
theorem halves_others {r r₁ r₂ : Json} {channel : Nat}
    (first : ∀ other, other ≠ channelKey channel → r₁.get? other = r.get? other)
    (second : ∀ other, other ≠ calibrationKey channel → r₂.get? other = r₁.get? other) {key : Key}
    (notBinding : key ≠ .binding channel) (notCalibration : key ≠ .calibration channel) :
    r₂.get? key.name = r.get? key.name := by
  have bindingName : key.name ≠ channelKey channel := fun same =>
    notBinding (@key_name_injective _ (.binding channel) same)
  have calibrationName : key.name ≠ calibrationKey channel := fun same =>
    notCalibration (@key_name_injective _ (.calibration channel) same)
  rw [second _ calibrationName, first _ bindingName]

section keys
variable {J : JsonC} {s : Linux} {r : Json} (root : s.rootObject = some r) (object : IsObject r)
include root object

/-- A missing key is added to the cached document and that document saved. -/
theorem addDefault_saves {key : Key} (missing : r.get? key.name = none) (save : SaveOutcome)
    (commit : Tables → Tables) :
    ∃ r', addDefault J save key.name key.initial commit s =
        saveThen J save r' commit .invalidConfiguration s ∧
      Ensured J save key r s (addDefault J save key.name key.initial commit s).1 r' := by
  obtain ⟨r', added, object'⟩ := isObject_put? object key.name key.initial
  have called : addDefault J save key.name key.initial commit s =
      saveThen J save r' commit .invalidConfiguration s := by
    simp [addDefault, Linux.withMember?, root, added]
  have state := saveThen_state J save r' commit .invalidConfiguration s
  refine ⟨r', called, ?_⟩
  rw [called]
  exact
    { root := state.1
      object := object'
      values := valueAt_put_initial missing added
      present := fun k present => present_put added (Or.inl present)
      file := Or.inr ⟨missing, present_put added (Or.inr rfl), state.2⟩ }

theorem ensured_present {key : Key} (present : r.get? key.name ≠ none) (save : SaveOutcome)
    (tables : Tables) : Ensured J save key r s { s with tables := tables } r where
  root := root
  object := object
  values := fun _ => rfl
  present := fun _ h => h
  file := Or.inl ⟨rfl, present, rfl⟩

theorem bindName_ensured (save : SaveOutcome) (channel : Nat) :
    ∃ r', Ensured J save (.binding channel) r s (bindName J save channel s).1 r' := by
  have member : s.member? (channelKey channel) = r.get? (Key.binding channel).name :=
    member?_of_root root _
  unfold bindName
  rw [member]
  cases found : r.get? (Key.binding channel).name with
  | none =>
    obtain ⟨r', -, ensured⟩ := addDefault_saves (J := J) root object found save id
    exact ⟨r', ensured⟩
  | some value =>
    have present : r.get? (Key.binding channel).name ≠ none := by simp [found]
    dsimp only
    cases J.getString value with
    | none => exact ⟨r, ensured_present root object present save s.tables⟩
    | some name => exact ⟨r, ensured_present root object present save _⟩

theorem bindCalibration_ensured (save : SaveOutcome) (channel : Nat) :
    ∃ r', Ensured J save (.calibration channel) r s (bindCalibration J save channel s).1 r' := by
  have member : s.member? (calibrationKey channel) = r.get? (Key.calibration channel).name :=
    member?_of_root root _
  unfold bindCalibration
  rw [member]
  cases found : r.get? (Key.calibration channel).name with
  | none =>
    obtain ⟨r', -, ensured⟩ :=
      addDefault_saves (J := J) root object found save (·.setCalibration channel 0x80)
    exact ⟨r', ensured⟩
  | some value =>
    have present : r.get? (Key.calibration channel).name ≠ none := by simp [found]
    exact ⟨r, ensured_present root object present save _⟩

/-- Adding a default leaves the other members of the cached document alone. -/
theorem addDefault_others (save : SaveOutcome) (key : String) (value : Json)
    (commit : Tables → Tables) :
    ∃ r', (addDefault J save key value commit s).1.rootObject = some r' ∧
      ∀ other, other ≠ key → r'.get? other = r.get? other := by
  obtain ⟨r', added, _⟩ := isObject_put? object key value
  refine ⟨r', ?_, fun other different => get?_put?_ne added different⟩
  simp [addDefault, Linux.withMember?, root, added, saveThen_state]

theorem bindName_others (save : SaveOutcome) (channel : Nat) :
    ∃ r', (bindName J save channel s).1.rootObject = some r' ∧
      ∀ other, other ≠ channelKey channel → r'.get? other = r.get? other := by
  unfold bindName
  cases s.member? (channelKey channel) with
  | none => exact addDefault_others root object save _ _ id
  | some value =>
    dsimp only
    cases J.getString value with
    | none => exact ⟨r, root, fun _ _ => rfl⟩
    | some name => exact ⟨r, root, fun _ _ => rfl⟩

theorem bindCalibration_others (save : SaveOutcome) (channel : Nat) :
    ∃ r', (bindCalibration J save channel s).1.rootObject = some r' ∧
      ∀ other, other ≠ calibrationKey channel → r'.get? other = r.get? other := by
  unfold bindCalibration
  cases s.member? (calibrationKey channel) with
  | none => exact addDefault_others root object save _ _ (·.setCalibration channel 0x80)
  | some value => exact ⟨r, root, fun _ _ => rfl⟩

/-- With a text to read, and a successful save where one is needed, the binding half
succeeds; a channel not yet bound ends up with the decoded value. -/
theorem bindName_binds {save : SaveOutcome} {channel : Nat}
    (needed : r.get? (Key.binding channel).name = none → save = .done)
    (readable : J.getString (valueAt r (.binding channel)) ≠ none) :
    (bindName J save channel s).2 = .returned .success ∧
      ((bindName J save channel s).1.tables =
          s.tables.setCallback channel (decodeBinding J (valueAt r (.binding channel))) ∨
        (bindName J save channel s).1.tables = s.tables ∧
          decodeBinding J (valueAt r (.binding channel)) = none) := by
  have member : s.member? (channelKey channel) = r.get? (Key.binding channel).name :=
    member?_of_root root _
  unfold bindName
  rw [member]
  cases found : r.get? (Key.binding channel).name with
  | none =>
    have value : valueAt r (.binding channel) = (Key.binding channel).initial := by
      rw [valueAt, found, Option.getD_none]
    obtain ⟨r', called, -⟩ := addDefault_saves (J := J) root object found save id
    have saved : addDefault J save (channelKey channel) (.string Names.unallocated.units) id s =
        (⟨some r', .text (some r'), s.tables⟩, .returned .success) := by
      rw [needed found] at called ⊢
      exact called
    simp only [saved]
    exact ⟨trivial, Or.inr ⟨trivial, by rw [value, decodeBinding_initial]⟩⟩
  | some object =>
    have value : valueAt r (.binding channel) = object := by
      rw [valueAt, found, Option.getD_some]
    rw [value] at readable ⊢
    cases read : J.getString object with
    | none => exact absurd read readable
    | some name =>
      simp only [read, decodeBinding, Option.bind_some]
      exact ⟨trivial, Or.inl trivial⟩

theorem bindCalibration_binds {save : SaveOutcome} {channel : Nat}
    (needed : r.get? (Key.calibration channel).name = none → save = .done) :
    (bindCalibration J save channel s).2 = .returned .success ∧
      (bindCalibration J save channel s).1.tables = s.tables.setCalibration channel
        (decodeCalibration J (valueAt r (.calibration channel))) := by
  have member : s.member? (calibrationKey channel) = r.get? (Key.calibration channel).name :=
    member?_of_root root _
  unfold bindCalibration
  rw [member]
  cases found : r.get? (Key.calibration channel).name with
  | none =>
    have value : valueAt r (.calibration channel) = (Key.calibration channel).initial := by
      rw [valueAt, found, Option.getD_none]
    obtain ⟨r', called, -⟩ :=
      addDefault_saves (J := J) root object found save (·.setCalibration channel 0x80)
    have saved : addDefault J save (calibrationKey channel) (.int 0x80)
        (·.setCalibration channel 0x80) s =
          (⟨some r', .text (some r'), s.tables.setCalibration channel 0x80⟩,
            .returned .success) := by
      rw [needed found] at called ⊢
      exact called
    simp only [saved, value, decodeCalibration_initial, and_self]
  | some object =>
    rw [valueAt, found, Option.getD_some]
    exact ⟨rfl, rfl⟩

end keys

/-! ## All channels -/

/-- The cached document `r` of a process that started on `d`: the same values, and the
keys `d` had. -/
structure Extends (d r : Json) : Prop where
  object : IsObject r
  values : ∀ k, valueAt r k = valueAt d k
  present : ∀ k : Key, d.get? k.name ≠ none → r.get? k.name ≠ none

theorem Extends.refl {d : Json} (object : IsObject d) : Extends d d :=
  ⟨object, fun _ => rfl, fun _ h => h⟩

theorem Extends.trans {d r r' : Json} (first : Extends d r) (second : Extends r r') :
    Extends d r' :=
  ⟨second.object, fun key => (second.values key).trans (first.values key),
    fun key present => second.present key (first.present key present)⟩

theorem Ensured.extends {J : JsonC} {save : SaveOutcome} {key : Key} {d r r' : Json} {s s' : Linux}
    (h : Ensured J save key r s s' r') (before : Extends d r) : Extends d r' where
  object := h.object
  values := fun k => (h.values k).trans (before.values k)
  present := fun k present => h.present k (before.present k present)

/-- The loop of `initialize_data_source_binding` at channel `i`, all needed saves having
succeeded. -/
structure LoadedUpTo (J : JsonC) (d : Json) (count i : Nat) (s : Linux) : Prop where
  document : ∃ r, loadRoot s = some r ∧ Extends d r ∧ Holds s.file r ∧
    (0 < i → s.rootObject = some r) ∧
    ∀ c < i, r.get? (Key.binding c).name ≠ none ∧ r.get? (Key.calibration c).name ≠ none
  sized : s.tables.Sized count
  bound : ∀ c < i, s.tables.callback c = decodeBinding J (valueAt d (.binding c)) ∧
    s.tables.calibration c = decodeCalibration J (valueAt d (.calibration c))
  unbound : ∀ c, i ≤ c → s.tables.callback c = none

/-- A save is made only for a key the document misses. -/
def Needed (d : Json) (key : Key) (save : SaveOutcome) : Prop :=
  d.get? key.name = none → save = .done

theorem Needed.extended {d r : Json} {key : Key} {save : SaveOutcome} (needed : Needed d key save)
    (h : Extends d r) : Needed r key save := by
  intro missing
  apply needed
  by_contra present
  exact h.present key present missing

/-- Where a needed save succeeds, the file holds the cached document afterwards. -/
theorem Ensured.holds {J : JsonC} {save : SaveOutcome} {key : Key} {r r' : Json} {s s' : Linux}
    (h : Ensured J save key r s s' r') (needed : Needed r key save) (before : Holds s.file r) :
    Holds s'.file r' := by
  rcases h.file with ⟨same, _, untouched⟩ | ⟨missing, _, saved⟩
  · rw [same, untouched]
    exact before
  · rw [needed missing] at saved
    exact Or.inl saved

section loop
variable {J : JsonC} {d : Json} {count : Nat} {saves : Nat → SaveOutcome × SaveOutcome}

theorem getBoundDataSource_eq {s : Linux} {r : Json} (loaded : loadRoot s = some r)
    (saves : SaveOutcome × SaveOutcome) (channel : Nat)
    (first : (bindName J saves.1 channel { s with rootObject := some r }).2 = .returned .success) :
    getBoundDataSource J saves channel s = bindCalibration J saves.2 channel
      (bindName J saves.1 channel { s with rootObject := some r }).1 := by
  unfold getBoundDataSource
  rw [loaded]
  dsimp only
  generalize bindName J saves.1 channel { s with rootObject := some r } = result at first ⊢
  obtain ⟨s', outcome⟩ := result
  dsimp only at first
  subst first
  rfl

/-- The binding half writes its channel, or leaves the NULL that is the decoded value. -/
theorem tables_after_name {t t' : Tables} {i : Nat} {bound : Callback} (sized : t.Sized count)
    (below : i < count) (unbound : t.callback i = none)
    (h : t' = t.setCallback i bound ∨ (t' = t ∧ bound = none)) :
    t'.Sized count ∧ (∀ c, t'.callback c = if c = i then bound else t.callback c) ∧
      ∀ c, t'.calibration c = t.calibration c := by
  rcases h with rfl | ⟨rfl, rfl⟩
  · refine ⟨(Tables.setCallback_sized t i count bound).mpr sized, fun c => ?_, fun _ => rfl⟩
    by_cases same : c = i
    · subst same
      rw [if_pos rfl, Tables.callback_setCallback_self sized below]
    · rw [if_neg same, Tables.callback_setCallback_ne _ same]
  · refine ⟨sized, fun c => ?_, fun _ => rfl⟩
    by_cases same : c = i
    · rw [if_pos same, same, unbound]
    · rw [if_neg same]

/-- One channel of the loop. -/
theorem getBoundDataSource_loads {i : Nat} {s : Linux} (below : i < count)
    (neededBinding : Needed d (.binding i) (saves i).1)
    (neededCalibration : Needed d (.calibration i) (saves i).2)
    (readable : J.getString (valueAt d (.binding i)) ≠ none) (before : LoadedUpTo J d count i s) :
    ∃ s', getBoundDataSource J (saves i) i s = (s', .returned .success) ∧
      LoadedUpTo J d count (i + 1) s' := by
  obtain ⟨r, loaded, extended, holds, _, keys⟩ := before.document
  have root : ({ s with rootObject := some r } : Linux).rootObject = some r := rfl
  rw [← extended.values] at readable
  have nameNeeded := neededBinding.extended extended
  obtain ⟨named, callbacks⟩ := bindName_binds root extended.object nameNeeded readable
  obtain ⟨r₁, ensured₁⟩ := bindName_ensured (J := J) root extended.object (saves i).1 i
  rw [getBoundDataSource_eq loaded (saves i) i named]
  generalize (bindName J (saves i).1 i { s with rootObject := some r }).1 = s₁
    at callbacks ensured₁ ⊢
  have extended₁ := ensured₁.extends extended
  have holds₁ := ensured₁.holds nameNeeded holds
  have calibrationNeeded := neededCalibration.extended extended₁
  obtain ⟨calibrated, calibrations⟩ :=
    bindCalibration_binds ensured₁.root extended₁.object calibrationNeeded
  obtain ⟨r₂, ensured₂⟩ :=
    bindCalibration_ensured (J := J) ensured₁.root extended₁.object (saves i).2 i
  refine ⟨(bindCalibration J (saves i).2 i s₁).1, Prod.ext rfl calibrated, ?_⟩
  generalize (bindCalibration J (saves i).2 i s₁).1 = s₂ at calibrations ensured₂ ⊢
  obtain ⟨sized₁, callback₁, calibration₁⟩ :=
    tables_after_name before.sized below (before.unbound i (le_refl i)) callbacks
  rw [extended.values] at callback₁
  refine
    { document := ⟨r₂, ?_, ensured₂.extends extended₁, ensured₂.holds calibrationNeeded holds₁,
        fun _ => ensured₂.root, ?_⟩
      sized := by
        rw [calibrations, Tables.setCalibration_sized]
        exact sized₁
      bound := ?_
      unbound := ?_ }
  · unfold loadRoot
    rw [ensured₂.root]
  · intro c reached
    by_cases same : c = i
    · subst same
      exact ⟨ensured₂.present _ ensured₁.added, ensured₂.added⟩
    · have earlier := keys c (by omega)
      exact ⟨ensured₂.present _ (ensured₁.present _ earlier.1),
        ensured₂.present _ (ensured₁.present _ earlier.2)⟩
  · intro c reached
    rw [calibrations, Tables.callback_setCalibration, callback₁]
    by_cases same : c = i
    · subst same
      rw [if_pos rfl, Tables.calibration_setCalibration_self sized₁ below, extended₁.values]
      exact ⟨rfl, rfl⟩
    · have earlier := before.bound c (by omega)
      rw [if_neg same, Tables.calibration_setCalibration_ne _ same, calibration₁]
      exact earlier
  · intro c later
    rw [calibrations, Tables.callback_setCalibration, callback₁, if_neg (by omega)]
    exact before.unbound c (by omega)

/-- With both arrays allocated a start is its loop. -/
theorem start_bound {file : ConfigFile} {s : Linux} {outcome : Outcome} :
    start J saves count file = .bound s outcome ↔
      bindLoop (fun channel s => getBoundDataSource J (saves channel) channel s) count 0
        (fresh file (Tables.zeroed count)) = (s, outcome) := by
  simp only [start, initializeDataSourceBinding, Bool.and_self, if_true, Initialized.bound.injEq,
    Prod.ext_iff]

theorem loadedUpTo_fresh {file : ConfigFile} (object : IsObject d) (holds : Holds file d) :
    LoadedUpTo J d count 0 (fresh file (Tables.zeroed count)) where
  document := ⟨d, loadRoot_of_holds object rfl holds, Extends.refl object, holds,
    fun positive => absurd positive (lt_irrefl 0),
    fun _ negative => absurd negative (Nat.not_lt_zero _)⟩
  sized := Tables.zeroed_sized count
  bound := fun _ negative => absurd negative (Nat.not_lt_zero _)
  unbound := fun c _ => Tables.callback_zeroed count c

/-- A start on a document whose binding values all have a text succeeds, once the saves
of the keys it misses succeed, and decodes every channel. -/
theorem start_loads {file : ConfigFile} (object : IsObject d) (holds : Holds file d)
    (needed : ∀ c < count,
      Needed d (.binding c) (saves c).1 ∧ Needed d (.calibration c) (saves c).2)
    (readable : ∀ c < count, J.getString (valueAt d (.binding c)) ≠ none) :
    ∃ s, start J saves count file = .bound s (.returned .success) ∧
      LoadedUpTo J d count count s := by
  have succeeds : ∀ i s, i < count → LoadedUpTo J d count i s →
      ∃ s', getBoundDataSource J (saves i) i s = (s', .returned .success) ∧
        LoadedUpTo J d count (i + 1) s' := fun i s below before =>
    getBoundDataSource_loads below (needed i below).1 (needed i below).2 (readable i below) before
  obtain ⟨s, looped, loaded⟩ :=
    bindLoop_total succeeds (Nat.zero_add count) (loadedUpTo_fresh object holds)
  exact ⟨s, start_bound.mpr looped, loaded⟩

/-- A binding without a text is passed to `strcmp` as NULL. -/
theorem getBoundDataSource_null {i : Nat} {s : Linux} (before : LoadedUpTo J d count i s)
    (unreadable : J.getString (valueAt d (.binding i)) = none) :
    (getBoundDataSource J (saves i) i s).2 = .fault .nullString := by
  obtain ⟨r, loaded, extended, _⟩ := before.document
  have found : r.get? (Key.binding i).name ≠ none := by
    intro missing
    rw [← extended.values, valueAt, missing, Option.getD_none] at unreadable
    rw [Key.initial, getString_string] at unreadable
    cases unreadable
  obtain ⟨value, found⟩ := Option.ne_none_iff_exists'.mp found
  rw [← extended.values, valueAt, found, Option.getD_some] at unreadable
  have faults : bindName J (saves i).1 i { s with rootObject := some r } =
      ({ s with rootObject := some r }, .fault .nullString) := by
    have member : ({ s with rootObject := some r } : Linux).member? (channelKey i) = some value :=
      found
    simp [bindName, member, unreadable]
  simp [getBoundDataSource, loaded, faults]

/-- A binding without a text stops the start: success shows that every value had one. -/
theorem getBoundDataSource_readable {i : Nat} {s s' : Linux} (before : LoadedUpTo J d count i s)
    (success : getBoundDataSource J (saves i) i s = (s', .returned .success)) :
    J.getString (valueAt d (.binding i)) ≠ none := by
  intro unreadable
  have faults : (getBoundDataSource J (saves i) i s).2 = .fault .nullString :=
    getBoundDataSource_null before unreadable
  rw [success] at faults
  cases faults

/-- The converse of `start_loads` for the state a successful start leaves. -/
theorem start_success {file : ConfigFile} {s : Linux} (object : IsObject d) (holds : Holds file d)
    (needed : ∀ c < count,
      Needed d (.binding c) (saves c).1 ∧ Needed d (.calibration c) (saves c).2)
    (started : start J saves count file = .bound s (.returned .success)) :
    LoadedUpTo J d count count s ∧ ∀ c < count, J.getString (valueAt d (.binding c)) ≠ none := by
  have looped := start_bound.mp started
  refine bindLoop_success (P := fun i s => LoadedUpTo J d count i s ∧
    ∀ c < i, J.getString (valueAt d (.binding c)) ≠ none) ?_ (Nat.zero_add count)
    ⟨loadedUpTo_fresh object holds, fun _ negative => absurd negative (Nat.not_lt_zero _)⟩ looped
  intro i s s' below before success
  have readable := getBoundDataSource_readable before.1 success
  obtain ⟨s'', called, loaded⟩ :=
    getBoundDataSource_loads below (needed i below).1 (needed i below).2 readable before.1
  have same : s'' = s' := by
    rw [success] at called
    exact (congrArg Prod.fst called).symm
  subst same
  refine ⟨loaded, fun c reached => ?_⟩
  by_cases same : c = i
  · subst same
    exact readable
  · exact before.2 c (by omega)

/-- A start that has a channel to bind succeeds on no other file than a missing one or
one that holds an object. -/
theorem holds_of_start {file : ConfigFile} {s : Linux} (positive : 0 < count)
    (started : start J saves count file = .bound s (.returned .success)) :
    ∃ d, IsObject d ∧ Holds file d := by
  obtain ⟨last, rfl⟩ : ∃ last, count = last + 1 := ⟨count - 1, by omega⟩
  have looped := start_bound.mp started
  cases file with
  | absent => exact ⟨.object [], ⟨[], rfl⟩, Or.inr ⟨rfl, rfl⟩⟩
  | text document =>
    cases document with
    | none =>
      simp only [bindLoop, getBoundDataSource, loadRoot, fresh, jsonObjectFromFile] at looped
      cases congrArg Prod.snd looped
    | some document =>
      cases document with
      | object members => exact ⟨.object members, ⟨members, rfl⟩, Or.inl rfl⟩
      | _ =>
        simp only [bindLoop, getBoundDataSource, loadRoot, fresh, jsonObjectFromFile, bindName,
          Linux.member?, Json.get?, addDefault, Linux.withMember?, Json.put?,
            Option.bind_some] at looped
        cases congrArg Prod.snd looped

end loop

/-! ## The length of the arrays -/

section sizes
variable {J : JsonC} {count : Nat} {s : Linux} (sized : s.tables.Sized count)
include sized

theorem addDefault_sized (save : SaveOutcome) (key : String) (value : Json)
    {commit : Tables → Tables} (sizes : ∀ t : Tables, (commit t).Sized count ↔ t.Sized count) :
    (addDefault J save key value commit s).1.tables.Sized count := by
  unfold addDefault
  cases s.withMember? key value with
  | none => exact sized
  | some root =>
    cases save with
    | done => exact (sizes s.tables).mpr sized
    | failed written => exact sized
    | stopped written => exact sized

theorem bindName_sized (save : SaveOutcome) (channel : Nat) :
    (bindName J save channel s).1.tables.Sized count := by
  unfold bindName
  cases s.member? (channelKey channel) with
  | none => exact addDefault_sized sized save _ _ fun _ => Iff.rfl
  | some value =>
    dsimp only
    cases J.getString value with
    | none => exact sized
    | some name => exact (Tables.setCallback_sized _ _ _ _).mpr sized

theorem bindCalibration_sized (save : SaveOutcome) (channel : Nat) :
    (bindCalibration J save channel s).1.tables.Sized count := by
  unfold bindCalibration
  cases s.member? (calibrationKey channel) with
  | none =>
    exact addDefault_sized sized save _ _ fun t => Tables.setCalibration_sized t channel count _
  | some value => exact (Tables.setCalibration_sized _ _ _ _).mpr sized

theorem getBoundDataSource_sized (saves : SaveOutcome × SaveOutcome) (channel : Nat) :
    (getBoundDataSource J saves channel s).1.tables.Sized count := by
  unfold getBoundDataSource
  cases loadRoot s with
  | none => exact sized
  | some root =>
    have named := @bindName_sized J count { s with rootObject := some root } sized saves.1 channel
    dsimp only
    split
    next s' called =>
      rw [called] at named
      exact bindCalibration_sized named saves.2 channel
    next s' outcome _ called =>
      rw [called] at named
      exact named

end sizes

/-- A start leaves both arrays at the channel count, however it ends. -/
theorem start_sized {J : JsonC} {saves : Nat → SaveOutcome × SaveOutcome} {count : Nat}
    {file : ConfigFile} {s : Linux} {outcome : Outcome}
    (started : start J saves count file = .bound s outcome) : s.tables.Sized count := by
  have looped := start_bound.mp started
  have kept : (bindLoop (fun channel s => getBoundDataSource J (saves channel) channel s) count 0
      (fresh file (Tables.zeroed count))).1.tables.Sized count :=
    bindLoop_keeps (I := fun s : Linux => s.tables.Sized count)
      (fun i _ _ sized => getBoundDataSource_sized sized (saves i) i) (Nat.zero_add count)
      (Tables.zeroed_sized count)
  rw [looped] at kept
  exact kept

/-! ## Saves that fail or are cut off -/

/-- The save leaves the file as it was or with the whole text. -/
def Uncut (save : SaveOutcome) : Prop := ∀ characters, save.written ≠ .part characters

/-- A process that started on `d`: its file and the document it works on have the values
of `d`, however its saves ended. -/
structure Carries (d : Json) (s : Linux) : Prop where
  file : ∃ f, IsObject f ∧ Holds s.file f ∧ ∀ k, valueAt f k = valueAt d k
  root : ∀ r, loadRoot s = some r → Extends d r

theorem loadRoot_cached {s : Linux} {r : Json} (root : s.rootObject = some r) :
    loadRoot s = some r := by
  unfold loadRoot
  rw [root]

theorem Ensured.carries {J : JsonC} {save : SaveOutcome} {key : Key} {d r r' : Json} {s s' : Linux}
    (h : Ensured J save key r s s' r') (extended : Extends d r) (before : Carries d s)
    (uncut : r.get? key.name = none → Uncut save) : Carries d s' := by
  have extended' := h.extends extended
  refine ⟨?_, fun found loaded => ?_⟩
  · rcases h.file with ⟨_, _, untouched⟩ | ⟨missing, _, saved⟩
    · rw [untouched]
      exact before.file
    · cases written : save.written with
      | untouched =>
        rw [written] at saved
        rw [saved]
        exact before.file
      | part characters => exact absurd written (uncut missing characters)
      | whole =>
        rw [written] at saved
        exact ⟨r', h.object, Or.inl saved, extended'.values⟩
  · rw [loadRoot_cached h.root, Option.some.injEq] at loaded
    rw [← loaded]
    exact extended'

/-- The saves of a start that are made are not cut off: those of a channel are made when every
save needed before them has succeeded. -/
def UncutWhereMade (d : Json) (saves : Nat → SaveOutcome × SaveOutcome) (channel : Nat) : Prop :=
  (∀ c < channel, Needed d (.binding c) (saves c).1 ∧ Needed d (.calibration c) (saves c).2) →
    (d.get? (Key.binding channel).name = none → Uncut (saves channel).1) ∧
    (Needed d (.binding channel) (saves channel).1 →
      d.get? (Key.calibration channel).name = none → Uncut (saves channel).2)

/-- The loop of a start that has arrived at channel `i`: every save needed so far has succeeded,
and the keys from there on are as in the document. -/
structure CarriesUpTo (d : Json) (saves : Nat → SaveOutcome × SaveOutcome) (i : Nat)
    (s : Linux) : Prop where
  carries : Carries d s
  needed : ∀ c < i, Needed d (.binding c) (saves c).1 ∧ Needed d (.calibration c) (saves c).2
  ahead : ∀ r, loadRoot s = some r → ∀ c, i ≤ c →
    r.get? (Key.binding c).name = d.get? (Key.binding c).name ∧
    r.get? (Key.calibration c).name = d.get? (Key.calibration c).name

section interrupted
variable {J : JsonC} {d : Json} {s : Linux} {i : Nat} {saves : Nat → SaveOutcome × SaveOutcome}

theorem saveThen_success {save : SaveOutcome} {root : Json} {commit : Tables → Tables}
    {failure : Status} (fails : failure ≠ .success)
    (success : (saveThen J save root commit failure s).2 = .returned .success) : save = .done := by
  cases save with
  | done => rfl
  | failed written => exact absurd (Outcome.returned.inj success) fails
  | stopped written => cases success

/-- A half that succeeds has made the save it needed. -/
theorem addDefault_success {r : Json} (root : s.rootObject = some r) (object : IsObject r)
    {key : Key} (missing : r.get? key.name = none) {save : SaveOutcome} {commit : Tables → Tables}
    (success : (addDefault J save key.name key.initial commit s).2 = .returned .success) :
    save = .done := by
  obtain ⟨r', called, -⟩ := addDefault_saves (J := J) root object missing save commit
  rw [called] at success
  exact saveThen_success (by decide) success

theorem bindName_needed {r : Json} (root : s.rootObject = some r) (object : IsObject r)
    {save : SaveOutcome} {channel : Nat}
    (success : (bindName J save channel s).2 = .returned .success) :
    Needed r (.binding channel) save := by
  intro missing
  have member : s.member? (channelKey channel) = none := (member?_of_root root _).trans missing
  unfold bindName at success
  rw [member] at success
  exact addDefault_success root object missing success

theorem bindCalibration_needed {r : Json} (root : s.rootObject = some r) (object : IsObject r)
    {save : SaveOutcome} {channel : Nat}
    (success : (bindCalibration J save channel s).2 = .returned .success) :
    Needed r (.calibration channel) save := by
  intro missing
  have member : s.member? (calibrationKey channel) = none :=
    (member?_of_root root _).trans missing
  unfold bindCalibration at success
  rw [member] at success
  exact addDefault_success root object missing success

/-- However a call ends the values are carried, and one that succeeds arrives at the next
channel. -/
theorem getBoundDataSource_carries (before : CarriesUpTo d saves i s)
    (uncut : UncutWhereMade d saves i) :
    Carries d (getBoundDataSource J (saves i) i s).1 ∧
      ((getBoundDataSource J (saves i) i s).2 = .returned .success →
        CarriesUpTo d saves (i + 1) (getBoundDataSource J (saves i) i s).1) := by
  obtain ⟨uncutBinding, uncutCalibration⟩ := uncut before.needed
  unfold getBoundDataSource
  cases loaded : loadRoot s with
  | none => exact ⟨before.carries, nofun⟩
  | some r =>
    have extended := before.carries.root r loaded
    have ahead := before.ahead r loaded
    have cached : Carries d { s with rootObject := some r } := by
      refine ⟨before.carries.file, fun r' loaded' => ?_⟩
      rw [loadRoot_cached rfl, Option.some.injEq] at loaded'
      rw [← loaded']
      exact extended
    have root : ({ s with rootObject := some r } : Linux).rootObject = some r := rfl
    obtain ⟨r₁, ensured₁⟩ := bindName_ensured (J := J) root extended.object (saves i).1 i
    obtain ⟨_, root₁, others₁⟩ := bindName_others (J := J) root extended.object (saves i).1 i
    have carried₁ := ensured₁.carries extended cached
      fun missing => uncutBinding ((ahead i le_rfl).1 ▸ missing)
    obtain rfl := Option.some.inj (ensured₁.root.symm.trans root₁)
    have made : (bindName J (saves i).1 i { s with rootObject := some r }).2 = .returned .success →
        Needed r (.binding i) (saves i).1 := bindName_needed root extended.object
    dsimp only
    split
    next s₁ called =>
      rw [called] at ensured₁ carried₁ made
      have extended₁ := ensured₁.extends extended
      have neededBinding : Needed d (.binding i) (saves i).1 :=
        fun missing => made rfl ((ahead i le_rfl).1.trans missing)
      have other : (Key.calibration i).name ≠ (Key.binding i).name := fun same =>
        nomatch key_name_injective same
      have ahead₁ : r₁.get? (Key.calibration i).name = d.get? (Key.calibration i).name :=
        (others₁ _ other).trans (ahead i le_rfl).2
      obtain ⟨r₂, ensured₂⟩ :=
        bindCalibration_ensured (J := J) ensured₁.root extended₁.object (saves i).2 i
      obtain ⟨_, root₂, others₂⟩ :=
        bindCalibration_others (J := J) ensured₁.root extended₁.object (saves i).2 i
      obtain rfl := Option.some.inj (ensured₂.root.symm.trans root₂)
      have carried₂ := ensured₂.carries extended₁ carried₁
        fun missing => uncutCalibration neededBinding (ahead₁ ▸ missing)
      refine ⟨carried₂, fun success =>
        ⟨carried₂, fun c reached => ?_, fun r' loaded' c later => ?_⟩⟩
      · by_cases earlier : c < i
        · exact before.needed c earlier
        · have here : c = i := by omega
          subst here
          have made₂ := bindCalibration_needed ensured₁.root extended₁.object success
          exact ⟨neededBinding, fun missing => made₂ (ahead₁.trans missing)⟩
      · rw [loadRoot_cached ensured₂.root, Option.some.injEq] at loaded'
        subst loaded'
        have behind := ahead c (by omega)
        have different : c ≠ i := by omega
        have binding : r₂.get? (Key.binding c).name = r.get? (Key.binding c).name :=
          halves_others others₁ others₂ (by simp [different]) (by simp)
        have calibration : r₂.get? (Key.calibration c).name = r.get? (Key.calibration c).name :=
          halves_others others₁ others₂ (by simp) (by simp [different])
        exact ⟨binding.trans behind.1, calibration.trans behind.2⟩
    next s₁ outcome failed called =>
      rw [called] at carried₁
      refine ⟨carried₁, fun success => ?_⟩
      subst success
      exact absurd rfl failed

end interrupted

/-- A start that makes no save that is cut off keeps the values of the file, whether or not it
succeeds. -/
theorem start_carries {J : JsonC} {count : Nat} {file : ConfigFile} {d : Json}
    (object : IsObject d) (holds : Holds file d) (saves : Nat → SaveOutcome × SaveOutcome)
    (uncut : ∀ c < count, UncutWhereMade d saves c) :
    ∃ s outcome, start J saves count file = .bound s outcome ∧ Carries d s := by
  have loads : ∀ r, loadRoot (fresh file (Tables.zeroed count)) = some r → r = d := fun r loaded =>
    Option.some.inj (loaded.symm.trans (loadRoot_of_holds object rfl holds))
  have arrived : CarriesUpTo d saves 0 (fresh file (Tables.zeroed count)) :=
    { carries := ⟨⟨d, object, holds, fun _ => rfl⟩,
        fun r loaded => (loads r loaded).symm ▸ Extends.refl object⟩
      needed := fun _ negative => absurd negative (Nat.not_lt_zero _)
      ahead := fun r loaded _ _ => loads r loaded ▸ ⟨rfl, rfl⟩ }
  exact ⟨_, _, rfl, bindLoop_leaves
    (fun i s below before => getBoundDataSource_carries before (uncut i below))
    (fun _ through => through.carries) (Nat.zero_add count) arrived⟩

end PerformancePanel.Source.LinuxLoad
