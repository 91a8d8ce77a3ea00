import PerformancePanel.Library.Runs
import PerformancePanel.Source.LinuxLoad
import PerformancePanel.Source.LinuxProcesses

/-!
# config.json is edited in place

config.json may hold more than the settings of the panel: members of other programs, and
those of channels that no panel has had. Whatever the saves do, every document that the
processes cache or write is the first one with the members of their own channels set: the
other members keep their values and their order, every key its place, and no key is there
twice. Only a save that is cut short leaves something else, a text that no start reads.
-/
set_option autoImplicit false

namespace PerformancePanel.Guarantees.ForeignMembers
open Source.Common Source.Collector Source.JsonLibrary Source.LinuxReader Source.LinuxLoad
open Source.LinuxProcesses Library
open Library.Assoc (Edited)

/-- The members that the channels below `limit` have. -/
def ownKeys (limit : Nat) : List String :=
  (List.range limit).flatMap fun channel => [channelKey channel, calibrationKey channel]

def foreign (limit : Nat) (key : String) : Bool := key ∉ ownKeys limit

/-- No save of the event leaves a part of a text. -/
def Whole : Event → Prop
  | .start count saves => ∀ c < count, Uncut (saves c).1 ∧ Uncut (saves c).2
  | .setChannelSourceBinding save _ _ => Uncut save
  | .setChannelCalibration save _ _ => Uncut save
  | .clearBinding _ => True

/-- The panels of the run have at most `limit` channels. -/
def Below (limit : Nat) : Event → Prop
  | .start count _ => count ≤ limit
  | _ => True

/-- A document with the own members of `members` edited. -/
def EditOf (limit : Nat) (members : List (String × Json)) (d : Json) : Prop :=
  ∃ edited, d = .object edited ∧ Edited (foreign limit) members edited

/-- The file is as at first, an edit, or what a cut save has left. -/
inductive FileKept (limit : Nat) (members : List (String × Json)) (cut : Prop) : ConfigFile → Prop
  | absent (empty : members = []) : FileKept limit members cut .absent
  | edited {d : Json} (edit : EditOf limit members d) : FileKept limit members cut (.text (some d))
  | unreadable (wasCut : cut) : FileKept limit members cut (.text none)

structure Kept (limit : Nat) (members : List (String × Json)) (cut : Prop) (s : Linux) : Prop where
  file : FileKept limit members cut s.file
  root : ∀ d, s.rootObject = some d → EditOf limit members d

section calls
variable {J : JsonC} {limit : Nat} {members : List (String × Json)} {cut : Prop} {s : Linux}

theorem own_channelKey {channel : Nat} (below : channel < limit) :
    foreign limit (channelKey channel) = false := by
  have inside : channelKey channel ∈ ownKeys limit :=
    List.mem_flatMap.mpr ⟨channel, List.mem_range.mpr below, by simp⟩
  simpa [foreign] using inside

theorem own_calibrationKey {channel : Nat} (below : channel < limit) :
    foreign limit (calibrationKey channel) = false := by
  have inside : calibrationKey channel ∈ ownKeys limit :=
    List.mem_flatMap.mpr ⟨channel, List.mem_range.mpr below, by simp⟩
  simpa [foreign] using inside

theorem editOf_put {d r : Json} (edit : EditOf limit members d) {key : String}
    (own : foreign limit key = false)
    {value : Json} (put : d.put? key value = some r) : EditOf limit members r := by
  obtain ⟨edited, rfl, kept⟩ := edit
  simp only [Json.put?, Option.some.injEq] at put
  exact ⟨_, put.symm, kept.put own value⟩

/-- The document a call works on. -/
theorem loadRoot_kept (kept : Kept limit members cut s) {d : Json} (loaded : loadRoot s = some d) :
    EditOf limit members d := by
  unfold loadRoot at loaded
  cases root : s.rootObject with
  | some r =>
    rw [root, Option.some.injEq] at loaded
    exact loaded ▸ kept.root r root
  | none =>
    rw [root] at loaded
    have file := kept.file
    generalize s.file = found at loaded file
    cases file with
    | absent empty =>
      rw [Option.some.injEq] at loaded
      exact ⟨[], loaded.symm, empty ▸ Edited.refl _ _⟩
    | edited edit =>
      obtain ⟨edited, rfl, keeps⟩ := edit
      have same : Json.object edited = d := by simpa [jsonObjectFromFile] using loaded
      exact ⟨edited, same.symm, keeps⟩
    | unreadable wasCut => cases loaded

/-- A save of an edit leaves an edit or an unreadable text. -/
theorem saveThen_kept (kept : Kept limit members cut s) {root : Json}
    (edit : EditOf limit members root)
    {save : SaveOutcome} (whole : Uncut save ∨ cut) (commit : Tables → Tables) (failure : Status) :
    Kept limit members cut (saveThen J save root commit failure s).1 := by
  obtain ⟨cached, file⟩ := saveThen_state J save root commit failure s
  refine ⟨?_, fun d same => ?_⟩
  · rw [file]
    cases written : save.written with
    | untouched => exact kept.file
    | whole => exact .edited edit
    | part characters =>
      obtain ⟨edited, rfl, _⟩ := edit
      have read : fileAfter J (.object edited) s.file (.part characters) = .text none :=
        congrArg ConfigFile.text (J.readPartial_object edited characters)
      rw [read]
      exact .unreadable (whole.resolve_left fun uncut => uncut characters written)
  · rw [cached, Option.some.injEq] at same
    exact same ▸ edit

theorem addDefault_kept (kept : Kept limit members cut s) {key : String}
    (own : foreign limit key = false)
    (value : Json) {save : SaveOutcome} (whole : Uncut save ∨ cut) (commit : Tables → Tables) :
    Kept limit members cut (addDefault J save key value commit s).1 := by
  unfold addDefault
  cases put : s.withMember? key value with
  | none => exact kept
  | some root =>
    obtain ⟨d, cached, added⟩ := Option.bind_eq_some_iff.mp put
    exact saveThen_kept kept (editOf_put (kept.root d cached) own added) whole commit _

theorem bindName_kept (kept : Kept limit members cut s) {channel : Nat} (below : channel < limit)
    {save : SaveOutcome} (whole : Uncut save ∨ cut) :
    Kept limit members cut (bindName J save channel s).1 := by
  unfold bindName
  split
  next object _ =>
    split
    · exact ⟨kept.file, kept.root⟩
    · exact kept
  next => exact addDefault_kept kept (own_channelKey below) _ whole id

theorem bindCalibration_kept (kept : Kept limit members cut s) {channel : Nat}
    (below : channel < limit) {save : SaveOutcome} (whole : Uncut save ∨ cut) :
    Kept limit members cut (bindCalibration J save channel s).1 := by
  unfold bindCalibration
  split
  next => exact ⟨kept.file, kept.root⟩
  next => exact addDefault_kept kept (own_calibrationKey below) _ whole _

theorem getBoundDataSource_kept (kept : Kept limit members cut s) {channel : Nat}
    (below : channel < limit)
    {saves : SaveOutcome × SaveOutcome} (name : Uncut saves.1 ∨ cut)
    (calibration : Uncut saves.2 ∨ cut) :
    Kept limit members cut (getBoundDataSource J saves channel s).1 := by
  unfold getBoundDataSource
  cases loaded : loadRoot s with
  | none => exact kept
  | some root =>
    have cached : Kept limit members cut { s with rootObject := some root } :=
      ⟨kept.file, fun d same => Option.some.inj same ▸ loadRoot_kept kept loaded⟩
    have named := bindName_kept (J := J) cached below name
    dsimp only
    split
    next s' called =>
      rw [called] at named
      exact bindCalibration_kept named below calibration
    next s' outcome _ called =>
      rw [called] at named
      exact named

theorem setMember_kept (kept : Kept limit members cut s) {key : String}
    (own : foreign limit key = false)
    {save : SaveOutcome} (whole : Uncut save ∨ cut) (update : Json → Option Json)
    (commit : Tables → Tables) :
    Kept limit members cut (setMember J save key update commit s).1 := by
  unfold setMember
  cases put : ((s.member? key).bind update).bind (s.withMember? key) with
  | none => exact kept
  | some root =>
    obtain ⟨value, _, added⟩ := Option.bind_eq_some_iff.mp put
    obtain ⟨d, cached, added⟩ := Option.bind_eq_some_iff.mp added
    exact saveThen_kept kept (editOf_put (kept.root d cached) own added) whole commit _

/-- However a start ends. -/
theorem start_kept {file : ConfigFile} (kept : FileKept limit members cut file) {count : Nat}
    (below : count ≤ limit) {saves : Nat → SaveOutcome × SaveOutcome}
    (whole : (∀ c < count, Uncut (saves c).1 ∧ Uncut (saves c).2) ∨ cut) :
    ∃ s outcome, start J saves count file = .bound s outcome ∧ Kept limit members cut s := by
  have begun : Kept limit members cut (fresh file (Tables.zeroed count)) := ⟨kept, nofun⟩
  have keeps : ∀ i s, i < count → Kept limit members cut s →
      Kept limit members cut (getBoundDataSource J (saves i) i s).1 := fun i s inside before =>
    getBoundDataSource_kept before (by omega) (whole.imp_left fun uncut => (uncut i inside).1)
      (whole.imp_left fun uncut => (uncut i inside).2)
  exact ⟨_, _, rfl, bindLoop_keeps keeps (Nat.zero_add count) begun⟩

end calls

/-! ## Runs -/

section runs
variable {J : JsonC} {limit : Nat} {members : List (String × Json)} {cut : Prop} {s : Session}

/-- One event keeps the documents edits of the first one. -/
theorem step_kept (kept : Kept limit members cut s.linux ∧ s.count ≤ limit) {e : Event}
    (rule : Below limit e ∧ (Whole e ∨ cut)) :
    Kept limit members cut (step J s e).linux ∧ (step J s e).count ≤ limit := by
  obtain ⟨below, whole⟩ := rule
  cases e with
  | start count saves =>
    obtain ⟨linux, outcome, started, later⟩ := start_kept (J := J) kept.1.file below whole
    obtain ⟨left, counted⟩ := step_start started
    rw [left, counted]
    exact ⟨later, below⟩
  | setChannelSourceBinding save channel bindingName =>
    simp only [step]
    split
    next allowed =>
      exact ⟨setMember_kept kept.1 (own_channelKey (by omega)) whole _ _, kept.2⟩
    next => exact kept
  | setChannelCalibration save channel calibration =>
    simp only [step]
    split
    next allowed =>
      exact ⟨setMember_kept kept.1 (own_calibrationKey (by omega)) whole _ _, kept.2⟩
    next => exact kept
  | clearBinding channel =>
    simp only [step]
    split
    next => exact ⟨⟨kept.1.file, kept.1.root⟩, kept.2⟩
    next => exact kept

end runs

/-- From a file that is missing or holds an object, through any runs of any processes and
whatever the saves do, every document they cache or write is an edit of it. -/
theorem members_edited_in_place (J : JsonC) {members : List (String × Json)} {file : ConfigFile}
    (holds : Holds file (.object members)) {limit : Nat} (events : List Event)
    (below : ∀ e ∈ events, Below limit e) :
    Runs.AllReached (step J) (fun s => Kept limit members (∃ e ∈ events, ¬ Whole e) s.linux)
      (before file) events := by
  have first : Kept limit members (∃ e ∈ events, ¬ Whole e) (before file).linux := by
    refine ⟨?_, nofun⟩
    rcases holds with written | ⟨absent, empty⟩
    · show FileKept _ _ _ file
      rw [written]
      exact .edited ⟨members, rfl, Edited.refl _ _⟩
    · show FileKept _ _ _ file
      rw [absent]
      exact .absent (Json.object.inj empty)
  have rule : ∀ e ∈ events, Below limit e ∧ (Whole e ∨ ∃ e ∈ events, ¬ Whole e) := by
    intro e member
    refine ⟨below e member, ?_⟩
    by_cases whole : Whole e
    · exact Or.inl whole
    · exact Or.inr ⟨e, member, whole⟩
  have keeps : ∀ s e, (Kept limit members (∃ e ∈ events, ¬ Whole e) s.linux ∧ s.count ≤ limit) →
      (Below limit e ∧ (Whole e ∨ ∃ e ∈ events, ¬ Whole e)) →
      (Kept limit members (∃ e ∈ events, ¬ Whole e) (step J s e).linux ∧
        (step J s e).count ≤ limit) :=
    fun s e kept rule => step_kept kept rule
  have reached := Runs.allReached_of_rule keeps ⟨first, Nat.zero_le limit⟩ rule
  exact reached.mono fun s kept => kept.1

/-- A file with a member of another program, and none for the second channel. -/
def themed : List (String × Json) :=
  [("theme", .string (text "dark")), ("channel0", .string Source.Names.unallocated.units)]

/-- A panel of two channels; one save fails, one is cut short, and the last one succeeds. -/
def savesVary : List Event :=
  [.start 2 fun _ => (.done, .done), .setChannelCalibration (.failed .untouched) 1 5,
    .setChannelSourceBinding (.failed (.part 3)) 0 Source.Names.calibration,
    .setChannelSourceBinding .done 1 Source.Names.calibration]

theorem members_edited_in_place_themed :
    Runs.AllReached (step plain) (fun s => Kept 2 themed (∃ e ∈ savesVary, ¬ Whole e) s.linux)
      (before (.text (some (.object themed)))) savesVary := by
  have below : ∀ e ∈ savesVary, Below 2 e := by
    intro e member
    simp only [savesVary, List.mem_cons, List.not_mem_nil, or_false] at member
    rcases member with rfl | rfl | rfl | rfl
    · exact (by decide : 2 ≤ 2)
    all_goals trivial
  exact members_edited_in_place plain (Or.inl rfl) savesVary below

end PerformancePanel.Guarantees.ForeignMembers
