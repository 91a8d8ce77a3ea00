import PerformancePanel.Library.Runs
import PerformancePanel.Settings.LoadedEntries
import PerformancePanel.Source.InstalledConsole
import PerformancePanel.Source.LinuxLoad

/-!
# From config.json to the panel

On Linux a channel has a source exactly if its member is the string `Calibration`. Whatever
fails, a start takes from the document that was there at first, or binds nothing; so every
level the console program sends is one below the calibration stored for such a channel, or
zero.
-/
set_option autoImplicit false

namespace PerformancePanel.Guarantees.ConsoleSettings
open Source Source.Common Source.DataSources Source.Collector Source.Tick Source.JsonLibrary
open Source.FrontEnds (keepsRunning)
open Source.PanelSetup (queryTransfer)
open Source.LinuxReader Source.LinuxLoad Source.InstalledConsole Library Settings.LoadedEntries

/-! ## What a start takes from a document -/

def documentTaken (J : JsonC) (d : Json) : Taken where
  source := fun channel => decodeBinding J (valueAt d (.binding channel))
  calibration := fun channel => decodeCalibration J (valueAt d (.calibration channel))

/-- What the Calibration source shows with a calibration. -/
def shownLevel (calibration : UInt8) : UInt8 := if calibration = 0 then 0 else calibration - 1

theorem calibrated_full (calibration : UInt8) :
    calibrated 0xFF calibration = shownLevel calibration := by
  have bound := calibration.toNat_lt
  apply UInt8.toNat.inj
  rw [calibrated_toNat, shownLevel]
  by_cases zero : calibration = 0
  · rw [if_pos zero, zero]
    rfl
  · have positive : 1 ≤ calibration.toNat :=
      Nat.pos_of_ne_zero fun isZero => zero (UInt8.toNat.inj isZero)
    have one : (1 : UInt8) ≤ calibration := UInt8.le_iff_toNat_le.mpr positive
    rw [if_neg zero, UInt8.toNat_sub_of_le _ _ one]
    show 255 * calibration.toNat / 256 = calibration.toNat - 1
    omega

/-- Only one source is known, and only by its name. -/
theorem source_iff {J : JsonC} {d : Json} {channel : Nat} {source : DataSource} :
    (documentTaken J d).source channel = some source ↔
      source = .calibration ∧ ∃ units, valueAt d (.binding channel) = .string units ∧
        Name.ofBuffer units = Names.calibration := by
  show decodeBinding J (valueAt d (.binding channel)) = some source ↔ _
  constructor
  · intro bound
    by_cases isString : ∃ units, valueAt d (.binding channel) = .string units
    · obtain ⟨units, value⟩ := isString
      rw [value] at bound
      simp only [decodeBinding, JsonC.getString, Option.bind_some, nameStringToCallback,
        Option.ite_none_right_eq_some, Option.some.injEq] at bound
      exact ⟨bound.2.symm, units, value, bound.1⟩
    · rw [decodeBinding_nonstring J fun units same => isString ⟨units, same⟩] at bound
      cases bound
  · rintro ⟨rfl, units, value, name⟩
    rw [value]
    simp [decodeBinding, JsonC.getString, name, nameStringToCallback]

/-! ## One call of the reader, whatever fails -/

/-- The file is missing or has the values of the document, or a save cut short has left
nothing readable in it. -/
def FileOf (d : Json) (file : ConfigFile) : Prop :=
  (∃ r, Extends d r ∧ Holds file r) ∨ file = .text none

/-- The reader at any point of a loop: with the values of the document, or unable to read. -/
structure Reads (J : JsonC) (d : Json) (count : Nat) (s : Linux) : Prop where
  file : FileOf d s.file
  document : ∀ r, loadRoot s = some r → Extends d r
  sized : s.tables.Sized count
  entries : ∀ c, Entry (documentTaken J d) s.tables c

section reading
variable {J : JsonC} {d r : Json} {s : Linux} {channel : Nat}

/-- A save leaves the document it was given, or the file as it was, or no document. -/
theorem fileAfter_kept {file : ConfigFile} (extended : Extends d r) (kept : FileOf d file)
    (written : Written) :
    FileOf d (fileAfter J r file written) := by
  cases written with
  | untouched => exact kept
  | whole => exact Or.inl ⟨r, extended, Or.inl rfl⟩
  | part characters =>
    obtain ⟨members, rfl⟩ := extended.object
    exact Or.inr (congrArg ConfigFile.text (J.readPartial_object members characters))

theorem addDefault_tables (save : SaveOutcome) (key : String) (value : Json)
    (commit : Tables → Tables) :
    (addDefault J save key value commit s).1.tables = s.tables ∨
      (addDefault J save key value commit s).1.tables = commit s.tables := by
  unfold addDefault
  split
  next => cases save <;> simp [saveThen, saveRoot, jsonObjectToFileExt, SaveOutcome.result]
  next => exact Or.inl rfl

/-- The binding half sets its callback to the decoded value, or nothing. -/
theorem bindName_tables (root : s.rootObject = some r) (save : SaveOutcome) :
    (bindName J save channel s).1.tables = s.tables ∨
      (bindName J save channel s).1.tables =
        s.tables.setCallback channel (decodeBinding J (valueAt r (.binding channel))) := by
  have member : s.member? (channelKey channel) = r.get? (Key.binding channel).name :=
    member?_of_root root _
  unfold bindName
  rw [member]
  cases found : r.get? (Key.binding channel).name with
  | none => exact Or.inl ((addDefault_tables save _ _ id).elim id id)
  | some value =>
    dsimp only
    cases read : J.getString value with
    | none => exact Or.inl rfl
    | some name =>
      refine Or.inr ?_
      rw [valueAt, found, Option.getD_some, decodeBinding, read, Option.bind_some]

theorem bindCalibration_tables (root : s.rootObject = some r) (save : SaveOutcome) :
    (bindCalibration J save channel s).1.tables = s.tables ∨
      (bindCalibration J save channel s).1.tables =
        s.tables.setCalibration channel
          (decodeCalibration J (valueAt r (.calibration channel))) := by
  have member : s.member? (calibrationKey channel) = r.get? (Key.calibration channel).name :=
    member?_of_root root _
  unfold bindCalibration
  rw [member]
  cases found : r.get? (Key.calibration channel).name with
  | none =>
    rw [valueAt, found, Option.getD_none, decodeCalibration_initial]
    exact addDefault_tables save _ _ _
  | some value =>
    rw [valueAt, found, Option.getD_some]
    exact Or.inr rfl

/-- A reader with a cached document of these values. -/
theorem reads_cached {count : Nat} (root : s.rootObject = some r) (extended : Extends d r)
    (file : FileOf d s.file)
    (sized : s.tables.Sized count) (entries : ∀ c, Entry (documentTaken J d) s.tables c) :
    Reads J d count s := by
  refine ⟨file, fun r' loaded => ?_, sized, entries⟩
  rw [loadRoot, root, Option.some.injEq] at loaded
  rw [← loaded]
  exact extended

/-- A half of a call that leaves such tables keeps the values. -/
theorem half_kept {count : Nat} {save : SaveOutcome} {key : Key} {s' : Linux} {r' : Json}
    (reads : Reads J d count s)
    (extended : Extends d r) (ensured : Ensured J save key r s s' r')
    (sized : s'.tables.Sized count)
    (entries : ∀ c, Entry (documentTaken J d) s'.tables c) : Reads J d count s' := by
  have extended' := ensured.extends extended
  refine reads_cached ensured.root extended' ?_ sized entries
  rcases ensured.file with ⟨-, -, same⟩ | ⟨-, -, saved⟩
  · rw [same]
    exact reads.file
  · rw [saved]
    exact fileAfter_kept extended' reads.file save.written

theorem bindName_kept {count : Nat} (reads : Reads J d count s) (root : s.rootObject = some r)
    (below : channel < count) (save : SaveOutcome) :
    Reads J d count (bindName J save channel s).1 := by
  have extended : Extends d r := reads.document r (by rw [loadRoot, root])
  obtain ⟨r', ensured⟩ := bindName_ensured (J := J) root extended.object save channel
  refine half_kept reads extended ensured (bindName_sized reads.sized save channel) ?_
  rcases bindName_tables root save with same | set
  · rw [same]
    exact reads.entries
  · rw [set, extended.values]
    exact entry_setCallback reads.sized below reads.entries

theorem bindCalibration_kept {count : Nat} (reads : Reads J d count s)
    (root : s.rootObject = some r)
    (below : channel < count) (save : SaveOutcome) :
    Reads J d count (bindCalibration J save channel s).1 := by
  have extended : Extends d r := reads.document r (by rw [loadRoot, root])
  obtain ⟨r', ensured⟩ := bindCalibration_ensured (J := J) root extended.object save channel
  refine half_kept reads extended ensured (bindCalibration_sized reads.sized save channel) ?_
  rcases bindCalibration_tables root save with same | set
  · rw [same]
    exact reads.entries
  · rw [set, extended.values]
    exact entry_setCalibration reads.sized below reads.entries

theorem reads_fresh {file : ConfigFile} (kept : FileOf d file) (count : Nat) :
    Reads J d count (fresh file (Tables.zeroed count)) := by
  refine ⟨kept, fun r loaded => ?_, Tables.zeroed_sized count, zeroed_entries _ count⟩
  rcases kept with ⟨r', extended, holds⟩ | unreadable
  · rw [loadRoot_of_holds extended.object rfl holds, Option.some.injEq] at loaded
    exact loaded ▸ extended
  · rw [unreadable] at loaded
    cases loaded

/-- However a call ends, the reader stays with the values of the document. -/
theorem getBoundDataSource_kept {count : Nat} (reads : Reads J d count s) (below : channel < count)
    (saves : SaveOutcome × SaveOutcome) :
    Reads J d count (getBoundDataSource J saves channel s).1 := by
  unfold getBoundDataSource
  cases loaded : loadRoot s with
  | none => exact reads
  | some r =>
    have extended := reads.document r loaded
    have cached : Reads J d count { s with rootObject := some r } :=
      reads_cached rfl extended reads.file reads.sized reads.entries
    have named := bindName_kept cached rfl below saves.1
    obtain ⟨r', ensured⟩ :=
      bindName_ensured (J := J) (s := { s with rootObject := some r }) rfl extended.object
      saves.1 channel
    dsimp only
    split
    next s' called =>
      rw [called] at named ensured
      exact bindCalibration_kept named ensured.root below saves.2
    next s' outcome _ called =>
      rw [called] at named
      exact named

end reading

/-! ## The program, whatever fails -/

/-- What the program sends: the query, or to a channel named `Calibration` zero or the level
below its calibration. -/
def Allowed (J : JsonC) (d : Json) (packet : ControlTransfer) : Prop :=
  packet = queryTransfer ∨ ∃ (channel : UInt8) (units : List CharT),
    valueAt d (.binding channel.toNat) = .string units ∧ Name.ofBuffer units = Names.calibration ∧
    (packet = sendUsage channel 0 ∨
      packet = sendUsage channel (shownLevel ((documentTaken J d).calibration channel.toNat)))

theorem tick_allowed {J : JsonC} {d : Json} {channelCount : UInt8} {arrays : Arrays}
    (entries : ArraysOf (documentTaken J d) channelCount.toNat arrays) (env : TickEnv)
    (last : SystemTimes)
    {packet : ControlTransfer}
    (sent : packet ∈ (mainLoopCallback env channelCount arrays last).transfers) :
    Allowed J d packet := by
  obtain ⟨channel, source, bound, level⟩ := tick_calledFor entries env last sent
  obtain ⟨rfl, units, value, name⟩ := source_iff.mp bound
  refine Or.inr ⟨channel, units, value, name, ?_⟩
  rcases level with zero | ⟨last, os, same⟩
  · exact Or.inl zero
  · rw [← calibrated_full]
    exact Or.inr same

/-- The document is kept and has allowed everything the process has sent. -/
structure Follows (J : JsonC) (d : Json) (s : Installed) : Prop where
  file : FileOf d s.file
  arrays : ArraysOf (documentTaken J d) s.program.channelCount.toNat s.program.arrays
  sent : ∀ packet ∈ s.program.transfers, Allowed J d packet

section follows
variable {J : JsonC} {d : Json} {s : Installed}

theorem main_follows (follows : Follows J d s) (env : MainEnv) :
    Follows J d (main J env s.file) := by
  have queried : ∀ packet ∈ [queryTransfer], Allowed J d packet := by
    intro packet listed
    exact Or.inl (List.mem_singleton.mp listed)
  unfold main
  dsimp only
  cases getChannelCount env.fuel env.queryStatus env.queryReply with
  | none => exact ⟨follows.file, .nothingBound _ nofun, queried⟩
  | some channelCount =>
    have reads : Reads J d channelCount.toNat
      (bindLoop (fun channel s => getBoundDataSource J (env.saves channel) channel s)
        channelCount.toNat 0 (fresh s.file (Tables.zeroed channelCount.toNat))).1 :=
      bindLoop_keeps (I := Reads J d channelCount.toNat)
        (fun i _ below reads => getBoundDataSource_kept reads below (env.saves i)) (Nat.zero_add _)
        (reads_fresh follows.file _)
    cases both : (env.callbacksAllocated && env.calibrationsAllocated) with
    | true =>
      simp only [initializeDataSourceBinding, both, if_true]
      exact ⟨reads.file, .entries _ reads.sized reads.entries, queried⟩
    | false =>
      simp only [initializeDataSourceBinding, both, Bool.false_eq_true, if_false]
      exact ⟨follows.file, .nothingBound _ (unallocated_idle _ _), queried⟩

theorem step_follows (follows : Follows J d s) (e : Event) : Follows J d (step J s e) := by
  cases e with
  | starts env => exact main_follows follows env
  | goesOn e =>
    unfold step FrontEnds.step
    dsimp only
    split
    next =>
      cases e with
      | tick env =>
        refine ⟨follows.file, follows.arrays, fun packet sent => ?_⟩
        rcases List.mem_append.mp sent with before | ticked
        · exact follows.sent packet before
        · exact tick_allowed follows.arrays env s.program.lastTimes ticked
      | leave => exact ⟨follows.file, follows.arrays, follows.sent⟩
    next => exact ⟨follows.file, follows.arrays, follows.sent⟩

theorem idle_follows (object : IsObject d) {file : ConfigFile} (holds : Holds file d) :
    Follows J d (idle file) :=
  ⟨Or.inl ⟨d, Extends.refl object, holds⟩, .nothingBound ⟨none, none⟩ nofun, fun _ sent =>
    absurd sent List.not_mem_nil⟩

end follows

/-- Whatever fails, over any number of processes on one config.json that holds an object or
is missing, the file keeps the values of the document or has become unreadable, and every
packet the console program sends is the query or goes to a channel that the document names
`Calibration`, with zero or the level below the calibration stored for it. -/
theorem console_follows_settings (J : JsonC) {d : Json} (object : IsObject d) {file : ConfigFile}
    (holds : Holds file d) (events : List Event) :
    Runs.AllReached (step J) (Follows J d) (idle file) events :=
  Runs.allReached_of_invariant (P := Follows J d) (fun _ e follows => step_follows follows e)
    (idle_follows object holds) events

/-- A document with one channel named `Calibration`. -/
def oneNamed : Json := .object [("channel0", .string Names.calibration.units)]

def panelOfOne : MainEnv where
  openDevice := .success
  queryStatus := .success
  queryReply := 0x81
  fuel := 0
  callbacksAllocated := true
  calibrationsAllocated := true
  saves := fun _ => (.done, .done)

/-- The first start is stopped inside its save, the second finds what is left. -/
def saveCutShort : List Event :=
  [.starts { panelOfOne with saves := fun _ => (.done, .stopped (.part 3)) }, .starts panelOfOne]

theorem console_follows_oneNamed :
    Runs.AllReached (step plain) (Follows plain oneNamed)
      (idle (.text (some oneNamed))) saveCutShort :=
  console_follows_settings plain ⟨_, rfl⟩ (Or.inl rfl) saveCutShort

/-! ## The program with every call succeeding -/

/-- The channels that the document names `Calibration`, ascending. -/
def namedChannels (J : JsonC) (d : Json) (count : Nat) : List Nat :=
  (List.range count).filter fun channel => (documentTaken J d).source channel = some .calibration

/-- One packet for each of them, up to the first transfer that fails. -/
def shownPackets (J : JsonC) (d : Json) (count : Nat) (env : TickEnv) : List ControlTransfer :=
  (reached env ((namedChannels J d count).map fun channel => (channel, DataSource.calibration))).map
    fun entry =>
    sendUsage (UInt8.ofNat entry.1) (shownLevel ((documentTaken J d).calibration entry.1))

theorem source_cases (J : JsonC) (d : Json) (channel : Nat) :
    (documentTaken J d).source channel = none ∨ (documentTaken J d).source channel =
    some .calibration := by
  cases bound : (documentTaken J d).source channel with
  | none => exact Or.inl rfl
  | some source =>
    obtain ⟨rfl, -⟩ := source_iff.mp bound
    exact Or.inr rfl

theorem bound_named (J : JsonC) (d : Json) (count : Nat) :
    boundFrom ((documentTaken J d).tables count) count 0 =
      (namedChannels J d count).map fun channel => (channel, DataSource.calibration) := by
  have each : ∀ channel ∈ List.range count,
      (((documentTaken J d).tables count).callback channel).map (fun source => (channel, source)) =
        if (documentTaken J d).source channel =
          some .calibration then some (channel, DataSource.calibration)
        else none := by
    intro channel below
    rw [tables_callback (List.mem_range.mp below)]
    rcases source_cases J d channel with same | same <;> rw [same] <;> rfl
  rw [boundFrom, ← List.range_eq_range', List.filterMap_congr each, namedChannels,
    ← List.filterMap_eq_map, List.filterMap_filter]
  simp

theorem packets_shown (J : JsonC) (d : Json) (count : Nat) (env : TickEnv) (last : SystemTimes) :
    (documentTaken J d).packets count env last = shownPackets J d count env := by
  rw [Taken.packets, bound_named]
  refine List.map_congr_left fun entry member => ?_
  obtain ⟨channel, named, rfl⟩ := List.mem_map.mp (reached_subset member)
  have below : channel < count := List.mem_range.mp (List.mem_filter.mp named).1
  rw [packetFor, tables_calibration below, ← calibrated_full]
  rfl

/-- The status of a tick is success exactly if the transfer to every named channel succeeds. -/
theorem finalStatus_success {env : TickEnv} {entries : List (Nat × DataSource)} :
    finalStatus env entries = .success ↔ ∀ entry ∈ entries, env.transfer entry.1 = .success := by
  induction entries with
  | nil => simp [finalStatus]
  | cons head rest ih =>
    obtain ⟨channel, source⟩ := head
    by_cases sent : env.transfer channel = .success <;> simp [finalStatus, sent, ih]

/-- Both allocations and every save of a start succeed. -/
def Succeeds : Event → Prop
  | .starts env => (env.callbacksAllocated && env.calibrationsAllocated) = true ∧
      ∀ channel, env.saves channel = (.done, .done)
  | .goesOn _ => True

/-- The program before it has counted the channels, or with the arrays of the document. -/
structure Shows (J : JsonC) (d : Json) (s : Installed) : Prop where
  file : ∃ r, Extends d r ∧ Holds s.file r
  arrays : (s.program.arrays = ⟨none, none⟩ ∧ s.program.channelCount = 0) ∨
    s.program.arrays = ((documentTaken J d).tables s.program.channelCount.toNat).arrays

section shows
variable {J : JsonC} {d : Json} {s : Installed}

theorem main_shows (readable : ∀ channel, J.getString (valueAt d (.binding channel)) ≠ none)
    (shows : Shows J d s)
    {env : MainEnv} (succeeds : Succeeds (.starts env)) : Shows J d (main J env s.file) := by
  obtain ⟨r, extended, holds⟩ := shows.file
  obtain ⟨allocated, done⟩ := succeeds
  obtain ⟨callbacks, calibrations⟩ := Bool.and_eq_true _ _ ▸ allocated
  unfold main
  dsimp only
  cases getChannelCount env.fuel env.queryStatus env.queryReply with
  | none => exact ⟨⟨r, extended, holds⟩, Or.inl ⟨rfl, rfl⟩⟩
  | some channelCount =>
    have needed : ∀ c < channelCount.toNat, Needed r (.binding c) (env.saves c).1 ∧
        Needed r (.calibration c) (env.saves c).2 := by
      intro c _
      rw [done c]
      exact ⟨fun _ => rfl, fun _ => rfl⟩
    obtain ⟨s', started, loaded⟩ := start_loads extended.object holds needed fun c _ => by
      rw [extended.values]
      exact readable c
    obtain ⟨r', -, extended', holds', -⟩ := loaded.document
    have taken : s'.tables = (documentTaken J d).tables channelCount.toNat := by
      refine tables_eq loaded.sized fun channel below => ?_
      have bound := loaded.bound channel below
      rw [extended.values, extended.values] at bound
      exact bound
    rw [start] at started
    simp only [callbacks, calibrations, started]
    exact ⟨⟨r', extended.trans extended', holds'⟩, Or.inr (congrArg Tables.arrays taken)⟩

theorem step_shows (readable : ∀ channel, J.getString (valueAt d (.binding channel)) ≠ none)
    (shows : Shows J d s) {e : Event} (succeeds : Succeeds e) : Shows J d (step J s e) := by
  cases e with
  | starts env => exact main_shows readable shows succeeds
  | goesOn e =>
    unfold step FrontEnds.step
    dsimp only
    split
    next => cases e <;> exact ⟨shows.file, shows.arrays⟩
    next => exact ⟨shows.file, shows.arrays⟩

/-- A tick sends the packets of the document and goes on if none has failed. -/
theorem tick_shows (shows : Shows J d s) (env : TickEnv) :
    let done := mainLoopCallback env s.program.channelCount s.program.arrays s.program.lastTimes
    done.transfers = shownPackets J d s.program.channelCount.toNat env ∧
      (keepsRunning .consoleUnix done.outcome = true ↔
        ∀ channel ∈ namedChannels J d s.program.channelCount.toNat, env.transfer channel =
          .success) := by
  have uncounted (zero : s.program.channelCount = 0) : s.program.channelCount.toNat = 0 := by
    rw [zero]
    rfl
  rcases shows.arrays with ⟨arrays, zero⟩ | arrays
  · rw [uncounted zero, arrays, zero]
    exact ⟨rfl, by simp [namedChannels, mainLoopCallback, mainLoopFrom, keepsRunning]⟩
  · have sized := tables_sized (documentTaken J d) s.program.channelCount.toNat
    dsimp only
    rw [arrays, tick_packets, packets_shown, mainLoopCallback_outcome sized, bound_named]
    exact ⟨rfl, by simp only [keepsRunning, beq_iff_eq, finalStatus_success, List.forall_mem_map]⟩

end shows

/-- With every allocation and save succeeding and no null bound to a channel, in every
reached state config.json has the values of the document, and a tick of the running program
sends one packet to each channel that the document names `Calibration`, ascending and up to
the first failure, with the level below its calibration; it goes on exactly if none failed. -/
theorem console_shows_settings (J : JsonC) {d : Json} (object : IsObject d) {file : ConfigFile}
    (holds : Holds file d) (readable : ∀ channel, J.getString (valueAt d (.binding channel)) ≠ none)
    {events : List Event} (succeeds : ∀ e ∈ events, Succeeds e) :
    Runs.AllReached (step J) (fun s => Shows J d s ∧ ∀ env, s.program.running = true →
      let after := (step J s (.goesOn (.tick env))).program
      after.transfers = s.program.transfers ++ shownPackets J d s.program.channelCount.toNat env ∧
        (after.running = true ↔
          ∀ channel ∈ namedChannels J d s.program.channelCount.toNat, env.transfer channel =
            .success))
      (idle file) events := by
  have first : Shows J d (idle file) := ⟨⟨d, Extends.refl object, holds⟩, Or.inl ⟨rfl, rfl⟩⟩
  have keeps : ∀ s e, Shows J d s → Succeeds e → Shows J d (step J s e) := fun _ _ shows rule =>
    step_shows readable shows rule
  have kept : Runs.AllReached (step J) (Shows J d) (idle file) events :=
    Runs.allReached_of_rule keeps first succeeds
  refine kept.mono fun s shows => ⟨shows, fun env running => ?_⟩
  obtain ⟨sent, goes⟩ := tick_shows shows env
  simp only [step, FrontEnds.step, running, if_true, FrontEnds.tick]
  exact ⟨congrArg (s.program.transfers ++ ·) sent, goes⟩

theorem oneNamed_readable (channel : Nat) : plain.getString (valueAt oneNamed (.binding channel)) ≠
      none := by
  by_cases first : (Key.binding channel).name = "channel0"
  · simp [valueAt, oneNamed, Json.get?, first]
  · have other : ((Key.binding channel).name == "channel0") = false := by simpa using first
    simp [valueAt, oneNamed, Json.get?, List.lookup_cons, other, Key.initial]

/-- The channel is calibrated to the default, and a tick shows the level below it. -/
theorem console_shows_oneNamed :
    (Runs.run (step plain) (idle (.text (some oneNamed)))
      [.starts panelOfOne,
        .goesOn (.tick ⟨fun _ => ⟨none, none, none, none, 0⟩, fun _ => .success⟩)]
      ).program.transfers =
        [queryTransfer, sendUsage 0 127] := by
  have succeeds : ∀ e ∈ [Event.starts panelOfOne], Succeeds e := by
    intro e member
    rw [List.mem_singleton.mp member]
    exact ⟨rfl, fun _ => rfl⟩
  have reached := (console_shows_settings plain (d := oneNamed) ⟨_, rfl⟩ (Or.inl rfl)
    oneNamed_readable succeeds).last
  exact (reached.2 _ rfl).1.trans rfl

end PerformancePanel.Guarantees.ConsoleSettings
