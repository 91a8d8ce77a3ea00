import PerformancePanel.Library.Runs
import PerformancePanel.Source.RegistryHives
import PerformancePanel.Source.WindowsLoad

/-!
# The two roots are separate stores

A process works on one of the two keys from its first successful opening on. On that key
it is the reader of a single key, so that what a history of processes leaves there is what
the processes on that key leave, and a process finds nothing of what the others stored
under the other root.
-/
set_option autoImplicit false

namespace PerformancePanel.Guarantees.HiveSeparation
open Source Source.Common Source.DataSources Source.Collector Source.Registry
  Source.RegistryHives Library
open Source.WindowsReader (Windows RegistryEnv)

/-- A `registry_key` that is NULL or this one. -/
def Uses (hive : Hive) (registryKey : Option Hive) : Prop :=
  registryKey = none ∨ registryKey = some hive

/-! ## The reader of a single key keeps it open -/

theorem reader_opened {nvidiaGpuFound : Bool} {env : RegistryEnv} {channel : Nat} {w : Windows}
    (opened : w.opened = true) :
    (WindowsReader.getBoundDataSource nvidiaGpuFound env channel w).1.opened = true := by
  unfold WindowsReader.getBoundDataSource
  split
  · have named := @WindowsLoad.readName_frame env channel { w with opened := true }
    split
    next s₁ read =>
      rw [read] at named
      exact named.2
    next s₁ name read =>
      rw [read] at named
      have calibrated := @WindowsLoad.readCalibration_frame env channel { s₁ with
        tables := s₁.tables.setCallback channel
          (WindowsReader.nameStringToCallback nvidiaGpuFound name) }
        (WindowsReader.defaultCalibration name)
      split
      next s₂ read₂ =>
        rw [read₂] at calibrated
        exact calibrated.2.trans named.2
      next s₂ value read₂ =>
        rw [read₂] at calibrated
        exact calibrated.2.trans named.2
  · exact opened

/-- With a key open or opening, a call is the one on the open key. -/
theorem reader_opens {nvidiaGpuFound : Bool} {env : RegistryEnv} {channel : Nat} {w : Windows}
    (opens : (w.opened || env.openLocalMachine || env.openCurrentUser) = true) :
    WindowsReader.getBoundDataSource nvidiaGpuFound env channel w =
      WindowsReader.getBoundDataSource nvidiaGpuFound env channel { w with opened := true } := by
  unfold WindowsReader.getBoundDataSource
  rw [if_pos opens, if_pos (by simp)]

/-! ## One call on both keys -/

section calls
variable {hive : Hive} {s : Hosted}

theorem read_reader {w : Windows} (opened : w.opened = (s.registryKey == some hive)) :
    (s.read hive w).reader hive = w := by
  unfold Hosted.read Hosted.reader
  dsimp only
  rw [Function.update_self, ← opened]

theorem read_other {other : Hive} (different : other ≠ hive) (w : Windows) :
    (s.read hive w).hives other = s.hives other := Function.update_of_ne different _ _

theorem getBoundDataSource_key (nvidiaGpuFound : Bool) (env : RegistryEnv) (channel : Nat) :
    (getBoundDataSource nvidiaGpuFound env channel s).1.registryKey =
    s.registryKey.or (regCreateKeyEx env) := by
  unfold getBoundDataSource
  split
  next closed =>
    rw [Option.or_eq_none_iff] at closed
    rw [closed.1, closed.2]
    rfl
  next opens => rw [opens]; rfl

/-- A call is that of the reader of the key it works on, and leaves the other key alone. -/
theorem getBoundDataSource_reads {nvidiaGpuFound : Bool} {env : RegistryEnv} {channel : Nat}
    (uses : Uses hive (s.registryKey.or (regCreateKeyEx env))) :
    WindowsReader.getBoundDataSource nvidiaGpuFound env channel (s.reader hive) =
        ((getBoundDataSource nvidiaGpuFound env channel s).1.reader hive,
          (getBoundDataSource nvidiaGpuFound env channel s).2) ∧
      (∀ other ≠ hive, (getBoundDataSource nvidiaGpuFound env channel s).1.hives other =
        s.hives other) ∧
      ((getBoundDataSource nvidiaGpuFound env channel s).2 = .returned .success →
        s.registryKey.or (regCreateKeyEx env) = some hive) := by
  rcases uses with closed | opens
  · have called : getBoundDataSource nvidiaGpuFound env channel s =
      (s, .returned .invalidConfiguration) := by
      simp only [getBoundDataSource, closed]
    rw [called]
    refine ⟨?_, fun _ _ => rfl, nofun⟩
    rw [Option.or_eq_none_iff] at closed
    have shut : (env.openLocalMachine || env.openCurrentUser) = false := by
      have denied := closed.2
      unfold regCreateKeyEx at denied
      cases machine : env.openLocalMachine <;> cases user : env.openCurrentUser <;> simp_all
    unfold WindowsReader.getBoundDataSource
    rw [if_neg]
    simp [Hosted.reader, closed.1, shut]
  · have called : getBoundDataSource nvidiaGpuFound env channel s =
        (({ s with registryKey := some hive } : Hosted).read hive
          (WindowsReader.getBoundDataSource nvidiaGpuFound env channel
            { s.reader hive with opened := true }).1,
        (WindowsReader.getBoundDataSource nvidiaGpuFound env channel
          { s.reader hive with opened := true }).2) := by
      simp [getBoundDataSource, opens, Hosted.reader]
    have opening : ((s.reader hive).opened || env.openLocalMachine || env.openCurrentUser) =
      true := by
      unfold regCreateKeyEx at opens
      cases key : s.registryKey with
      | some held =>
        rw [key, Option.some_or, Option.some.injEq] at opens
        simp [Hosted.reader, key, opens]
      | none =>
        rw [key, Option.none_or] at opens
        cases machine : env.openLocalMachine <;> cases user : env.openCurrentUser <;> simp_all
    rw [called, reader_opens opening]
    refine ⟨?_, fun other different => read_other different _, fun _ => opens⟩
    rw [read_reader]
    rw [reader_opened rfl]
    simp

/-- A setter is that of the reader of the key it works on. -/
theorem onKey_reads (uses : Uses hive s.registryKey) (succeeds : Bool) (key : String)
    (data : List UInt8) (change : Tables → Tables) :
    let setter (w : Windows) :=
      WindowsReader.setValue succeeds key data { w with tables := change w.tables }
    setter (s.reader hive) = ((onKey setter s).1.reader hive, (onKey setter s).2) ∧
      (onKey setter s).1.registryKey = s.registryKey ∧
      ∀ other ≠ hive, (onKey setter s).1.hives other = s.hives other := by
  intro setter
  rcases uses with closed | opened
  · have called : onKey setter s =
        ({ s with tables := change s.tables }, .returned .invalidConfiguration) := by
      simp [onKey, closed, setter, WindowsReader.setValue]
    rw [called]
    refine ⟨?_, rfl, fun _ _ => rfl⟩
    simp [setter, WindowsReader.setValue, Hosted.reader, closed]
  · have called : onKey setter s =
      (s.read hive (setter (s.reader hive)).1, (setter (s.reader hive)).2) := by
      simp only [onKey, opened]
    rw [called]
    refine ⟨?_, rfl, fun other different => read_other different _⟩
    rw [read_reader]
    exact WindowsReader.setValue_opened succeeds key data _

/-- An initialisation is that of the reader of the key it leaves. -/
theorem loop_reads {nvidiaGpuFound : Bool} {envs : Nat → RegistryEnv} {count : Nat}
    (later : Uses hive (keyAfter s.registryKey (.initializeBinding nvidiaGpuFound envs count))) :
    performOn (s.reader hive) (.initializeBinding nvidiaGpuFound envs count) =
        ((perform s (.initializeBinding nvidiaGpuFound envs count)).1.reader hive,
          (perform s (.initializeBinding nvidiaGpuFound envs count)).2) ∧
      (perform s (.initializeBinding nvidiaGpuFound envs count)).1.registryKey =
        keyAfter s.registryKey (.initializeBinding nvidiaGpuFound envs count) ∧
      ∀ other ≠ hive, (perform s (.initializeBinding nvidiaGpuFound envs count)).1.hives other =
        s.hives other := by
  by_cases empty : count = 0
  · subst empty
    exact ⟨rfl, rfl, fun _ _ => rfl⟩
  · have positive : 0 < count := Nat.pos_of_ne_zero empty
    have key : keyAfter s.registryKey (.initializeBinding nvidiaGpuFound envs count) =
        s.registryKey.or (regCreateKeyEx (envs 0)) := if_pos positive
    rw [key] at later ⊢
    -- the first call decides the key, and the others find it open
    let begun : Nat → Hosted → Prop := fun i t =>
      (∀ other ≠ hive, t.hives other = s.hives other) ∧
      (i = 0 → t.registryKey = s.registryKey) ∧
      (0 < i → t.registryKey = some hive ∧ s.registryKey.or (regCreateKeyEx (envs 0)) = some hive)
    let left : Hosted → Prop := fun t =>
      t.registryKey = s.registryKey.or (regCreateKeyEx (envs 0)) ∧
        ∀ other ≠ hive, t.hives other = s.hives other
    have calls : ∀ i t, i < count → begun i t →
        WindowsReader.getBoundDataSource nvidiaGpuFound (envs i) i (t.reader hive) =
          ((getBoundDataSource nvidiaGpuFound (envs i) i t).1.reader hive,
            (getBoundDataSource nvidiaGpuFound (envs i) i t).2) ∧
        left (getBoundDataSource nvidiaGpuFound (envs i) i t).1 ∧
        ((getBoundDataSource nvidiaGpuFound (envs i) i t).2 = .returned .success →
          begun (i + 1) (getBoundDataSource nvidiaGpuFound (envs i) i t).1) := by
      rintro i t _ ⟨others, first, rest⟩
      have tries : t.registryKey.or (regCreateKeyEx (envs i)) =
        s.registryKey.or (regCreateKeyEx (envs 0)) := by
        by_cases zero : i = 0
        · rw [first zero, zero]
        · obtain ⟨held, opens⟩ := rest (Nat.pos_of_ne_zero zero)
          rw [held, opens, Option.some_or]
      obtain ⟨same, others', opened⟩ :=
        @getBoundDataSource_reads hive t nvidiaGpuFound (envs i) i (tries ▸ later)
      have keyIs := @getBoundDataSource_key t nvidiaGpuFound (envs i) i
      rw [tries] at keyIs opened
      have frame : ∀ other ≠ hive,
          (getBoundDataSource nvidiaGpuFound (envs i) i t).1.hives other = s.hives other :=
        fun other different => (others' other different).trans (others other different)
      exact ⟨same, ⟨keyIs, frame⟩, fun success =>
        ⟨frame, nofun, fun _ => ⟨keyIs.trans (opened success), opened success⟩⟩⟩
    have start : begun 0 { s with tables := Tables.zeroed count } :=
      ⟨fun _ _ => rfl, fun _ => rfl, fun negative => absurd negative (Nat.lt_irrefl 0)⟩
    obtain ⟨same, rest⟩ :=
      @bindLoop_simulates Hosted _ begun count Windows _ (·.reader hive) left calls
      count 0 { s with tables := Tables.zeroed count } (Nat.zero_add count) start
    exact ⟨same, rest positive⟩

/-- An event is that of the reader of the key it leaves. -/
theorem perform_reads (uses : Uses hive s.registryKey) {e : Event}
    (later : Uses hive (keyAfter s.registryKey e)) :
    performOn (s.reader hive) e = ((perform s e).1.reader hive, (perform s e).2) ∧
      (perform s e).1.registryKey = keyAfter s.registryKey e ∧
      ∀ other ≠ hive, (perform s e).1.hives other = s.hives other := by
  cases e with
  | initializeBinding nvidiaGpuFound envs count => exact loop_reads later
  | setChannelSourceBinding nvidiaGpuFound succeeds channel bindingName =>
    exact onKey_reads uses succeeds (WindowsReader.channelKey channel)
      (WindowsReader.stored bindingName)
      (·.setCallback channel (WindowsReader.nameStringToCallback nvidiaGpuFound bindingName))
  | clearBinding channel => exact ⟨rfl, rfl, fun _ _ => rfl⟩
  | setChannelCalibration succeeds channel calibration =>
    exact onKey_reads uses succeeds (WindowsReader.calibrationKey channel) (dword calibration)
      (·.setCalibration channel calibration)

end calls

/-! ## One process -/

/-- An open key stays. -/
theorem keyAfter_opened (hive : Hive) (e : Event) : keyAfter (some hive) e = some hive := by
  unfold keyAfter
  split
  · split <;> rfl
  · rfl

theorem keysAfter_opened (hive : Hive) (events : List Event) :
    events.foldl keyAfter (some hive) = some hive := by
  induction events with
  | nil => rfl
  | cons e events ih => rw [List.foldl_cons, keyAfter_opened, ih]

/-- The key a process ends with is the only one it has ever had. -/
theorem uses_first {hive : Hive} {registryKey : Option Hive} {events : List Event}
    (last : Uses hive (events.foldl keyAfter registryKey)) : Uses hive registryKey := by
  cases registryKey with
  | none => exact Or.inl rfl
  | some held =>
    rw [keysAfter_opened] at last
    exact last

theorem record_reads {hive : Hive} {seen : Seen Hosted} {events : List Event}
    (uses : Uses hive (events.foldl keyAfter seen.state.registryKey)) :
    events.foldl (record performOn) ⟨seen.state.reader hive, seen.outcomes⟩ =
        ⟨(events.foldl (record perform) seen).state.reader hive,
          (events.foldl (record perform) seen).outcomes⟩ ∧
      ∀ other ≠ hive, (events.foldl (record perform) seen).state.hives other =
        seen.state.hives other := by
  induction events generalizing seen with
  | nil => exact ⟨rfl, fun _ _ => rfl⟩
  | cons e events ih =>
    rw [List.foldl_cons] at uses
    have now : Uses hive seen.state.registryKey := by
      have whole : Uses hive ((e :: events).foldl keyAfter seen.state.registryKey) := uses
      exact uses_first whole
    obtain ⟨same, key, others⟩ := perform_reads now (uses_first uses)
    rw [← key] at uses
    obtain ⟨rest, restOthers⟩ := @ih (record perform seen e) uses
    rw [List.foldl_cons, List.foldl_cons]
    refine ⟨?_, fun other different => (restOthers other different).trans (others other different)⟩
    rw [← rest]
    unfold record
    rw [same]

/-- A process on a key is the process that has this key alone. -/
theorem process_reads (hives : Hive → RegistryKey) {hive : Hive} {events : List Event}
    (uses : Uses hive (hiveOf events)) :
    processOn (hives hive) events =
      ⟨(process hives events).state.reader hive, (process hives events).outcomes⟩ ∧
      ∀ other ≠ hive, (process hives events).state.hives other = hives other :=
  @record_reads hive ⟨⟨none, hives, Tables.zeroed 0⟩, []⟩ events uses

/-! ## Many processes -/

/-- Both keys after some processes. -/
def history (hives : Hive → RegistryKey) (processes : List (List Event)) : Hive → RegistryKey :=
  Runs.run (fun hives events => (process hives events).state.hives) hives processes

/-- One key after some processes. -/
def historyOn (registry : RegistryKey) (processes : List (List Event)) : RegistryKey :=
  Runs.run (fun registry events => (processOn registry events).state.registry) registry processes

/-- The processes that work on a key. -/
def ofHive (hive : Hive) (processes : List (List Event)) : List (List Event) :=
  processes.filter fun events => hiveOf events = some hive

/-- A process changes its own key alone. -/
theorem process_hives (hives : Hive → RegistryKey) (events : List Event) (hive : Hive) :
    (process hives events).state.hives hive =
      if hiveOf events = some hive then (processOn (hives hive) events).state.registry
      else hives hive := by
  cases key : hiveOf events with
  | none =>
    rw [if_neg (Option.some_ne_none hive).symm]
    -- neither key is open, so each is the other one's other
    cases hive with
    | localMachine =>
      exact (process_reads hives (Or.inl key)).2 .localMachine (by decide : _ ≠ Hive.currentUser)
    | currentUser =>
      exact (process_reads hives (Or.inl key)).2 .currentUser (by decide : _ ≠ Hive.localMachine)
  | some held =>
    by_cases same : held = hive
    · rw [if_pos (congrArg some same), (process_reads hives (Or.inr (same ▸ key))).1]
      rfl
    · rw [if_neg fun equal => same (Option.some.inj equal)]
      exact (process_reads hives (Or.inr key)).2 hive (Ne.symm same)

/-- A key is left by a history as by the processes on it, each alone with the key; a later
process on it has the entries and gets the outcomes it has after these alone. -/
theorem hives_separate (hives : Hive → RegistryKey) (processes : List (List Event))
    (events : List Event) (hive : Hive) :
    history hives processes hive = historyOn (hives hive) (ofHive hive processes) ∧
      (hiveOf events = some hive →
        let alone := processOn (historyOn (hives hive) (ofHive hive processes)) events
        (process (history hives processes) events).state.tables = alone.state.tables ∧
          (process (history hives processes) events).outcomes = alone.outcomes) := by
  have left : history hives processes hive = historyOn (hives hive) (ofHive hive processes) := by
    induction processes generalizing hives with
    | nil => rfl
    | cons first rest ih =>
      have later : history hives (first :: rest) hive =
          historyOn ((process hives first).state.hives hive) (ofHive hive rest) := ih _
      rw [later, process_hives]
      unfold ofHive
      by_cases works : hiveOf first = some hive
      · rw [if_pos works, List.filter_cons_of_pos (by simpa using works)]
        rfl
      · rw [if_neg works, List.filter_cons_of_neg (by simpa using works)]
  refine ⟨left, fun uses => ?_⟩
  have alone := (process_reads (history hives processes) (Or.inr uses)).1
  rw [left] at alone
  dsimp only
  rw [alone]
  exact ⟨rfl, rfl⟩

/-- Every registry call succeeds, on the user's key unless the process is elevated. -/
def rights (elevated : Bool) (_channel : Nat) : RegistryEnv where
  openLocalMachine := elevated
  openCurrentUser := true
  keyValueBuffer := List.replicate 64 0
  undefinedData := []
  setName := true
  setCalibration := true

/-- A user binds and calibrates the only channel. -/
def userSession : List Event :=
  [.initializeBinding false (rights false) 1,
    .setChannelSourceBinding false true 0 Names.calibration, .setChannelCalibration true 0 200]

/-- An elevated process then starts as if nothing had ever been set. -/
theorem hives_separate_elevated :
    (process (history (fun _ _ => none) [userSession])
      [.initializeBinding false (rights true) 1]).state.tables =
      ⟨[none], [0x80]⟩ := by
  have alone := (hives_separate (fun _ _ => none) [userSession]
    [.initializeBinding false (rights true) 1] .localMachine).2 rfl
  exact alone.1.trans rfl

end PerformancePanel.Guarantees.HiveSeparation
