import PerformancePanel.Source.WindowsReader

/-!
# Loading the registry key

What `initialize_data_source_binding` makes of the stored values when every registry
call succeeds. A binding name counts when it fits the 32 bytes of the query; a missing or
longer one is replaced by `Unallocated`. A terminated name is read the same whatever the
local buffer held (`readName_reads`), so the entries of a loaded process are those of the
stored values alone (`start_loads`).
-/
set_option autoImplicit false

namespace PerformancePanel.Source.WindowsLoad
open Common DataSources Collector Registry WindowsReader

/-- The binding name a start takes from a stored value. -/
def nameOfValue : Option (List UInt8) → Name
  | some data =>
    if data.length ≤ keyValueBufferSize then Name.ofBuffer (units data) else Names.unallocated
  | none => Names.unallocated

/-- The same over what `key_value_buffer` held before the query. -/
def takenName (keyValueBuffer : List UInt8) : Option (List UInt8) → Name
  | some data =>
    if data.length ≤ keyValueBufferSize then
      Name.ofBuffer (units (data ++ keyValueBuffer.drop data.length))
    else Names.unallocated
  | none => Names.unallocated

/-- The name a stored value spells. -/
def storedName : Option (List UInt8) → Name
  | some data => Name.ofBuffer (units data)
  | none => Names.unallocated

/-- A stored value short enough to be queried has its NUL. -/
def Terminated (value : Option (List UInt8)) : Prop :=
  ∀ data, value = some data → data.length ≤ keyValueBufferSize → (0 : CharT) ∈ units data

/-- Every registry call of one `get_bound_data_source` succeeds. -/
structure EnvSucceeds (env : RegistryEnv) : Prop where
  opens : (env.openLocalMachine || env.openCurrentUser) = true
  setName : env.setName = true
  setCalibration : env.setCalibration = true

/-! ## Keys -/

theorem channelKey_injective {c c' : Nat} (h : channelKey c = channelKey c') : c = c' :=
  Names.numbered_injective "Channel" h

theorem calibrationKey_injective {c c' : Nat} (h : calibrationKey c = calibrationKey c') : c = c' :=
  Names.numbered_injective "Calibration" h

theorem channelKey_ne_calibrationKey (c c' : Nat) : channelKey c ≠ calibrationKey c' :=
  Names.numbered_ne (by decide) (by decide)

/-! ## Stored names -/

/-- A name whose byte count fits a `DWORD` is stored with its NUL. -/
theorem stored_whole {name : Name} (nonempty : name.units ≠ [])
    (fits : name.units.length < 2 ^ 31) :
    stored name = bytes (name.units ++ [0]) := by
  have count : (stringByteCount name).toNat = 2 * name.units.length := by
    simp only [stringByteCount, UInt32.toNat_mul, UInt32.toNat_ofNat']
    show name.units.length % 2 ^ 32 * 2 % 2 ^ 32 = _
    omega
  rw [stored, count]
  exact storedString_whole name nonempty

/-- The listed names fill at most the 32 bytes of a query with their NUL. -/
theorem listed_short {name : Name} (listed : name ∈ dataSourceNames) :
    name.units ≠ [] ∧ name.units.length ≤ 15 := by
  have all : ∀ known ∈ dataSourceNames, known.units ≠ [] ∧ known.units.length ≤ 15 := by decide
  exact all name listed

theorem terminated_bytes (name : Name) : Terminated (some (bytes (name.units ++ [0]))) := by
  intro data same _
  rw [Option.some.injEq] at same
  rw [← same, units_bytes]
  exact List.mem_append_right _ (List.mem_singleton.mpr rfl)

/-- Reading back a name with its NUL: it has at most 15 characters, or it is replaced. -/
theorem nameOfValue_bytes (name : Name) :
    nameOfValue (some (bytes (name.units ++ [0]))) =
      if name.units.length ≤ 15 then name else Names.unallocated := by
  have length : (bytes (name.units ++ [0])).length = 2 * (name.units.length + 1) := by
    rw [bytes_length, List.length_append, List.length_singleton]
  show (if (bytes (name.units ++ [0])).length ≤ keyValueBufferSize then
    Name.ofBuffer (units (bytes (name.units ++ [0]))) else Names.unallocated) = _
  rw [length, ofBuffer_bytes]
  unfold keyValueBufferSize
  by_cases short : name.units.length ≤ 15
  · rw [if_pos short, if_pos (by omega)]
  · rw [if_neg short, if_neg (by omega)]

theorem nameStringToCallback_unallocated (nvidiaGpuFound : Bool) :
    nameStringToCallback nvidiaGpuFound Names.unallocated = none := by
  cases nvidiaGpuFound <;> decide

/-- A name with a source is the one reported for it. -/
theorem name_of_source {nvidiaGpuFound : Bool} {name : Name} {source : DataSource}
    (bound : nameStringToCallback nvidiaGpuFound name = some source) :
    callbackToNameString (some source) = name := by
  unfold nameStringToCallback at bound
  split at bound
  next same => cases bound; exact same.symm
  split at bound
  next same => cases bound; exact same.symm
  split at bound
  next same =>
    cases nvidiaGpuFound with
    | true => cases bound; exact same.symm
    | false => cases bound
  split at bound
  next same =>
    cases nvidiaGpuFound with
    | true => cases bound; exact same.symm
    | false => cases bound
  split at bound
  next same => cases bound; exact same.symm
  next => cases bound

/-- Every name with a source has at most 15 characters. -/
theorem nameStringToCallback_long (nvidiaGpuFound : Bool) {name : Name}
    (long : ¬ name.units.length ≤ 15) : nameStringToCallback nvidiaGpuFound name = none := by
  have different (known : Name) (short : known.units.length ≤ 15) : name ≠ known := by
    intro same
    rw [same] at long
    exact long short
  unfold nameStringToCallback
  rw [if_neg (different Names.calibration (by decide)),
    if_neg (different Names.cpuUtility (by decide)),
    if_neg (different Names.gpuUtility (by decide)),
    if_neg (different Names.gpuTemperature (by decide)),
    if_neg (different Names.ramUtility (by decide))]

/-- A start finds the source of the stored name, whatever the name's length. -/
theorem callback_of_bytes (nvidiaGpuFound : Bool) (name : Name) :
    nameStringToCallback nvidiaGpuFound (nameOfValue (some (bytes (name.units ++ [0])))) =
      nameStringToCallback nvidiaGpuFound name := by
  rw [nameOfValue_bytes]
  by_cases short : name.units.length ≤ 15
  · rw [if_pos short]
  · rw [if_neg short, nameStringToCallback_unallocated, nameStringToCallback_long _ short]

/-- A stored value that every start takes as the source of the name it spells. -/
structure Restartable (nvidiaGpuFound : Bool) (value : Option (List UInt8)) : Prop where
  terminated : Terminated value
  source : nameStringToCallback nvidiaGpuFound (nameOfValue value) =
    nameStringToCallback nvidiaGpuFound (storedName value)

theorem restartable_bytes (nvidiaGpuFound : Bool) (name : Name) :
    Restartable nvidiaGpuFound (some (bytes (name.units ++ [0]))) := by
  refine ⟨terminated_bytes name, ?_⟩
  rw [callback_of_bytes, storedName, ofBuffer_bytes]

theorem restartable_short (nvidiaGpuFound : Bool) {data : List UInt8}
    (short : data.length ≤ keyValueBufferSize) (terminated : Terminated (some data)) :
    Restartable nvidiaGpuFound (some data) := by
  have queried : nameOfValue (some data) = storedName (some data) := if_pos short
  exact ⟨terminated, by rw [queried]⟩

/-! ## One channel -/

section channel
variable {env : RegistryEnv} {channel : Nat} {s : Windows}

/-- A terminated name is taken as it is stored. -/
theorem takenName_terminated {value : Option (List UInt8)} (terminated : Terminated value)
    (keyValueBuffer : List UInt8) : takenName keyValueBuffer value = nameOfValue value := by
  cases value with
  | none => rfl
  | some data =>
    by_cases short : data.length ≤ keyValueBufferSize
    · simp only [takenName, nameOfValue, if_pos short,
        ofBuffer_terminated (terminated data rfl short)]
    · simp only [takenName, nameOfValue, if_neg short]

/-- What reading the name does with the stored value: one that can be queried stays, any
other is replaced. -/
inductive NameKept : Option (List UInt8) → Option (List UInt8) → Prop
  | queried (data : List UInt8) (short : data.length ≤ keyValueBufferSize) :
    NameKept (some data) (some data)
  | replaced (value : Option (List UInt8)) (unusable : nameOfValue value = Names.unallocated) :
    NameKept value (some (stored Names.unallocated))

theorem NameKept.same {before after : Option (List UInt8)} (kept : NameKept before after) :
    nameOfValue after = nameOfValue before := by
  cases kept with
  | queried data short => rfl
  | replaced value unusable =>
    rw [unusable, stored_whole (by decide) (by decide), nameOfValue_bytes]
    exact if_pos (by decide)

/-- A name stored with its NUL that a start can query is left as it is. -/
theorem nameKept_bytes {name : Name} (short : name.units.length ≤ 15) {after : Option (List UInt8)}
    (kept : NameKept (some (bytes (name.units ++ [0]))) after) :
    after = some (bytes (name.units ++ [0])) := by
  generalize before : some (bytes (name.units ++ [0])) = value at kept
  cases kept with
  | queried data _ => rfl
  | replaced value unusable =>
    rw [← before, nameOfValue_bytes, if_pos short] at unusable
    rw [← before, unusable, stored_whole (by decide) (by decide)]

/-- The value left is one that later starts take alike. -/
theorem NameKept.restartable {before after : Option (List UInt8)} (kept : NameKept before after)
    (terminated : Terminated before) (nvidiaGpuFound : Bool) :
    Restartable nvidiaGpuFound after := by
  cases kept with
  | queried data short => exact restartable_short nvidiaGpuFound short terminated
  | replaced value unusable =>
    rw [stored_whole (by decide) (by decide)]
    exact restartable_bytes nvidiaGpuFound Names.unallocated

/-- The name half of a call takes the stored name, whatever the key holds. -/
theorem readName_takes (succeeds : env.setName = true) :
    ∃ registry, readName env channel s = ({ s with registry := registry },
        some (takenName env.keyValueBuffer (s.registry (channelKey channel)))) ∧
      NameKept (s.registry (channelKey channel)) (registry (channelKey channel)) ∧
      ∀ key, key ≠ channelKey channel → registry key = s.registry key := by
  have stores {value : Option (List UInt8)} (unusable : nameOfValue value = Names.unallocated) :
      NameKept value (regSetValueEx s.registry (channelKey channel) (stored Names.unallocated)
        (channelKey channel)) := by
    rw [regSetValueEx_self]
    exact .replaced value unusable
  cases found : s.registry (channelKey channel) with
  | none =>
    refine ⟨_, ?_, stores rfl, fun key different => regSetValueEx_ne _ different _⟩
    simp [readName, regQueryValueEx, found, succeeds, takenName]
  | some data =>
    by_cases short : data.length ≤ keyValueBufferSize
    · refine ⟨s.registry, ?_, ?_, fun _ _ => rfl⟩
      · simp only [readName, regQueryValueEx, found, if_pos short, takenName]
      · rw [found]
        exact .queried data short
    · refine ⟨_, ?_, stores (if_neg short), fun key different => regSetValueEx_ne _ different _⟩
      simp [readName, regQueryValueEx, found, short, succeeds, takenName]

/-- What reading the calibration leaves: a stored `DWORD` of a byte is taken, a missing
value is stored with the default. -/
structure CalibrationRead (channel : Nat) (keyCalibration : UInt8) (before after : RegistryKey)
    (value : UInt8) : Prop where
  present : ∀ w, before (calibrationKey channel) = some (dword w) →
    value = w ∧ after (calibrationKey channel) = some (dword w)
  missing : before (calibrationKey channel) = none →
    value = keyCalibration ∧ after (calibrationKey channel) = some (dword keyCalibration)
  frame : ∀ key, key ≠ calibrationKey channel → after key = before key

theorem readCalibration_reads (succeeds : env.setCalibration = true) (keyCalibration : UInt8) :
    ∃ registry value, readCalibration env channel keyCalibration s =
        ({ s with registry := registry }, some value) ∧
      CalibrationRead channel keyCalibration s.registry registry value := by
  cases found : s.registry (calibrationKey channel) with
  | none =>
    refine ⟨regSetValueEx s.registry (calibrationKey channel) (dword keyCalibration),
      keyCalibration, ?_, ?_, fun _ => ⟨rfl, regSetValueEx_self _ _ _⟩,
      fun key different => regSetValueEx_ne _ different _⟩
    · simp [readCalibration, regQueryValueEx, found, succeeds, lowByte, dword]
    · intro w same
      rw [found] at same
      cases same
  | some data =>
    by_cases short : data.length ≤ 4
    · refine ⟨s.registry, lowByte (data ++ (dword keyCalibration).drop data.length), ?_, ?_, ?_,
        fun _ _ => rfl⟩
      · simp [readCalibration, regQueryValueEx, found, short]
      · intro w same
        rw [found, Option.some.injEq] at same
        subst same
        exact ⟨rfl, found⟩
      · intro absent
        rw [found] at absent
        cases absent
    · refine ⟨regSetValueEx s.registry (calibrationKey channel) env.undefinedData,
        lowByte env.undefinedData, ?_, ?_, ?_, fun key different => regSetValueEx_ne _ different _⟩
      · simp [readCalibration, regQueryValueEx, found, short, succeeds]
      · intro w same
        rw [found, Option.some.injEq] at same
        subst same
        exact absurd (by simp [dword]) short
      · intro absent
        rw [found] at absent
        cases absent

/-- One call whose registry calls succeed. -/
theorem getBoundDataSource_takes {nvidiaGpuFound : Bool} (succeeds : EnvSucceeds env) :
    ∃ registry₁ registry₂ value,
      getBoundDataSource nvidiaGpuFound env channel s =
        (⟨true, registry₂, (s.tables.setCallback channel (nameStringToCallback nvidiaGpuFound
          (takenName env.keyValueBuffer (s.registry (channelKey channel))))).setCalibration
          channel value⟩,
          .returned .success) ∧
      NameKept (s.registry (channelKey channel)) (registry₁ (channelKey channel)) ∧
      (∀ key, key ≠ channelKey channel → registry₁ key = s.registry key) ∧
      CalibrationRead channel (defaultCalibration
        (takenName env.keyValueBuffer (s.registry (channelKey channel)))) registry₁ registry₂
        value := by
  have opens : (s.opened || env.openLocalMachine || env.openCurrentUser) = true := by
    rw [Bool.or_assoc, succeeds.opens, Bool.or_true]
  obtain ⟨registry₁, named, kept, frame⟩ :=
    @readName_takes env channel { s with opened := true } succeeds.setName
  obtain ⟨registry₂, value, calibrated, calibrationRead⟩ :=
    readCalibration_reads (s := ⟨true, registry₁, s.tables.setCallback channel
      (nameStringToCallback nvidiaGpuFound
        (takenName env.keyValueBuffer (s.registry (channelKey channel))))⟩)
      succeeds.setCalibration
      (defaultCalibration (takenName env.keyValueBuffer (s.registry (channelKey channel))))
  refine ⟨registry₁, registry₂, value, ?_, kept, frame, calibrationRead⟩
  unfold getBoundDataSource
  rw [if_pos opens, named]
  dsimp only at calibrated ⊢
  rw [calibrated]

/-- The two halves write the key only. -/
theorem readName_frame : (readName env channel s).1.tables = s.tables ∧
    (readName env channel s).1.opened = s.opened := by
  unfold readName
  split
  · exact ⟨rfl, rfl⟩
  · split <;> exact ⟨rfl, rfl⟩

theorem readCalibration_frame (keyCalibration : UInt8) :
    (readCalibration env channel keyCalibration s).1.tables = s.tables ∧
      (readCalibration env channel keyCalibration s).1.opened = s.opened := by
  unfold readCalibration
  split
  · exact ⟨rfl, rfl⟩
  · split <;> exact ⟨rfl, rfl⟩

/-- A call sets nothing, or the callback of its channel alone, or both entries and succeeds. -/
theorem getBoundDataSource_cases (nvidiaGpuFound : Bool) (env : RegistryEnv) (channel : Nat)
    (s : Windows) :
    let called := getBoundDataSource nvidiaGpuFound env channel s
    (called.1.tables = s.tables ∧ called.2 = .returned .invalidConfiguration) ∨
      ∃ name, let bound := s.tables.setCallback channel (nameStringToCallback nvidiaGpuFound name)
        (called.1.tables = bound ∧ called.2 = .returned .invalidConfiguration) ∨
        ∃ value, called.1.tables = bound.setCalibration channel value ∧
          called.2 = .returned .success := by
  unfold getBoundDataSource
  split
  next =>
    have named := (@readName_frame env channel { s with opened := true }).1
    split
    next s₁ read =>
      rw [read] at named
      exact Or.inl ⟨named, rfl⟩
    next s₁ name read =>
      rw [read] at named
      have calibrated := (@readCalibration_frame env channel { s₁ with
        tables := s₁.tables.setCallback channel (nameStringToCallback nvidiaGpuFound name) }
        (defaultCalibration name)).1
      dsimp only at named calibrated
      rw [named] at calibrated
      refine Or.inr ⟨name, ?_⟩
      rw [named]
      split
      next s₂ read₂ =>
        rw [read₂] at calibrated
        exact Or.inl ⟨calibrated, rfl⟩
      next s₂ value read₂ =>
        rw [read₂] at calibrated
        exact Or.inr ⟨value, congrArg (·.setCalibration channel value) calibrated, rfl⟩
  next => exact Or.inl ⟨rfl, rfl⟩

/-- However a call ends, the arrays keep their lengths; with success the key is open. -/
theorem getBoundDataSource_keeps {nvidiaGpuFound : Bool} {count : Nat}
    (sized : s.tables.Sized count) :
    (getBoundDataSource nvidiaGpuFound env channel s).1.tables.Sized count ∧
      ((getBoundDataSource nvidiaGpuFound env channel s).2 = .returned .success →
        (getBoundDataSource nvidiaGpuFound env channel s).1.opened = true) := by
  unfold getBoundDataSource
  split
  · have named := @readName_frame env channel { s with opened := true }
    split
    next s₁ read =>
      rw [read] at named
      exact ⟨by rw [named.1]; exact sized, nofun⟩
    next s₁ name read =>
      rw [read] at named
      have calibrated := @readCalibration_frame env channel { s₁ with
        tables := s₁.tables.setCallback channel (nameStringToCallback nvidiaGpuFound name) }
        (defaultCalibration name)
      have sized₁ := (Tables.setCallback_sized s.tables channel count
        (nameStringToCallback nvidiaGpuFound name)).mpr sized
      split
      next s₂ read₂ =>
        rw [read₂] at calibrated
        exact ⟨by rw [calibrated.1, named.1]; exact sized₁, nofun⟩
      next s₂ value read₂ =>
        rw [read₂] at calibrated
        refine ⟨?_, fun _ => calibrated.2.trans named.2⟩
        rw [Tables.setCalibration_sized, calibrated.1, named.1]
        exact sized₁
  · exact ⟨sized, nofun⟩

end channel

/-! ## All channels -/

/-- The loop of `initialize_data_source_binding` at channel `i`, started on `registry`. -/
structure TakenUpTo (nvidiaGpuFound : Bool) (envs : Nat → RegistryEnv) (registry : RegistryKey)
    (count i : Nat) (s : Windows) : Prop where
  opened : 0 < i → s.opened = true
  sized : s.tables.Sized count
  named : ∀ c < i, NameKept (registry (channelKey c)) (s.registry (channelKey c)) ∧
    s.tables.callback c = nameStringToCallback nvidiaGpuFound
      (takenName (envs c).keyValueBuffer (registry (channelKey c)))
  calibrated : ∀ c < i,
    (∀ w, registry (calibrationKey c) = some (dword w) →
      s.tables.calibration c = w ∧ s.registry (calibrationKey c) = some (dword w)) ∧
    (registry (calibrationKey c) = none →
      s.tables.calibration c = defaultCalibration
        (takenName (envs c).keyValueBuffer (registry (channelKey c))) ∧
      s.registry (calibrationKey c) = some (dword (s.tables.calibration c)))
  later : ∀ c, i ≤ c → s.registry (channelKey c) = registry (channelKey c) ∧
    s.registry (calibrationKey c) = registry (calibrationKey c)

section loop
variable {nvidiaGpuFound : Bool} {registry : RegistryKey} {count : Nat} {envs : Nat → RegistryEnv}

theorem getBoundDataSource_taken {i : Nat} {s : Windows} (below : i < count)
    (succeeds : EnvSucceeds (envs i)) (before : TakenUpTo nvidiaGpuFound envs registry count i s) :
    ∃ s', getBoundDataSource nvidiaGpuFound (envs i) i s = (s', .returned .success) ∧
      TakenUpTo nvidiaGpuFound envs registry count (i + 1) s' := by
  have here := before.later i (le_refl i)
  obtain ⟨registry₁, registry₂, value, called, kept, frame, calibrationRead⟩ :=
    @getBoundDataSource_takes (envs i) i s nvidiaGpuFound succeeds
  refine ⟨_, called, ?_⟩
  have sized₁ := (Tables.setCallback_sized s.tables i count (nameStringToCallback nvidiaGpuFound
    (takenName (envs i).keyValueBuffer (s.registry (channelKey i))))).mpr before.sized
  -- The name key survives the calibration half, and other channels' keys both halves.
  have nameKey : ∀ c, registry₂ (channelKey c) = registry₁ (channelKey c) := fun c =>
    calibrationRead.frame _ (channelKey_ne_calibrationKey c i)
  have calibrationKept : ∀ c, registry₁ (calibrationKey c) = s.registry (calibrationKey c) :=
    fun c =>
    frame _ (Ne.symm (channelKey_ne_calibrationKey i c))
  have otherName : ∀ c, c ≠ i → registry₂ (channelKey c) = s.registry (channelKey c) := by
    intro c different
    rw [nameKey]
    exact frame _ fun same => different (channelKey_injective same)
  have otherCalibration : ∀ c, c ≠ i →
    registry₂ (calibrationKey c) = s.registry (calibrationKey c) := by
    intro c different
    rw [calibrationRead.frame _ fun same => different (calibrationKey_injective same)]
    exact calibrationKept c
  refine
    { opened := fun _ => rfl
      sized := (Tables.setCalibration_sized _ _ _ _).mpr sized₁
      named := ?_
      calibrated := ?_
      later := fun c reached => ?_ }
  · intro c reached
    dsimp only
    rw [Tables.callback_setCalibration]
    by_cases same : c = i
    · subst same
      rw [nameKey, Tables.callback_setCallback_self before.sized below, ← here.1]
      exact ⟨kept, rfl⟩
    · rw [otherName c same, Tables.callback_setCallback_ne _ same]
      exact before.named c (by omega)
  · intro c reached
    dsimp only
    by_cases same : c = i
    · subst same
      rw [Tables.calibration_setCalibration_self sized₁ below, ← here.1, ← here.2,
        ← calibrationKept]
      refine ⟨calibrationRead.present, fun missing => ?_⟩
      have stored := calibrationRead.missing missing
      rw [stored.1]
      exact ⟨rfl, stored.2⟩
    · rw [Tables.calibration_setCalibration_ne _ same, Tables.calibration_setCallback,
        otherCalibration c same]
      exact before.calibrated c (by omega)
  · have different : c ≠ i := by omega
    dsimp only
    rw [otherName c different, otherCalibration c different]
    exact before.later c (by omega)

/-- With both arrays allocated a start is its loop. -/
theorem start_bound {s : Windows} {outcome : Outcome} :
    start nvidiaGpuFound envs count registry = .bound s outcome ↔
      bindLoop (fun channel s => getBoundDataSource nvidiaGpuFound (envs channel) channel s) count 0
        (fresh registry (Tables.zeroed count)) = (s, outcome) := by
  simp only [start, initializeDataSourceBinding, Bool.and_self, if_true, Initialized.bound.injEq,
    Prod.ext_iff]

/-- The loop on zeroed arrays whose registry calls succeed succeeds, whatever the key holds
and whether or not it is open. -/
theorem loop_takes (nvidiaGpuFound opened : Bool) (registry : RegistryKey)
    (succeeds : ∀ c < count, EnvSucceeds (envs c)) :
    ∃ s, bindLoop
        (fun channel s => getBoundDataSource nvidiaGpuFound (envs channel) channel s) count 0
        ⟨opened, registry, Tables.zeroed count⟩ = (s, .returned .success) ∧
      TakenUpTo nvidiaGpuFound envs registry count count s := by
  have calls : ∀ i s, i < count → TakenUpTo nvidiaGpuFound envs registry count i s →
      ∃ s', getBoundDataSource nvidiaGpuFound (envs i) i s = (s', .returned .success) ∧
        TakenUpTo nvidiaGpuFound envs registry count (i + 1) s' := fun i s below before =>
    getBoundDataSource_taken below (succeeds i below) before
  have zeroed_taken : TakenUpTo nvidiaGpuFound envs registry count 0
      ⟨opened, registry, Tables.zeroed count⟩ :=
    { opened := fun positive => absurd positive (lt_irrefl 0)
      sized := Tables.zeroed_sized count
      named := fun _ negative => absurd negative (Nat.not_lt_zero _)
      calibrated := fun _ negative => absurd negative (Nat.not_lt_zero _)
      later := fun _ _ => ⟨rfl, rfl⟩ }
  exact bindLoop_total calls (Nat.zero_add count) zeroed_taken

/-- A start whose registry calls succeed succeeds. -/
theorem start_takes (nvidiaGpuFound : Bool) (registry : RegistryKey)
    (succeeds : ∀ c < count, EnvSucceeds (envs c)) :
    ∃ s, start nvidiaGpuFound envs count registry = .bound s (.returned .success) ∧
      TakenUpTo nvidiaGpuFound envs registry count count s := by
  obtain ⟨s, looped, taken⟩ := loop_takes nvidiaGpuFound false registry succeeds
  exact ⟨s, start_bound.mpr looped, taken⟩

/-- So the state of such a start is the one described. -/
theorem start_taken {s : Windows} {outcome : Outcome} (succeeds : ∀ c < count, EnvSucceeds (envs c))
    (started : start nvidiaGpuFound envs count registry = .bound s outcome) :
    TakenUpTo nvidiaGpuFound envs registry count count s := by
  obtain ⟨s', same, taken⟩ := start_takes nvidiaGpuFound registry succeeds
  rw [started, Initialized.bound.injEq] at same
  rw [same.1]
  exact taken

/-- A start leaves both arrays at the channel count, however it ends. -/
theorem start_sized {s : Windows} {outcome : Outcome}
    (started : start nvidiaGpuFound envs count registry = .bound s outcome) :
    s.tables.Sized count := by
  have looped := start_bound.mp started
  have kept : (bindLoop
    (fun channel s => getBoundDataSource nvidiaGpuFound (envs channel) channel s)
      count 0 (fresh registry (Tables.zeroed count))).1.tables.Sized count :=
    bindLoop_keeps (I := fun s : Windows => s.tables.Sized count)
      (fun _ _ _ sized => (getBoundDataSource_keeps sized).1) (Nat.zero_add count)
      (Tables.zeroed_sized count)
  rw [looped] at kept
  exact kept

/-- With a channel to bind, a successful start leaves the key open. -/
theorem start_opened {s : Windows}
    (started : start nvidiaGpuFound envs count registry = .bound s (.returned .success)) :
    0 < count → s.opened = true := by
  have bound : s.tables.Sized count ∧ (0 < count → s.opened = true) := by
    refine bindLoop_success (P := fun i s => s.tables.Sized count ∧ (0 < i → s.opened = true)) ?_
      (Nat.zero_add count)
        ⟨Tables.zeroed_sized count, fun negative => absurd negative (lt_irrefl 0)⟩
      (start_bound.mp started)
    intro i s s' _ before called
    have kept := @getBoundDataSource_keeps (envs i) i s nvidiaGpuFound count before.1
    rw [called] at kept
    exact ⟨kept.1, fun _ => kept.2 rfl⟩
  exact bound.2

end loop

/-- The same of a loop that has met terminated names: every entry is that of the stored
values. -/
structure LoadedUpTo (nvidiaGpuFound : Bool) (registry : RegistryKey) (count i : Nat)
    (s : Windows) : Prop where
  opened : 0 < i → s.opened = true
  sized : s.tables.Sized count
  named : ∀ c < i, nameOfValue (s.registry (channelKey c)) = nameOfValue (registry (channelKey c)) ∧
    Restartable nvidiaGpuFound (s.registry (channelKey c)) ∧
    s.tables.callback c =
      nameStringToCallback nvidiaGpuFound (nameOfValue (registry (channelKey c)))
  calibrated : ∀ c < i,
    (∀ w, registry (calibrationKey c) = some (dword w) →
      s.tables.calibration c = w ∧ s.registry (calibrationKey c) = some (dword w)) ∧
    (registry (calibrationKey c) = none →
      s.tables.calibration c = defaultCalibration (nameOfValue (registry (channelKey c))) ∧
      s.registry (calibrationKey c) = some (dword (s.tables.calibration c)))
  later : ∀ c, i ≤ c → s.registry (channelKey c) = registry (channelKey c) ∧
    s.registry (calibrationKey c) = registry (calibrationKey c)

/-- A start whose registry calls succeed, on terminated names, succeeds; every entry is
that of the stored values. -/
theorem start_loads (nvidiaGpuFound : Bool) {registry : RegistryKey} {count : Nat}
    {envs : Nat → RegistryEnv} (succeeds : ∀ c < count, EnvSucceeds (envs c))
    (terminated : ∀ c < count, Terminated (registry (channelKey c))) :
    ∃ s, start nvidiaGpuFound envs count registry = .bound s (.returned .success) ∧
      LoadedUpTo nvidiaGpuFound registry count count s := by
  obtain ⟨s, started, taken⟩ := start_takes nvidiaGpuFound registry succeeds
  refine ⟨s, started,
    { opened := taken.opened
      sized := taken.sized
      named := fun c below => ?_
      calibrated := fun c below => ?_
      later := taken.later }⟩
  · obtain ⟨kept, callback⟩ := taken.named c below
    rw [takenName_terminated (terminated c below)] at callback
    exact ⟨kept.same, kept.restartable (terminated c below) nvidiaGpuFound, callback⟩
  · obtain ⟨present, missing⟩ := taken.calibrated c below
    rw [takenName_terminated (terminated c below)] at missing
    exact ⟨present, missing⟩

theorem start_loaded {nvidiaGpuFound : Bool} {registry : RegistryKey} {count : Nat}
    {envs : Nat → RegistryEnv} {s : Windows} {outcome : Outcome}
    (succeeds : ∀ c < count, EnvSucceeds (envs c))
    (terminated : ∀ c < count, Terminated (registry (channelKey c)))
    (started : start nvidiaGpuFound envs count registry = .bound s outcome) :
    LoadedUpTo nvidiaGpuFound registry count count s := by
  obtain ⟨s', same, loaded⟩ := start_loads nvidiaGpuFound succeeds terminated
  rw [started, Initialized.bound.injEq] at same
  rw [same.1]
  exact loaded

end PerformancePanel.Source.WindowsLoad
