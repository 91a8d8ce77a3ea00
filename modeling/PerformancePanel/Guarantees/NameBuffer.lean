import PerformancePanel.Guarantees.WindowsRestart

/-!
# The binding name and the local buffer

`get_bound_data_source` compares the name in `key_value_buffer`, which `RegQueryValueEx` has
overwritten with the stored bytes and nothing else. The comparisons stay inside the buffer,
the known names being shorter. Stored bytes that are cut off inside a known name with its NUL
are completed by what the buffer held before; with every other value the call depends on the
registry alone.
-/
set_option autoImplicit false

namespace PerformancePanel.Guarantees.NameBuffer
open Source Source.Common Source.DataSources Source.Collector Source.Registry
open Source.WindowsReader Source.WindowsLoad Library
open WindowsRestart (emptyKey quietEnv)

/-- `sizeof(key_value_buffer)`. -/
def bufferBytes : Nat := 64

/-- The same call with other contents of `key_value_buffer` on entry. -/
def withBuffer (env : RegistryEnv) (buffer : List UInt8) : RegistryEnv :=
  { env with keyValueBuffer := buffer }

/-- What a call produces: the entries of its channel and its status. -/
def produced (nvidiaGpuFound : Bool) (env : RegistryEnv) (channel : Nat) (s : Windows) :
    Callback × UInt8 × Outcome :=
  let result := getBoundDataSource nvidiaGpuFound env channel s
  (result.1.tables.callback channel, result.1.tables.calibration channel, result.2)

/-- `key_value_buffer` when it is compared; `_tcscpy_s` replaces what a failed query left. -/
def comparedBuffer (env : RegistryEnv) (channel : Nat) (s : Windows) : List UInt8 :=
  match regQueryValueEx s.registry (channelKey channel) env.keyValueBuffer keyValueBufferSize
      env.undefinedData with
  | (true, buffer) => buffer
  | (false, buffer) =>
    bytes (Names.unallocated.units ++ [0]) ++
      buffer.drop (bytes (Names.unallocated.units ++ [0])).length

/-- `_tcscmp` with each of the known names reads no character behind the buffer. -/
def ComparedInside (env : RegistryEnv) (channel : Nat) (s : Windows) : Prop :=
  ∀ known ∈ dataSourceNames,
    CString.equals 0 (units (comparedBuffer env channel s)) known.units ≠ none

/-- The key is open, or can be opened. -/
def Opens (env : RegistryEnv) (s : Windows) : Prop :=
  (s.opened || env.openLocalMachine || env.openCurrentUser) = true

/-- Bytes that are a proper part of the stored form of a name with a source. -/
def CutOff (nvidiaGpuFound : Bool) (data : List UInt8) : Prop :=
  ∃ name, nameStringToCallback nvidiaGpuFound name ≠ none ∧
    data <+: bytes (name.units ++ [0]) ∧ data ≠ bytes (name.units ++ [0])

/-! ## Comparisons -/

theorem comparedInside {env : RegistryEnv} (whole : env.keyValueBuffer.length = bufferBytes)
    (channel : Nat) (s : Windows) : ComparedInside env channel s := by
  intro known listed
  have defaulted (rest : List UInt8) :
      CString.equals 0 (units (bytes (Names.unallocated.units ++ [0]) ++ rest)) known.units ≠
        none := by
    rw [units_bytes_append]
    have terminated : (0 : CharT) ∈ Names.unallocated.units ++ [0] ++ units rest := by simp
    rw [CString.equals_of_terminated terminated known.nulFree]
    exact Option.some_ne_none _
  unfold comparedBuffer regQueryValueEx
  cases s.registry (channelKey channel) with
  | none => exact defaulted _
  | some data =>
    dsimp only
    by_cases short : data.length ≤ keyValueBufferSize
    · rw [if_pos short]
      have length : (data ++ env.keyValueBuffer.drop data.length).length = bufferBytes := by
        unfold keyValueBufferSize at short
        unfold bufferBytes at whole ⊢
        rw [List.length_append, List.length_drop]
        omega
      have shorter : known.units.length <
        (units (data ++ env.keyValueBuffer.drop data.length)).length := by
        have bound := (listed_short listed).2
        rw [units_length, length, bufferBytes]
        omega
      rw [CString.equals_of_shorter known.nulFree shorter]
      exact Option.some_ne_none _
    · rw [if_neg short]
      exact defaulted _

/-! ## The callback a stored value gives -/

section stored
variable {nvidiaGpuFound : Bool} {data : List UInt8}

theorem takenName_eq_iff (short : data.length ≤ keyValueBufferSize) {buffer : List UInt8}
    (whole : buffer.length = bufferBytes) {name : Name} (known : name.units.length ≤ 15) :
    takenName buffer (some data) = name ↔
      bytes (name.units ++ [0]) <+: data ++ buffer.drop data.length := by
  have taken : takenName buffer (some data) =
    Name.ofBuffer (units (data ++ buffer.drop data.length)) :=
    if_pos short
  rw [taken]
  apply ofBuffer_eq_iff
  unfold keyValueBufferSize at short
  unfold bufferBytes at whole
  rw [List.length_append, List.length_drop]
  omega

theorem source_short {name : Name} (source : nameStringToCallback nvidiaGpuFound name ≠ none) :
    name.units.length ≤ 15 := by
  by_contra long
  exact source (nameStringToCallback_long nvidiaGpuFound long)

/-- Unless the value is cut off, its source is that of a name stored whole in it. -/
theorem callback_of_notCutOff (short : data.length ≤ keyValueBufferSize)
    (notCut : ¬ CutOff nvidiaGpuFound data) {buffer : List UInt8}
    (whole : buffer.length = bufferBytes) (source : DataSource) :
    nameStringToCallback nvidiaGpuFound (takenName buffer (some data)) = some source ↔
      ∃ name, nameStringToCallback nvidiaGpuFound name = some source ∧
        bytes (name.units ++ [0]) <+: data := by
  constructor
  · intro bound
    have hasSource : nameStringToCallback nvidiaGpuFound (takenName buffer (some data)) ≠ none := by
      rw [bound]
      exact Option.some_ne_none source
    have inside := (takenName_eq_iff short whole (source_short hasSource)).mp rfl
    refine ⟨_, bound, ?_⟩
    rcases List.prefix_or_prefix_of_prefix inside (List.prefix_append data _) with stored | cut
    · exact stored
    · by_cases equal : data = bytes ((takenName buffer (some data)).units ++ [0])
      · rw [← equal]
      · exact absurd ⟨_, hasSource, cut, equal⟩ notCut
  · rintro ⟨name, bound, stored⟩
    have hasSource : nameStringToCallback nvidiaGpuFound name ≠ none := by
      rw [bound]
      exact Option.some_ne_none source
    have taken : takenName buffer (some data) = name :=
      (takenName_eq_iff short whole (source_short hasSource)).mpr
        (stored.trans (List.prefix_append data _))
    rw [taken, bound]

/-- A buffer that goes on where the value is cut off. -/
def completing (name : Name) : List UInt8 :=
  bytes (name.units ++ [0]) ++ List.replicate (bufferBytes - (bytes (name.units ++ [0])).length) 0

/-- A buffer without a zero byte. -/
def zeroFree : List UInt8 := List.replicate bufferBytes 1

theorem completing_length {name : Name} (short : name.units.length ≤ 15) :
    (completing name).length = bufferBytes := by
  rw [completing, List.length_append, List.length_replicate, bytes_length, List.length_append,
    List.length_singleton]
  unfold bufferBytes
  omega

theorem takenName_completing (short : data.length ≤ keyValueBufferSize) {name : Name}
    (known : name.units.length ≤ 15) (cut : data <+: bytes (name.units ++ [0])) :
    takenName (completing name) (some data) = name := by
  rw [takenName_eq_iff short (completing_length known) known]
  obtain ⟨rest, whole⟩ := cut
  have continued : (completing name).drop data.length =
      rest ++ List.replicate (bufferBytes - (bytes (name.units ++ [0])).length) 0 := by
    rw [completing, ← whole, List.append_assoc, List.drop_left]
  rw [continued, ← List.append_assoc, whole]
  exact List.prefix_append _ _

theorem stored_ends (name : Name) : (bytes (name.units ++ [0])).getLast? = some 0 := by
  rw [bytes_append, List.getLast?_append]
  rfl

/-- Over a buffer without a zero byte a cut-off value has no source: the name would have to
end inside the value. -/
theorem callback_zeroFree (short : data.length ≤ keyValueBufferSize)
    (cut : CutOff nvidiaGpuFound data) :
    nameStringToCallback nvidiaGpuFound (takenName zeroFree (some data)) = none := by
  by_contra hasSource
  obtain ⟨name, _, part, proper⟩ := cut
  have inside := (takenName_eq_iff short (List.length_replicate : zeroFree.length = bufferBytes)
    (source_short hasSource)).mp rfl
  generalize takenName zeroFree (some data) = taken at inside
  by_cases stored : bytes (taken.units ++ [0]) <+: data
  · have nested : taken.units ++ [0] <+: name.units ++ [0] := by
      have chars := bytes_prefix_iff.mp (stored.trans part)
      rwa [units_bytes] at chars
    have same : taken.units = name.units := CString.eq_of_terminated_prefix name.nulFree nested
    rw [same] at stored
    exact proper (part.eq_of_length_le stored.length_le)
  · obtain ⟨rest, whole⟩ := (List.prefix_or_prefix_of_prefix inside
      (List.prefix_append data _)).resolve_left stored
    rw [← whole, List.prefix_append_right_inj] at inside
    have ends := stored_ends taken
    rw [← whole, List.getLast?_append] at ends
    cases last : rest.getLast? with
    | none =>
      rw [List.getLast?_eq_none_iff.mp last, List.append_nil] at whole
      exact stored (whole ▸ List.prefix_refl data)
    | some byte =>
      rw [last, Option.some_or, Option.some.injEq] at ends
      have member : byte ∈ zeroFree :=
        List.mem_of_mem_drop (inside.subset (List.mem_of_getLast? last))
      rw [ends] at member
      exact absurd (List.eq_of_mem_replicate member) (by decide)

end stored

/-! ## One call -/

section call
variable {nvidiaGpuFound : Bool} {env : RegistryEnv} {channel : Nat} {s : Windows}

/-- The rest of a call, which only looks at the callback. -/
def bindEntries (env : RegistryEnv) (channel : Nat) (callback : Callback) (s : Windows) :
    Windows × Outcome :=
  match readCalibration env channel (if callback = some .calibration then 0xFF else 0x80)
      { s with tables := s.tables.setCallback channel callback } with
  | (s', none) => (s', .returned .invalidConfiguration)
  | (s', some calibration) =>
    ({ s' with tables := s'.tables.setCalibration channel calibration }, .returned .success)

theorem defaultCalibration_eq (nvidiaGpuFound : Bool) (name : Name) :
    defaultCalibration name =
      if nameStringToCallback nvidiaGpuFound name = some .calibration then 0xFF else 0x80 := by
  unfold defaultCalibration
  by_cases calibration : name = Names.calibration
  · rw [if_pos calibration, calibration]
    cases nvidiaGpuFound <;> rfl
  · have other : nameStringToCallback nvidiaGpuFound name ≠ some .calibration := fun bound =>
      calibration (name_of_source bound).symm
    rw [if_neg calibration, if_neg other]

theorem getBoundDataSource_named (opens : Opens env s) {s₁ : Windows} {name : Name}
    (read : readName env channel { s with opened := true } = (s₁, some name)) :
    getBoundDataSource nvidiaGpuFound env channel s =
      bindEntries env channel (nameStringToCallback nvidiaGpuFound name) s₁ := by
  have opened : (s.opened || env.openLocalMachine || env.openCurrentUser) = true := opens
  unfold getBoundDataSource
  rw [if_pos opened, read]
  dsimp only
  rw [defaultCalibration_eq nvidiaGpuFound]
  rfl

/-- A value that can be queried is taken over the buffer. -/
theorem call_queried (opens : Opens env s) {data : List UInt8}
    (found : s.registry (channelKey channel) = some data) (short : data.length ≤ keyValueBufferSize)
    (buffer : List UInt8) :
    getBoundDataSource nvidiaGpuFound (withBuffer env buffer) channel s =
      bindEntries env channel (nameStringToCallback nvidiaGpuFound (takenName buffer (some data)))
        { s with opened := true } := by
  have opens' : Opens (withBuffer env buffer) s := opens
  have read : readName (withBuffer env buffer) channel { s with opened := true } =
      ({ s with opened := true }, some (takenName buffer (some data))) := by
    simp [readName, regQueryValueEx, found, short, takenName, withBuffer]
  exact getBoundDataSource_named opens' read

/-- No other call looks at the buffer. -/
theorem call_unqueried (unqueried : ∀ data, s.registry (channelKey channel) = some data →
    ¬ data.length ≤ keyValueBufferSize) (buffer buffer' : List UInt8) :
    getBoundDataSource nvidiaGpuFound (withBuffer env buffer) channel s =
      getBoundDataSource nvidiaGpuFound (withBuffer env buffer') channel s := by
  have read : readName (withBuffer env buffer) channel { s with opened := true } =
      readName (withBuffer env buffer') channel { s with opened := true } := by
    cases found : s.registry (channelKey channel) with
    | none =>
      simp only [readName, regQueryValueEx, found]
      rfl
    | some data =>
      simp only [readName, regQueryValueEx, found, if_neg (unqueried data found)]
      rfl
  unfold getBoundDataSource
  rw [read]
  rfl

theorem bindEntries_callback {count : Nat} (sized : s.tables.Sized count) (below : channel < count)
    (callback : Callback) : (bindEntries env channel callback s).1.tables.callback channel =
      callback := by
  have tables := (@readCalibration_frame env channel
    { s with tables := s.tables.setCallback channel callback }
    (if callback = some .calibration then 0xFF else 0x80)).1
  unfold bindEntries
  split
  next s₁ read =>
    rw [read] at tables
    rw [tables]
    exact Tables.callback_setCallback_self sized below callback
  next s₁ value read =>
    rw [read] at tables
    rw [Tables.callback_setCalibration, tables]
    exact Tables.callback_setCallback_self sized below callback

end call

/-- What a call produces is the same over all contents of its buffer, and every comparison
inside it, exactly when the key cannot be opened or no value that can be queried is cut off
inside a known name. -/
theorem name_buffer_iff (nvidiaGpuFound : Bool) (env : RegistryEnv) {count channel : Nat}
    {s : Windows} (sized : s.tables.Sized count) (below : channel < count) :
    (∀ buffer buffer', buffer.length = bufferBytes → buffer'.length = bufferBytes →
        produced nvidiaGpuFound (withBuffer env buffer) channel s =
          produced nvidiaGpuFound (withBuffer env buffer') channel s ∧
        ComparedInside (withBuffer env buffer) channel s) ↔
      (Opens env s → ∀ data, s.registry (channelKey channel) = some data →
        data.length ≤ keyValueBufferSize → ¬ CutOff nvidiaGpuFound data) := by
  constructor
  · intro same opens data found short cut
    obtain ⟨name, hasSource, part, proper⟩ := cut
    have known : name.units.length ≤ 15 := source_short hasSource
    have equal := (same (completing name) zeroFree (completing_length known)
      List.length_replicate).1
    have callbacks := congrArg Prod.fst equal
    unfold produced at callbacks
    rw [call_queried opens found short, call_queried opens found short] at callbacks
    dsimp only at callbacks
    rw [bindEntries_callback (s := { s with opened := true }) sized below,
      bindEntries_callback (s := { s with opened := true }) sized below,
      takenName_completing short known part,
      callback_zeroFree short ⟨name, hasSource, part, proper⟩] at callbacks
    exact hasSource callbacks
  · intro whole buffer buffer' length length'
    refine ⟨?_, @comparedInside (withBuffer env buffer) length channel s⟩
    have same : getBoundDataSource nvidiaGpuFound (withBuffer env buffer) channel s =
        getBoundDataSource nvidiaGpuFound (withBuffer env buffer') channel s := by
      by_cases opens : Opens env s
      · by_cases queried : ∃ data, s.registry (channelKey channel) = some data ∧
            data.length ≤ keyValueBufferSize
        · obtain ⟨data, found, short⟩ := queried
          have notCut := whole opens data found short
          have callback : nameStringToCallback nvidiaGpuFound (takenName buffer (some data)) =
              nameStringToCallback nvidiaGpuFound (takenName buffer' (some data)) := by
            refine Option.ext fun source => ?_
            rw [callback_of_notCutOff short notCut length,
              callback_of_notCutOff short notCut length']
          rw [call_queried opens found short, call_queried opens found short, callback]
        · exact call_unqueried (fun data found short => queried ⟨data, found, short⟩) buffer buffer'
      · have closed (b : List UInt8) :
            getBoundDataSource nvidiaGpuFound (withBuffer env b) channel s =
            (s, .returned .invalidConfiguration) := if_neg opens
        rw [closed, closed]
    unfold produced
    rw [same]

/-- A name stored with its NUL is not cut off. -/
theorem notCutOff_bytes (nvidiaGpuFound : Bool) (name : Name) :
    ¬ CutOff nvidiaGpuFound (bytes (name.units ++ [0])) := by
  rintro ⟨other, _, part, proper⟩
  have nested : name.units ++ [0] <+: other.units ++ [0] := by
    have chars := bytes_prefix_iff.mp part
    rwa [units_bytes] at chars
  have same : name.units = other.units := CString.eq_of_terminated_prefix other.nulFree nested
  exact proper (by rw [same])

/-- One channel, its stored name the given bytes. -/
def holding (data : List UInt8) : Windows :=
  fresh (regSetValueEx emptyKey (channelKey 0) data) (Tables.zeroed 1)

/-- With its NUL stored the name is read alike over the two buffers that would change a cut
one. -/
theorem name_buffer_calibration :
    produced true (withBuffer (quietEnv 0) (completing Names.calibration)) 0
        (holding (bytes (Names.calibration.units ++ [0]))) =
      produced true (withBuffer (quietEnv 0) zeroFree) 0
        (holding (bytes (Names.calibration.units ++ [0]))) := by
  have alike := (name_buffer_iff true (quietEnv 0) (Tables.zeroed_sized 1) Nat.zero_lt_one
    (s := holding (bytes (Names.calibration.units ++ [0])))).mpr fun _ data found _ => by
      have whole : (holding (bytes (Names.calibration.units ++ [0]))).registry (channelKey 0) =
          some (bytes (Names.calibration.units ++ [0])) :=
            regSetValueEx_self emptyKey (channelKey 0) _
      rw [whole, Option.some.injEq] at found
      rw [← found]
      exact notCutOff_bytes true Names.calibration
  exact (alike (completing Names.calibration) zeroFree rfl rfl).1

/-- A stored value of no bytes: the buffer decides the source and the calibration. -/
theorem empty_value_reads_buffer :
    produced true (withBuffer (quietEnv 0) (completing Names.calibration)) 0 (holding []) =
        (some .calibration, 0xFF, .returned .success) ∧
      produced true (withBuffer (quietEnv 0) zeroFree) 0 (holding []) =
        (none, 0x80, .returned .success) := by
  decide

end PerformancePanel.Guarantees.NameBuffer
