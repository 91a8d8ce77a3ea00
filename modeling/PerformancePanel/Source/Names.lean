import PerformancePanel.Source.DataSources

/-!
# Binding names and value names

Source: `data_source_names` and the `sprintf`/`_stprintf_s` key formats of
datasource/linux/configurationreader.c and datasource/windows/registryreader.c. Both
readers spell the seven names alike and number them differently. A key is a word
followed by the decimal channel number; keys of different words or different channels
differ.
-/
set_option autoImplicit false

namespace PerformancePanel.Source.Names
open Common DataSources

def unallocated : Name := ⟨text "Unallocated", by decide⟩
def calibration : Name := ⟨text "Calibration", by decide⟩
def cpuUtility : Name := ⟨text "CPU Utility", by decide⟩
def gpuUtility : Name := ⟨text "GPU Utility", by decide⟩
def ramUtility : Name := ⟨text "RAM Utility", by decide⟩
def cpuTemperature : Name := ⟨text "CPU Temperature", by decide⟩
def gpuTemperature : Name := ⟨text "GPU Temperature", by decide⟩

/-- `sprintf(buffer, "<word>%d", channel)`. -/
def numbered (word : String) (channel : Nat) : String := word ++ channel.repr

theorem repr_injective {m n : Nat} (h : m.repr = n.repr) : m = n := by
  have digits : Nat.toDigits 10 m = Nat.toDigits 10 n := by
    rw [← Nat.toList_repr, ← Nat.toList_repr, h]
  have values := congrArg (fun l => Nat.ofDigitChars 10 l 0) digits
  simpa [Nat.ofDigitChars_toDigits] using values

/-- Distinct channels have distinct keys. -/
theorem numbered_injective (word : String) {m n : Nat} (h : numbered word m = numbered word n) :
    m = n :=
  repr_injective ((String.append_right_inj word).mp h)

/-- Keys of words that differ in their first two letters differ. -/
theorem numbered_ne {first second : String} {m n : Nat}
    (long : 2 ≤ first.toList.length ∧ 2 ≤ second.toList.length)
    (different : first.toList.take 2 ≠ second.toList.take 2) :
    numbered first m ≠ numbered second n := by
  intro h
  have letters := congrArg (fun s => s.toList.take 2) h
  simp only [numbered, String.toList_append] at letters
  rw [List.take_append_of_le_length long.1, List.take_append_of_le_length long.2] at letters
  exact different letters

/-- The number of a `uint8_t` channel has at most three digits. -/
theorem numbered_length (word : String) {channel : Nat} (small : channel < 256) :
    (numbered word channel).length ≤ word.length + 3 := by
  have digits : channel.repr.length ≤ 3 := (Nat.length_repr_le_iff (by decide)).mpr (by omega)
  rw [numbered, String.length_append]
  omega

end PerformancePanel.Source.Names
