import Mathlib.Algebra.Group.Nat.Defs
import Mathlib.Data.List.TakeWhile

/-!
# Common values of the panel programs

Source: include/common.h. `char_t` is `char` on Linux and a 16-bit `TCHAR` on Windows; one
16-bit code unit models both, since the readers only compare names and look for
the terminator, and byte counts name their own unit size. Behaviour the C
standard leaves undefined is an explicit `Fault`, never a value.
-/
set_option autoImplicit false

namespace PerformancePanel.Source.Common

inductive Status where
  | success | hasNext | deviceNotFound | deviceConfigurationFailed | transferFailed
  | invalidConfiguration | driverInitializationFailed | bufferTooSmall | overflow
  deriving DecidableEq, Repr

inductive HostOperationCommand where
  | queryCap | setUsage
  deriving DecidableEq, Repr

/-- What a C caller cannot observe as a value. -/
inductive Fault where
  | nullString | notAnObject | outOfBounds
  deriving DecidableEq, Repr

/-- How a call ends: it returns a status, the process is stopped inside it, or
it reaches undefined behaviour. -/
inductive Outcome where
  | returned (status : Status)
  | stopped
  | fault (reason : Fault)
  deriving DecidableEq, Repr

abbrev CharT := UInt16

def text (s : String) : List CharT := s.toList.map fun c => UInt16.ofNat c.toNat

/-- A C string: the units before its terminator, none of which is NUL. -/
@[ext]
structure Name where
  units : List CharT
  nulFree : (0 : CharT) ∉ units
  deriving DecidableEq, Repr

/-- The string a C function reads at the start of a buffer. -/
def Name.ofBuffer (buffer : List CharT) : Name where
  units := buffer.takeWhile (· != 0)
  nulFree := by
    intro h
    simpa using List.mem_takeWhile_imp h

theorem Name.unit_ne_nul (name : Name) {u : CharT} (hu : u ∈ name.units) : (u != 0) = true := by
  have : u ≠ 0 := fun h => name.nulFree (h ▸ hu)
  simpa using this

/-- Reading stops at the first terminator, whatever follows it. -/
theorem Name.ofBuffer_append_nul (name : Name) (rest : List CharT) :
    Name.ofBuffer (name.units ++ 0 :: rest) = name := by
  apply Name.ext
  simp only [Name.ofBuffer]
  rw [List.takeWhile_append_of_pos fun u hu => name.unit_ne_nul hu]
  simp

/-- Units without a NUL are read back whole. -/
theorem Name.ofBuffer_units (name : Name) : Name.ofBuffer name.units = name := by
  apply Name.ext
  simp only [Name.ofBuffer, List.takeWhile_eq_self_iff]
  exact fun u hu => name.unit_ne_nul hu

end PerformancePanel.Source.Common
