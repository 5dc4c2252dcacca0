import Mathlib.Data.List.Basic
import Mathlib.Tactic.Common

/-!
# Shared vocabulary of the library

The build-time tunables with the bounds the headers enforce, byte strings, and the
enumerations several components read: the discard policy a full queue asks for, the severity an
event is raised at and what a store answers to a write.
-/

namespace SolidSyslog

/-- A C byte span. -/
abbrev Bytes := List UInt8

/-- What holds of the 256 bytes holds of a byte. -/
theorem byte_forall {P : UInt8 → Prop} (h : ∀ n < 256, P (UInt8.ofNat n)) (b : UInt8) : P b := by
  have hb := h b.toNat b.toNat_lt
  rwa [UInt8.ofNat_toNat] at hb

/-- The tunables of `SolidSyslogTunablesDefaults.h` the models read, with the `#error`
bounds that guard them, and the width of the target's `size_t`. -/
structure Tunables where
  maxMessageSize : Nat
  maxIntegritySize : Nat
  sizeBits : Nat
  maxMessageSize_ge : 64 ≤ maxMessageSize
  maxMessageSize_le : maxMessageSize ≤ 65531
  maxIntegritySize_ge : 4 ≤ maxIntegritySize
  sizeBits_ge : 16 ≤ sizeBits

/-- The smallest tunables a 32-bit target builds with. -/
def Tunables.small : Tunables :=
  ⟨64, 4, 32, by decide, by decide, by decide, by decide⟩

/-- `enum SolidSyslogDiscardPolicy`. -/
inductive DiscardPolicy where
  | oldest
  | newest
  | halt
  deriving DecidableEq, Repr

/-- The severities of `enum SolidSyslogSeverity`, in RFC 5424 order. -/
inductive Severity where
  | emergency
  | alert
  | critical
  | error
  | warning
  | notice
  | informational
  | debug
  deriving DecidableEq, Repr

/-- `enum SolidSyslogStoreWriteResult`. -/
inductive StoreWriteResult where
  | kept
  | notRetained
  | lost
  deriving DecidableEq, Repr

/-- A cast to `uint16_t`. -/
def toUint16 (n : Nat) : Nat :=
  n % 65536

theorem toUint16_of_le {n : Nat} (h : n ≤ 65535) : toUint16 n = n :=
  Nat.mod_eq_of_lt (by omega)

end SolidSyslog
