import SolidSyslog.Basic
import SolidSyslog.Lib.OctetCounting
import Mathlib.Algebra.Order.Group.Nat
import Mathlib.Tactic.IntervalCases

/-!
# The formatter

`SolidSyslogFormatter.c`. A formatter holds the characters written so far; those that would fill its
last byte, which is the terminator's, are dropped.
-/

namespace SolidSyslog.Format

open Lib.OctetCounting (decimal digit isDigit)

/-- `struct SolidSyslogFormatter`, with the buffer up to its position. -/
structure Formatter where
  size : Nat
  bytes : Bytes
  deriving DecidableEq, Repr

/-! ## The classes of bytes -/

/-- `SolidSyslogUtf8_IsTwoByteLead`. -/
def isTwoByteLead (byte : UInt8) : Bool :=
  byte &&& 0xE0 = 0xC0

/-- `SolidSyslogUtf8_IsThreeByteLead`. -/
def isThreeByteLead (byte : UInt8) : Bool :=
  byte &&& 0xF0 = 0xE0

/-- `SolidSyslogUtf8_IsFourByteLead`. -/
def isFourByteLead (byte : UInt8) : Bool :=
  byte &&& 0xF8 = 0xF0

/-- `Formatter_IsPrintableUsAscii`. -/
def isPrintableUsAscii (value : UInt8) : Bool :=
  0x21 ≤ value && value ≤ 0x7E

/-- `Formatter_IsAsciiCharacter`. -/
def isAsciiCharacter (value : UInt8) : Bool :=
  value = 0x20 || isPrintableUsAscii value

/-! ## Decimal numbers -/

/-- A cast to `uint32_t`. -/
def toUint32 (n : Nat) : Nat :=
  n % 4294967296

/-- `Formatter_CountDigits`. -/
def countDigits (value : Nat) : Nat :=
  if 10 ≤ value then countDigits (value / 10) + 1 else 1

/-- The divisor of the first of that many digits. -/
def firstDivisor (digits : Nat) : Nat :=
  (fun divisor => toUint32 (divisor * 10))^[digits - 1] 1

/-- `Formatter_DigitToChar`. -/
def digitToChar (value : Nat) : UInt8 :=
  UInt8.ofNat (48 + value % 10)

/-- The digits from a divisor on. -/
def digitsFrom (remaining divisor : Nat) : Nat → Bytes
  | 0 => []
  | digits + 1 =>
    digitToChar (remaining / divisor) :: digitsFrom (remaining % divisor) (divisor / 10) digits

/-- What `SolidSyslogFormatter_Uint32` writes. -/
def uint32Bytes (value : Nat) : Bytes :=
  digitsFrom value (firstDivisor (countDigits value)) (countDigits value)

namespace Formatter

/-- `SolidSyslogFormatter_Create`. -/
def create (bufferSize : Nat) : Formatter :=
  ⟨bufferSize, []⟩

/-- `Formatter_HasCapacity`. -/
def hasCapacity (f : Formatter) : Bool :=
  0 < f.size && f.bytes.length < f.size - 1

/-- `Formatter_WriteChar`. -/
def writeChar (f : Formatter) (value : UInt8) : Formatter :=
  if f.hasCapacity then { f with bytes := f.bytes ++ [value] } else f

/-- `Formatter_WriteBytes`. -/
def writeBytes (f : Formatter) (bytes : Bytes) : Formatter :=
  bytes.foldl writeChar f

/-- `SolidSyslogFormatter_AsciiCharacter`. -/
def asciiCharacter (f : Formatter) (value : UInt8) : Formatter :=
  f.writeChar (if isAsciiCharacter value then value else 0x3F)

/-- `SolidSyslogFormatter_Uint32`. -/
def uint32 (f : Formatter) (value : Nat) : Formatter :=
  f.writeBytes (uint32Bytes value)

/-- Where `Formatter_TrimTruncatedMultiByteTail` starts to overwrite. -/
def trimFrom (f : Formatter) : Nat :=
  let p := f.bytes.length
  let back (k : Nat) (lead : UInt8 → Bool) : Bool := k ≤ p && (f.bytes[p - k]?.any lead)
  if back 1 fun b => isTwoByteLead b || isThreeByteLead b || isFourByteLead b then p - 1
  else if back 2 fun b => isThreeByteLead b || isFourByteLead b then p - 2
  else if back 3 isFourByteLead then p - 3
  else p

/-- `SolidSyslogFormatter_AsFormattedBuffer`, which blanks a truncated character at the end. -/
def asFormattedBuffer (f : Formatter) : Formatter :=
  { f with bytes :=
      f.bytes.take f.trimFrom ++ List.replicate (f.bytes.length - f.trimFrom) 0 }

/-! ## Writing -/

theorem writeBytes_size (f : Formatter) (bytes : Bytes) : (f.writeBytes bytes).size = f.size := by
  induction bytes generalizing f with
  | nil => rfl
  | cons b bytes ih =>
    have hb : (f.writeChar b).size = f.size := by
      unfold writeChar
      split
      · rfl
      · rfl
    exact (ih (f.writeChar b)).trans hb

/-- What fits before the terminator is kept, and the rest dropped. -/
theorem writeBytes_bytes (f : Formatter) (bytes : Bytes) :
    (f.writeBytes bytes).bytes = f.bytes ++ bytes.take (f.size - 1 - f.bytes.length) := by
  induction bytes generalizing f with
  | nil => simp [writeBytes]
  | cons b bytes ih =>
    change ((f.writeChar b).writeBytes bytes).bytes = _
    rw [ih, writeChar]
    split
    · next hroom =>
      simp only [hasCapacity, Bool.and_eq_true, decide_eq_true_eq] at hroom
      obtain ⟨k, hk⟩ : ∃ k, f.size - 1 - f.bytes.length = k + 1 :=
        ⟨f.size - 1 - f.bytes.length - 1, by omega⟩
      have hrest : f.size - 1 - (f.bytes.length + 1) = k := by omega
      rw [hk, List.take_succ_cons, List.length_append, List.length_singleton, List.append_assoc,
        List.singleton_append, hrest]
    · next hfull =>
      simp only [hasCapacity, Bool.and_eq_true, decide_eq_true_eq, not_and_or, not_lt] at hfull
      rw [show f.size - 1 - f.bytes.length = 0 by omega, List.take_zero, List.take_zero]

/-- Where there is room, all is kept. -/
theorem writeBytes_of_fits {f : Formatter} {bytes : Bytes}
    (h : f.bytes.length + bytes.length < f.size) :
      f.writeBytes bytes = ⟨f.size, f.bytes ++ bytes⟩ := by
  have hbytes := f.writeBytes_bytes bytes
  rw [List.take_of_length_le (by omega)] at hbytes
  have hsize := f.writeBytes_size bytes
  cases hwritten : f.writeBytes bytes with
  | mk size written =>
    rw [hwritten] at hbytes hsize
    obtain rfl : size = f.size := hsize
    obtain rfl : written = f.bytes ++ bytes := hbytes
    rfl

/-! ## Text without multi-byte characters -/

theorem not_lead_of_ascii {b : UInt8} (h : b < 0x80) :
    isTwoByteLead b = false ∧ isThreeByteLead b = false ∧ isFourByteLead b = false := by
  have hall : ∀ n < 128, isTwoByteLead (UInt8.ofNat n) = false ∧
      isThreeByteLead (UInt8.ofNat n) = false ∧ isFourByteLead (UInt8.ofNat n) = false := by
    decide
  have hb := hall b.toNat (UInt8.lt_iff_toNat_lt.1 h)
  rwa [UInt8.ofNat_toNat] at hb

/-- Nothing is cut short behind three characters of one byte, or where there are no others. -/
theorem asFormattedBuffer_of_ascii_tail {f : Formatter}
    (h : ∀ b ∈ f.bytes.drop (f.bytes.length - 3), b < 0x80) : f.asFormattedBuffer = f := by
  have hback : ∀ k ≤ 3, ∀ lead : UInt8 → Bool, (∀ b, b < 0x80 → lead b = false) →
      (k ≤ f.bytes.length && f.bytes[f.bytes.length - k]?.any lead) = false := by
    intro k hk lead hlead
    cases hbyte : f.bytes[f.bytes.length - k]? with
    | none => simp
    | some b =>
      have hmem : b ∈ f.bytes.drop (f.bytes.length - 3) := by
        have hat : (f.bytes.drop (f.bytes.length - 3))[f.bytes.length - k - (f.bytes.length - 3)]? =
            some b := by
          rw [List.getElem?_drop, ← hbyte]
          congr 1
          omega
        exact List.mem_of_getElem? hat
      simp [hlead b (h b hmem)]
  have hwhole : f.trimFrom = f.bytes.length := by
    unfold trimFrom
    dsimp only
    have hlast := hback 1 (by omega)
      (fun b => isTwoByteLead b || isThreeByteLead b || isFourByteLead b)
      fun b hb => by simp [not_lead_of_ascii hb]
    have hbefore := hback 2 (by omega) (fun b => isThreeByteLead b || isFourByteLead b)
      fun b hb => by simp [not_lead_of_ascii hb]
    have hfirst := hback 3 le_rfl isFourByteLead fun b hb => (not_lead_of_ascii hb).2.2
    simp only [hlast, hbefore, hfirst, Bool.false_eq_true, if_false]
  unfold asFormattedBuffer
  rw [hwhole, List.take_length, Nat.sub_self, List.replicate_zero, List.append_nil]

/-- Nothing is cut short where every character is one byte. -/
theorem asFormattedBuffer_of_ascii {f : Formatter} (h : ∀ b ∈ f.bytes, b < 0x80) :
    f.asFormattedBuffer = f :=
  asFormattedBuffer_of_ascii_tail fun b hb => h b (List.mem_of_mem_drop hb)

/-- No more than three bytes are blanked. -/
theorem trimFrom_bounds (f : Formatter) :
    f.bytes.length ≤ f.trimFrom + 3 ∧ f.trimFrom ≤ f.bytes.length := by
  unfold trimFrom
  dsimp only
  split_ifs <;> omega

end Formatter

/-! ## Numbers -/

theorem digitToChar_eq (n : Nat) : digitToChar n = digit n :=
  rfl

theorem firstDivisor_eq {digits : Nat} (h : digits ≤ 10) :
    firstDivisor digits = 10 ^ (digits - 1) := by
  unfold firstDivisor
  interval_cases digits <;> rfl

/-- The digits of a number are those of its tenth and its last. -/
theorem digitsFrom_succ (remaining digits : Nat) :
    digitsFrom remaining (10 ^ (digits + 1)) (digits + 2) =
      digitsFrom (remaining / 10) (10 ^ digits) (digits + 1) ++ [digit remaining] := by
  induction digits generalizing remaining with
  | zero =>
    simp [digitsFrom, digitToChar_eq, digit]
  | succ digits ih =>
    have hten : (10 : Nat) ^ (digits + 2) / 10 = 10 ^ (digits + 1) := by
      rw [pow_succ, Nat.mul_div_cancel _ (Nat.succ_pos 9)]
    have hdiv : remaining / 10 ^ (digits + 2) = remaining / 10 / 10 ^ (digits + 1) := by
      rw [Nat.div_div_eq_div_mul, pow_succ', ← pow_succ' 10 (digits + 1)]
    have hmod : remaining % 10 ^ (digits + 2) / 10 = remaining / 10 % 10 ^ (digits + 1) := by
      rw [pow_succ', Nat.mod_mul_right_div_self]
    have hlast : digit (remaining % 10 ^ (digits + 2)) = digit remaining := by
      unfold digit
      rw [Nat.mod_mod_of_dvd _ (Dvd.intro_left _ (pow_succ 10 (digits + 1)).symm)]
    rw [digitsFrom, hten, ih, hmod, hlast, hdiv]
    have hten' : (10 : Nat) ^ (digits + 1) / 10 = 10 ^ digits := by
      rw [pow_succ, Nat.mul_div_cancel _ (Nat.succ_pos 9)]
    conv_rhs => rw [digitsFrom, hten']
    rfl

theorem countDigits_le {value : Nat} (k : Nat) (h : value < 10 ^ (k + 1)) :
    countDigits value ≤ k + 1 := by
  induction k generalizing value with
  | zero =>
    rw [countDigits, if_neg (by omega)]
  | succ k ih =>
    rw [countDigits]
    split
    · have hdiv : value / 10 < 10 ^ (k + 1) := by
        rw [Nat.div_lt_iff_lt_mul (Nat.succ_pos 9), ← pow_succ]
        exact h
      exact Nat.succ_le_succ (ih hdiv)
    · omega

theorem digitsFrom_eq_decimal (value : Nat) :
    digitsFrom value (10 ^ (countDigits value - 1)) (countDigits value) = decimal value := by
  induction value using countDigits.induct with
  | case1 value hge ih =>
    obtain ⟨k, hk⟩ : ∃ k, countDigits (value / 10) = k + 1 := by
      rw [countDigits]
      split
      · exact ⟨_, rfl⟩
      · exact ⟨0, rfl⟩
    rw [hk] at ih
    rw [countDigits, if_pos hge, hk, decimal, if_neg (by omega), ← ih]
    exact digitsFrom_succ value k
  | case2 value hlt =>
    rw [countDigits, if_neg hlt, decimal, if_pos (by omega)]
    simp [digitsFrom, digitToChar_eq]

/-- A number is written in decimal. -/
theorem uint32Bytes_eq {value : Nat} (h : value < 4294967296) :
    uint32Bytes value = decimal value := by
  have hdigits : countDigits value ≤ 10 := countDigits_le 9 (h.trans (by decide))
  rw [uint32Bytes, firstDivisor_eq hdigits, digitsFrom_eq_decimal]

theorem isDigit_digit (n : Nat) : isDigit (digit n) = true := by
  have hlt := Nat.mod_lt n (by decide : 0 < 10)
  unfold digit
  generalize n % 10 = k at *
  interval_cases k <;> decide

/-- A number is written in digits. -/
theorem isDigit_uint32Bytes (value : Nat) : ∀ x ∈ uint32Bytes value, isDigit x = true := by
  have hall : ∀ remaining divisor digits, ∀ x ∈ digitsFrom remaining divisor digits,
      isDigit x = true := by
    intro remaining divisor digits
    induction digits generalizing remaining divisor with
    | zero => nofun
    | succ digits ih =>
      intro x hx
      rcases List.mem_cons.1 hx with rfl | hx
      · exact isDigit_digit _
      · exact ih _ _ x hx
  exact hall _ _ _

theorem uint32Bytes_length {value : Nat} (h : value < 4294967296) :
    (uint32Bytes value).length ≤ 10 := by
  have hlength : ∀ remaining divisor digits,
      (digitsFrom remaining divisor digits).length = digits := by
    intro remaining divisor digits
    induction digits generalizing remaining divisor with
    | zero => rfl
    | succ digits ih => rw [digitsFrom, List.length_cons, ih]
  rw [uint32Bytes, hlength]
  exact countDigits_le 9 (h.trans (by decide))

end SolidSyslog.Format
