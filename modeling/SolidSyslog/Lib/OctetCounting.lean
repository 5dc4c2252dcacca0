import Mathlib.Data.List.Infix
import Mathlib.Tactic.Common
import Mathlib.Tactic.Ring

/-!
# Octet counting

The framing of RFC 6587 section 3.4.1: a message goes out behind its length in decimal and a space.
`decode` reads the messages back from what has come in, as far as it goes.
-/

namespace SolidSyslog.Lib.OctetCounting

/-- The last decimal digit of a number. -/
def digit (n : Nat) : UInt8 :=
  UInt8.ofNat (48 + n % 10)

/-- A number in decimal, without leading zeros. -/
def decimal (n : Nat) : List UInt8 :=
  if n < 10 then [digit n] else decimal (n / 10) ++ [digit n]

/-- A message behind its length. -/
def frame (message : List UInt8) : List UInt8 :=
  decimal message.length ++ 0x20 :: message

def isDigit (b : UInt8) : Bool :=
  0x30 ≤ b && b ≤ 0x39

/-- Digits up to a space, behind those that made `sum`. -/
def readDigits (sum : Nat) : List UInt8 → Option (Nat × List UInt8)
  | [] => none
  | b :: rest =>
    if isDigit b then readDigits (10 * sum + (b.toNat - 48)) rest
    else if b = 0x20 then some (sum, rest) else none

/-- A length and the space behind it. Only the length zero starts with a zero. -/
def readHeader : List UInt8 → Option (Nat × List UInt8)
  | [] => none
  | [_] => none
  | a :: b :: rest =>
    if a = 0x30 then if b = 0x20 then some (0, rest) else none
    else if isDigit a then readDigits 0 (a :: b :: rest) else none

theorem readDigits_length {sum len : Nat} {bytes rest : List UInt8}
    (h : readDigits sum bytes = some (len, rest)) : rest.length < bytes.length := by
  induction bytes generalizing sum with
  | nil => cases h
  | cons b bytes ih =>
    rw [readDigits] at h
    split at h
    · exact Nat.lt_succ_of_lt (ih h)
    · split at h
      · obtain ⟨-, rfl⟩ := Prod.mk.inj (Option.some.inj h)
        exact Nat.lt_succ_self _
      · cases h

theorem readHeader_length {len : Nat} {bytes rest : List UInt8}
    (h : readHeader bytes = some (len, rest)) : rest.length < bytes.length := by
  unfold readHeader at h
  split at h
  · cases h
  · cases h
  · split at h
    · split at h
      · obtain ⟨-, rfl⟩ := Prod.mk.inj (Option.some.inj h)
        simp only [List.length_cons]
        omega
      · cases h
    · split at h
      · exact readDigits_length h
      · cases h

/-- The messages that have come in whole, up to where the framing breaks off. -/
def decode (bytes : List UInt8) : List (List UInt8) :=
  match h : readHeader bytes with
  | none => []
  | some (len, rest) => if len ≤ rest.length then rest.take len :: decode (rest.drop len) else []
termination_by bytes.length
decreasing_by
  have hlt := readHeader_length h
  rw [List.length_drop]
  omega

/-! ## Digits -/

theorem digit_toNat (n : Nat) : (digit n).toNat = 48 + n % 10 := by
  have hlt := Nat.mod_lt n (Nat.succ_pos 9)
  rw [digit, UInt8.toNat_ofNat']
  omega

theorem isDigit_iff (b : UInt8) : isDigit b = true ↔ 48 ≤ b.toNat ∧ b.toNat ≤ 57 := by
  simp [isDigit, UInt8.le_iff_toNat_le]

theorem isDigit_digit (n : Nat) : isDigit (digit n) = true := by
  have hlt := Nat.mod_lt n (Nat.succ_pos 9)
  rw [isDigit_iff, digit_toNat]
  omega

theorem isDigit_decimal (n : Nat) : ∀ b ∈ decimal n, isDigit b = true := by
  induction n using decimal.induct with
  | case1 n hlt =>
    rw [decimal, if_pos hlt]
    simpa using isDigit_digit n
  | case2 n hge ih =>
    rw [decimal, if_neg hge]
    intro b hb
    rcases List.mem_append.1 hb with hb | hb
    · exact ih b hb
    · rw [List.mem_singleton.1 hb]
      exact isDigit_digit n

/-- A number that is not zero starts with a digit that is not zero. -/
theorem decimal_head {n : Nat} (hn : n ≠ 0) : ∃ b rest, decimal n = b :: rest ∧ b ≠ 0x30 := by
  induction n using decimal.induct with
  | case1 n hlt =>
    refine ⟨digit n, [], by rw [decimal, if_pos hlt], fun heq => ?_⟩
    have hval := congrArg UInt8.toNat heq
    rw [digit_toNat] at hval
    have hzero : (0x30 : UInt8).toNat = 48 := rfl
    omega
  | case2 n hge ih =>
    obtain ⟨b, rest, heq, hb⟩ := ih (by omega)
    exact ⟨b, rest ++ [digit n], by rw [decimal, if_neg hge, heq]; rfl, hb⟩

theorem readDigits_digit (sum n : Nat) (rest : List UInt8) :
    readDigits sum (digit n :: rest) = readDigits (10 * sum + n % 10) rest := by
  rw [readDigits, if_pos (isDigit_digit n), digit_toNat]
  congr 2
  omega

theorem readDigits_decimal (sum n : Nat) (rest : List UInt8) :
    readDigits sum (decimal n ++ rest) = readDigits (sum * 10 ^ (decimal n).length + n) rest := by
  induction n using decimal.induct generalizing rest with
  | case1 n hlt =>
    rw [decimal, if_pos hlt]
    change readDigits sum (digit n :: rest) = readDigits (sum * 10 ^ 1 + n) rest
    rw [readDigits_digit]
    congr 1
    omega
  | case2 n hge ih =>
    rw [decimal, if_neg hge, List.append_assoc, ih, List.singleton_append, readDigits_digit]
    congr 1
    have hdiv := Nat.div_add_mod n 10
    rw [List.length_append, List.length_singleton, pow_succ, ← mul_assoc]
    omega

theorem readDigits_none {sum : Nat} {bytes : List UInt8} (h : ∀ b ∈ bytes, isDigit b = true) :
    readDigits sum bytes = none := by
  induction bytes generalizing sum with
  | nil => rfl
  | cons b bytes ih =>
    rw [readDigits, if_pos (h b List.mem_cons_self)]
    exact ih fun other hother => h other (List.mem_cons_of_mem _ hother)

/-! ## Frames -/

theorem readHeader_decimal (n : Nat) (rest : List UInt8) :
    readHeader (decimal n ++ 0x20 :: rest) = some (n, rest) := by
  have hread : readDigits 0 (decimal n ++ 0x20 :: rest) = some (n, rest) := by
    rw [readDigits_decimal, Nat.zero_mul, Nat.zero_add]
    rfl
  by_cases hn : n = 0
  · rw [hn, decimal]
    rfl
  · obtain ⟨b, tail, heq, hb⟩ := decimal_head hn
    have hdigit : isDigit b = true := isDigit_decimal n b (by simp [heq])
    obtain ⟨next, more, hmore⟩ : ∃ next more, tail ++ 0x20 :: rest = next :: more :=
      List.exists_cons_of_ne_nil (by simp)
    rw [heq, List.cons_append, hmore] at hread ⊢
    rw [readHeader, if_neg hb, if_pos hdigit]
    exact hread

/-- A length that has not come in up to its space. -/
theorem readHeader_none {bytes : List UInt8} (h : ∀ b ∈ bytes, isDigit b = true) :
    readHeader bytes = none := by
  unfold readHeader
  split
  · rfl
  · rfl
  · next a b rest =>
    have hb : b ≠ 0x20 := by
      rintro rfl
      have hspace := h 0x20 (by simp)
      exact absurd hspace (by decide)
    rw [if_neg hb]
    split
    · rfl
    · split
      · exact readDigits_none h
      · rfl

/-- A message comes back from its frame. -/
theorem decode_frame (message rest : List UInt8) :
    decode (frame message ++ rest) = message :: decode rest := by
  have hheader : readHeader (frame message ++ rest) = some (message.length, message ++ rest) := by
    rw [frame, List.append_assoc, List.cons_append]
    exact readHeader_decimal _ _
  rw [decode]
  split
  · next hnone =>
    rw [hheader] at hnone
    cases hnone
  · next len behind hsome =>
    rw [hheader] at hsome
    obtain ⟨rfl, rfl⟩ := Prod.mk.inj (Option.some.inj hsome)
    rw [if_pos (by simp), List.take_left, List.drop_left]

theorem decode_frames (messages : List (List UInt8)) (rest : List UInt8) :
    decode (messages.flatMap frame ++ rest) = messages ++ decode rest := by
  induction messages with
  | nil => rfl
  | cons message messages ih =>
    rw [List.flatMap_cons, List.append_assoc, decode_frame, ih]
    rfl

/-- Part of a frame is part of its length, or the length and part of the message. -/
theorem part_cases {message bytes : List UInt8} (h : bytes <+: frame message) :
    bytes <+: decimal message.length ∨
      ∃ part, bytes = decimal message.length ++ 0x20 :: part ∧ part <+: message := by
  have hlength : decimal message.length <+: frame message := List.prefix_append _ _
  rcases List.prefix_or_prefix_of_prefix h hlength with hdigits | ⟨behind, rfl⟩
  · exact .inl hdigits
  · have hbehind : behind <+: 0x20 :: message := (List.prefix_append_right_inj _).1 h
    cases behind with
    | nil => exact .inl (by simp)
    | cons b part =>
      obtain ⟨rfl, hpart⟩ := List.cons_prefix_cons.1 hbehind
      exact .inr ⟨part, rfl, hpart⟩

/-- Of a frame that has not come in whole nothing comes back. -/
theorem decode_part {message bytes : List UInt8} (h : bytes <+: frame message)
    (hpart : bytes ≠ frame message) : decode bytes = [] := by
  rw [decode]
  split
  · rfl
  · next len behind hsome =>
    rcases part_cases h with hdigits | ⟨part, rfl, hstart⟩
    · rw [readHeader_none fun b hb => isDigit_decimal _ b (hdigits.subset hb)] at hsome
      cases hsome
    · rw [readHeader_decimal] at hsome
      obtain ⟨rfl, rfl⟩ := Prod.mk.inj (Option.some.inj hsome)
      rw [if_neg]
      intro hle
      rw [hstart.eq_of_length_le hle] at hpart
      exact hpart rfl

/-- What comes back of whole frames and part of one more. -/
theorem decode_frames_part {messages : List (List UInt8)} {message bytes : List UInt8}
    (h : bytes <+: frame message) :
    decode (messages.flatMap frame ++ bytes) =
      messages ++ if bytes = frame message then [message] else [] := by
  rw [decode_frames]
  congr 1
  split
  · next hwhole =>
    have hempty : decode [] = [] := by rw [decode]; rfl
    rw [hwhole, ← List.append_nil (frame message), decode_frame, hempty]
  · next hpart => exact decode_part h hpart

end SolidSyslog.Lib.OctetCounting
