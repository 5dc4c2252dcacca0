import SolidSyslog.Format.Formatter
import SolidSyslog.Lib.Escaping
import SolidSyslog.Lib.Utf8

/-!
# The strings the formatter writes

The string writers of `SolidSyslogFormatter.c`, with the UTF-8 checks they make. What they write is
sanitised text: a bounded string the text of the bytes it takes, an escaped string the escape of a
text no longer than it may decode to, a printable string one character for each byte.
-/

namespace SolidSyslog.Format

open Lib

/-! ## C strings -/

/-- The character at a place of a C string, at whose end stands the terminator. -/
def charAt (source : Bytes) (i : Nat) : UInt8 :=
  source.getD i 0

/-- The bytes of a C string before its terminator. -/
def cString (source : Bytes) : Bytes :=
  source.takeWhile (· ≠ 0)

/-! ## UTF-8 validation -/

/-- `SolidSyslogUtf8_IsAsciiByte`. -/
def isAsciiByte (byte : UInt8) : Bool :=
  byte &&& 0x80 = 0

/-- `SolidSyslogUtf8_IsContinuationByte`. -/
def isContinuationByte (byte : UInt8) : Bool :=
  byte &&& 0xC0 = 0x80

/-- `Formatter_IsOverlongTwoByteLead`. -/
def isOverlongTwoByteLead (byte : UInt8) : Bool :=
  byte &&& 0xFE = 0xC0

/-- `Formatter_IsValidUtf8TwoByte`. -/
def isValidUtf8TwoByte (lead continuation1 : UInt8) : Bool :=
  isTwoByteLead lead && !isOverlongTwoByteLead lead && isContinuationByte continuation1

/-- `Formatter_IsOverlongThreeByteEncoding`. -/
def isOverlongThreeByteEncoding (lead continuation1 : UInt8) : Bool :=
  lead = 0xE0 && continuation1 &&& 0xE0 = 0x80

/-- `Formatter_IsUtf16SurrogateEncoding`. -/
def isUtf16SurrogateEncoding (lead continuation1 : UInt8) : Bool :=
  lead = 0xED && continuation1 &&& 0xE0 = 0xA0

/-- `Formatter_IsValidUtf8ThreeByte`. -/
def isValidUtf8ThreeByte (lead continuation1 continuation2 : UInt8) : Bool :=
  isThreeByteLead lead && isContinuationByte continuation1 && isContinuationByte continuation2 &&
    !isOverlongThreeByteEncoding lead continuation1 && !isUtf16SurrogateEncoding lead continuation1

/-- `Formatter_IsOverlongFourByteEncoding`. -/
def isOverlongFourByteEncoding (lead continuation1 : UInt8) : Bool :=
  lead = 0xF0 && continuation1 &&& 0xF0 = 0x80

/-- `Formatter_IsAboveUnicodeMaxEncoding`. -/
def isAboveUnicodeMaxEncoding (lead continuation1 : UInt8) : Bool :=
  lead = 0xF4 && !(continuation1 &&& 0xF0 = 0x80) || 0xF5 ≤ lead && lead ≤ 0xF7

/-- `Formatter_IsValidUtf8FourByte`. -/
def isValidUtf8FourByte (lead continuation1 continuation2 continuation3 : UInt8) : Bool :=
  isFourByteLead lead && isContinuationByte continuation1 && isContinuationByte continuation2 &&
    isContinuationByte continuation3 && !isOverlongFourByteEncoding lead continuation1 &&
    !isAboveUnicodeMaxEncoding lead continuation1

/-- `Formatter_Utf8CodepointLength`. -/
def utf8CodepointLength (source : Bytes) : Nat :=
  let byte := charAt source
  if isAsciiByte (byte 0) then 1
  else if byte 1 ≠ 0 && isValidUtf8TwoByte (byte 0) (byte 1) then 2
  else if byte 1 ≠ 0 && byte 2 ≠ 0 && isValidUtf8ThreeByte (byte 0) (byte 1) (byte 2) then 3
  else if byte 1 ≠ 0 && byte 2 ≠ 0 && byte 3 ≠ 0 &&
      isValidUtf8FourByte (byte 0) (byte 1) (byte 2) (byte 3) then 4
  else 0

/-- `Formatter_CodepointFits`. -/
def codepointFits (codepointLength remainingDecodedLength : Nat) : Bool :=
  0 < codepointLength && codepointLength ≤ remainingDecodedLength

/-- `Formatter_NeedsEscape`. -/
def needsEscape (value : UInt8) : Bool :=
  value = 0x22 || value = 0x5C || value = 0x5D

/-- `REPLACEMENT_CHARACTER`. -/
def replacementCharacter : Bytes :=
  [0xEF, 0xBF, 0xBD]

/-! ## The loops -/

/-- The loop of `SolidSyslogFormatter_BoundedString`, from a place of its source on. -/
def boundedBytes : Bytes → Nat → Bytes
  | [], _ => []
  | b :: rest, maxLength =>
    if 0 < maxLength && b ≠ 0 then
      let codepointLength := utf8CodepointLength (b :: rest)
      if codepointFits codepointLength maxLength then
        (b :: rest).take codepointLength ++
          boundedBytes ((b :: rest).drop codepointLength) (maxLength - codepointLength)
      else replacementCharacter ++ boundedBytes rest (maxLength - 1)
    else []
termination_by source => source.length
decreasing_by
  · next hfits =>
    simp only [codepointFits, Bool.and_eq_true, decide_eq_true_eq] at hfits
    simp only [List.length_drop, List.length_cons]
    omega
  · simp

/-- The loop of `SolidSyslogFormatter_EscapedString`, from a place of its source on, with what may
still be decoded. -/
def escapedBytes : Bytes → Nat → Bytes
  | [], _ => []
  | b :: rest, remaining =>
    if b = 0 then []
    else if needsEscape b then
      if codepointFits 1 remaining then [0x5C, b] ++ escapedBytes rest (remaining - 1) else []
    else
      let codepointLength := utf8CodepointLength (b :: rest)
      if codepointFits codepointLength remaining then
        (b :: rest).take codepointLength ++
          escapedBytes ((b :: rest).drop codepointLength) (remaining - codepointLength)
      else if codepointFits 3 remaining then
        replacementCharacter ++ escapedBytes rest (remaining - 3)
      else []
termination_by source => source.length
decreasing_by
  · simp
  · next hfits =>
    simp only [codepointFits, Bool.and_eq_true, decide_eq_true_eq] at hfits
    simp only [List.length_drop, List.length_cons]
    omega
  · simp

/-- `Formatter_WritePrintableUsAsciiChar`: what it writes. -/
def printableUsAscii (value : UInt8) : UInt8 :=
  if isPrintableUsAscii value then value else 0x3F

/-- The loop of `SolidSyslogFormatter_PrintUsAsciiString`, from a place of its source on. -/
def printUsAsciiBytes : Bytes → Nat → Bytes
  | [], _ => []
  | b :: rest, maxLength =>
    if 0 < maxLength && b ≠ 0 then
      printableUsAscii b :: printUsAsciiBytes rest (maxLength - 1)
    else []

namespace Formatter

/-- `SolidSyslogFormatter_Bom`. -/
def bom (f : Formatter) : Formatter :=
  f.writeBytes [0xEF, 0xBB, 0xBF]

/-- `SolidSyslogFormatter_NilValue`. -/
def nilValue (f : Formatter) : Formatter :=
  f.asciiCharacter 0x2D

/-- `SolidSyslogFormatter_BoundedString`. -/
def boundedString (f : Formatter) (source : Bytes) (maxLength : Nat) : Formatter :=
  f.writeBytes (boundedBytes source maxLength)

/-- `SolidSyslogFormatter_EscapedString`. -/
def escapedString (f : Formatter) (source : Bytes) (maxDecodedLength : Nat) : Formatter :=
  f.writeBytes (escapedBytes source maxDecodedLength)

/-- `SolidSyslogFormatter_PrintUsAsciiString`. -/
def printUsAsciiString (f : Formatter) (source : Bytes) (maxLength : Nat) : Formatter :=
  f.writeBytes (printUsAsciiBytes source maxLength)

/-- `SolidSyslogFormatter_Length`. -/
def length (f : Formatter) : Nat :=
  f.bytes.length

end Formatter

/-! ## The checks are those of the grammar -/

theorem isAsciiByte_eq (b : UInt8) : isAsciiByte b = Utf8.isChar [b] := by
  apply byte_forall (P := fun b => isAsciiByte b = Utf8.isChar [b])
  decide +kernel

theorem isContinuationByte_eq (b : UInt8) : isContinuationByte b = Utf8.isTail b := by
  apply byte_forall (P := fun b => isContinuationByte b = Utf8.isTail b)
  decide +kernel

/-- The three classes of leads are told apart by the length they announce. -/
theorem lead_eq (b : UInt8) : isTwoByteLead b = decide (Utf8.leadLength b = 2) ∧
    isThreeByteLead b = decide (Utf8.leadLength b = 3) ∧
    isFourByteLead b = decide (Utf8.leadLength b = 4) := by
  apply byte_forall (P := fun b => isTwoByteLead b = decide (Utf8.leadLength b = 2) ∧
    isThreeByteLead b = decide (Utf8.leadLength b = 3) ∧
    isFourByteLead b = decide (Utf8.leadLength b = 4))
  decide +kernel

/-- The masks of the two bytes that decide, as ranges. -/
theorem mask_ranges (b : UInt8) :
    ((isTwoByteLead b && !isOverlongTwoByteLead b) = true ↔ 0xC2 ≤ b.toNat ∧ b.toNat ≤ 0xDF) ∧
    (isThreeByteLead b = true ↔ 0xE0 ≤ b.toNat ∧ b.toNat ≤ 0xEF) ∧
    (isFourByteLead b = true ↔ 0xF0 ≤ b.toNat ∧ b.toNat ≤ 0xF7) ∧
    (b &&& 0xE0 = 0x80 ↔ 0x80 ≤ b.toNat ∧ b.toNat ≤ 0x9F) ∧
    (b &&& 0xE0 = 0xA0 ↔ 0xA0 ≤ b.toNat ∧ b.toNat ≤ 0xBF) ∧
    (b &&& 0xF0 = 0x80 ↔ 0x80 ≤ b.toNat ∧ b.toNat ≤ 0x8F) := by
  apply byte_forall (P := fun b =>
    ((isTwoByteLead b && !isOverlongTwoByteLead b) = true ↔ 0xC2 ≤ b.toNat ∧ b.toNat ≤ 0xDF) ∧
    (isThreeByteLead b = true ↔ 0xE0 ≤ b.toNat ∧ b.toNat ≤ 0xEF) ∧
    (isFourByteLead b = true ↔ 0xF0 ≤ b.toNat ∧ b.toNat ≤ 0xF7) ∧
    (b &&& 0xE0 = 0x80 ↔ 0x80 ≤ b.toNat ∧ b.toNat ≤ 0x9F) ∧
    (b &&& 0xE0 = 0xA0 ↔ 0xA0 ≤ b.toNat ∧ b.toNat ≤ 0xBF) ∧
    (b &&& 0xF0 = 0x80 ↔ 0x80 ≤ b.toNat ∧ b.toNat ≤ 0x8F))
  decide +kernel

theorem isValidUtf8TwoByte_eq (a b : UInt8) : isValidUtf8TwoByte a b = Utf8.isChar [a, b] := by
  rw [Bool.eq_iff_iff, Utf8.isChar_two, isValidUtf8TwoByte, Bool.and_eq_true,
    (mask_ranges a).1, isContinuationByte_eq]

theorem isValidUtf8ThreeByte_eq (a b c : UInt8) :
    isValidUtf8ThreeByte a b c = Utf8.isChar [a, b, c] := by
  obtain ⟨-, hlead, -, -⟩ := mask_ranges a
  obtain ⟨-, -, -, hlow, hhigh, -⟩ := mask_ranges b
  rw [Bool.eq_iff_iff, Utf8.isChar_three]
  simp only [isValidUtf8ThreeByte, isOverlongThreeByteEncoding, isUtf16SurrogateEncoding, hlead,
    hlow, hhigh, isContinuationByte_eq, Utf8.isTail_iff, Bool.and_eq_true, Bool.not_eq_true',
    Bool.and_eq_false_iff, decide_eq_false_iff_not]
  simp only [← UInt8.toNat_inj, UInt8.reduceToNat]
  omega

theorem isValidUtf8FourByte_eq (a b c d : UInt8) :
    isValidUtf8FourByte a b c d = Utf8.isChar [a, b, c, d] := by
  obtain ⟨-, -, hlead, -⟩ := mask_ranges a
  obtain ⟨-, -, -, -, -, hlow⟩ := mask_ranges b
  rw [Bool.eq_iff_iff, Utf8.isChar_four]
  simp only [isValidUtf8FourByte, isOverlongFourByteEncoding, isAboveUnicodeMaxEncoding, hlead,
    hlow, isContinuationByte_eq, Utf8.isTail_iff, Bool.and_eq_true, Bool.not_eq_true',
    Bool.and_eq_false_iff, Bool.or_eq_false_iff, Bool.not_eq_false', decide_eq_true_eq,
    decide_eq_false_iff_not]
  simp only [UInt8.le_iff_toNat_le, ← UInt8.toNat_inj, UInt8.reduceToNat]
  omega

/-- A terminator is no byte of a longer character. -/
theorem ne_zero_of_isChar {b : UInt8} {rest : Bytes} (h : Utf8.isChar (b :: rest) = true) :
    ∀ x ∈ rest, x ≠ 0 := by
  rintro x hx rfl
  have htail := (Utf8.isChar_cons h).2 0 hx
  cases htail

/-- The codepoint at the head of a string is the character there. -/
theorem utf8CodepointLength_eq (b : UInt8) (rest : Bytes) :
    utf8CodepointLength (b :: rest) = Utf8.charLength (b :: rest) := by
  have htwo : ∀ x, (x ≠ 0 && Utf8.isChar [b, x]) = Utf8.isChar [b, x] := by
    intro x
    by_cases h : Utf8.isChar [b, x] = true
    · simp [h, ne_zero_of_isChar h x]
    · simp [h]
  have hthree : ∀ x y, (x ≠ 0 && y ≠ 0 && Utf8.isChar [b, x, y]) = Utf8.isChar [b, x, y] := by
    intro x y
    by_cases h : Utf8.isChar [b, x, y] = true
    · simp [h, ne_zero_of_isChar h x, ne_zero_of_isChar h y]
    · simp [h]
  have hfour : ∀ x y z, (x ≠ 0 && y ≠ 0 && z ≠ 0 && Utf8.isChar [b, x, y, z]) =
      Utf8.isChar [b, x, y, z] := by
    intro x y z
    by_cases h : Utf8.isChar [b, x, y, z] = true
    · simp [h, ne_zero_of_isChar h x, ne_zero_of_isChar h y, ne_zero_of_isChar h z]
    · simp [h]
  unfold utf8CodepointLength Utf8.charLength
  simp only [isAsciiByte_eq, isValidUtf8TwoByte_eq, isValidUtf8ThreeByte_eq,
    isValidUtf8FourByte_eq]
  match rest with
  | [] =>
    simp only [charAt, List.getD_cons_zero, List.getD_cons_succ, List.getD_nil, ne_eq,
      not_true_eq_false, decide_false, Bool.false_and, Bool.false_eq_true, if_false]
    split_ifs <;> simp_all
  | [x] =>
    have hx := htwo x
    simp only [charAt, List.getD_cons_zero, List.getD_cons_succ, List.getD_nil, hx, ne_eq,
      not_true_eq_false, decide_false, Bool.and_false, Bool.false_and, Bool.false_eq_true, if_false]
    split_ifs <;> simp_all
  | [x, y] =>
    have hx := htwo x
    have hy := hthree x y
    simp only [charAt, List.getD_cons_zero, List.getD_cons_succ, List.getD_nil, hx, hy, ne_eq,
      not_true_eq_false, decide_false, Bool.and_false, Bool.false_and, Bool.false_eq_true, if_false]
    split_ifs <;> simp_all
  | x :: y :: z :: more =>
    simp only [charAt, List.getD_cons_zero, List.getD_cons_succ, htwo, hthree, hfour]
    rfl

/-! ## Sanitised text -/

/-- What an escaped string is un-escaped to: the sanitised source, as far as it may be decoded.
Where a character does not fit, U+FFFD takes the place of its first byte if that does. -/
def sanitiseWithin : Bytes → Nat → Bytes
  | [], _ => []
  | b :: rest, budget =>
    if codepointFits (Utf8.charLength (b :: rest)) budget then
      (b :: rest).take (Utf8.charLength (b :: rest)) ++
        sanitiseWithin ((b :: rest).drop (Utf8.charLength (b :: rest)))
          (budget - Utf8.charLength (b :: rest))
    else if codepointFits 3 budget then Utf8.replacement ++ sanitiseWithin rest (budget - 3)
    else []
termination_by source => source.length
decreasing_by
  · next hfits =>
    simp only [codepointFits, Bool.and_eq_true, decide_eq_true_eq] at hfits
    simp only [List.length_drop, List.length_cons]
    omega
  · simp

theorem codepointFits_iff {n budget : Nat} :
    codepointFits n budget = true ↔ 0 < n ∧ n ≤ budget := by
  simp [codepointFits]

theorem cString_cons {b : UInt8} (hb : b ≠ 0) (rest : Bytes) :
    cString (b :: rest) = b :: cString rest := by
  simp [cString, hb]

theorem cString_isPrefix (source : Bytes) : cString source <+: source :=
  List.takeWhile_prefix _

theorem cString_append {c : Bytes} (hc : ∀ x ∈ c, x ≠ 0) (more : Bytes) :
    cString (c ++ more) = c ++ cString more := by
  induction c with
  | nil => rfl
  | cons b c ih =>
    rw [List.cons_append, cString_cons (hc b List.mem_cons_self),
      ih fun x hx => hc x (List.mem_cons_of_mem _ hx), List.cons_append]

/-- A character that does not begin with a terminator has none. -/
theorem ne_zero_of_char {c more rest : Bytes} {b : UInt8} (hc : Utf8.isChar c = true) (hb : b ≠ 0)
    (htext : b :: rest = c ++ more) : ∀ x ∈ c, x ≠ 0 := by
  match c, hc with
  | a :: tail, hc =>
    obtain ⟨rfl, -⟩ := List.cons.inj htext
    intro x hx
    rcases List.mem_cons.1 hx with rfl | hx
    · exact hb
    · exact ne_zero_of_isChar hc x hx

/-- A codepoint that fits is a character at the head. -/
theorem char_of_fits {b : UInt8} {rest : Bytes} {budget : Nat}
    (h : codepointFits (Utf8.charLength (b :: rest)) budget = true) : ∃ c more,
      Utf8.isChar c = true ∧ b :: rest = c ++ more ∧ Utf8.charLength (b :: rest) = c.length ∧
      0 < c.length ∧ c.length ≤ budget := by
  obtain ⟨hpos, hle⟩ := codepointFits_iff.1 h
  obtain ⟨hc, hlength⟩ := Utf8.charLength_spec hpos
  refine ⟨_, _, hc, (List.take_append_drop _ _).symm, hlength.symm, ?_, ?_⟩
  · omega
  · omega

/-- One that does not fit is none, or is too long. -/
theorem lt_of_not_fits {text c : Bytes} {budget : Nat}
    (h : ¬ codepointFits (Utf8.charLength text) budget = true) (hc : Utf8.isChar c = true)
    (hpre : c <+: text) : budget < c.length := by
  rw [codepointFits_iff, Utf8.charLength_of_isPrefix hc hpre] at h
  have hpos := (Utf8.isChar_length hc).1
  omega

/-- A bounded string is the sanitised text of the bytes it takes. -/
theorem boundedBytes_eq (source : Bytes) (maxLength : Nat) :
    boundedBytes source maxLength = Utf8.sanitise ((cString source).take maxLength) := by
  induction source, maxLength using boundedBytes.induct with
  | case1 maxLength => simp [boundedBytes, cString]
  | case2 b rest maxLength hmore codepointLength hfits ih =>
    simp only [Bool.and_eq_true, decide_eq_true_eq] at hmore
    rw [boundedBytes, if_pos (by simp [hmore])]
    dsimp only [codepointLength] at *
    rw [if_pos hfits, ih]
    rw [utf8CodepointLength_eq] at *
    obtain ⟨c, more, hc, htext, hlength, -, hle⟩ := char_of_fits hfits
    rw [hlength, htext, List.take_left, List.drop_left,
      cString_append (ne_zero_of_char hc hmore.2 htext), List.take_append,
      List.take_of_length_le hle, Utf8.sanitise_char_append hc]
  | case3 b rest maxLength hmore codepointLength hfits ih =>
    simp only [Bool.and_eq_true, decide_eq_true_eq] at hmore
    obtain ⟨hpos, hb⟩ := hmore
    rw [boundedBytes, if_pos (by simp [hpos, hb])]
    dsimp only [codepointLength] at *
    rw [if_neg hfits, ih]
    rw [utf8CodepointLength_eq] at hfits
    obtain ⟨m, rfl⟩ := Nat.exists_eq_succ_of_ne_zero (Nat.pos_iff_ne_zero.1 hpos)
    have hnone : Utf8.charLength ((cString (b :: rest)).take (m + 1)) = 0 := by
      apply Utf8.charLength_eq_zero
      intro c hc hpre
      have hshort := hpre.length_le
      have hwhole := (hpre.trans (List.take_prefix _ _)).trans (cString_isPrefix _)
      have hlong := lt_of_not_fits hfits hc hwhole
      rw [List.length_take] at hshort
      omega
    rw [cString_cons hb, List.take_succ_cons] at *
    rw [Utf8.sanitise_cons_of_none hnone]
    rfl
  | case4 b rest maxLength hstop =>
    rw [boundedBytes, if_neg hstop]
    simp only [Bool.and_eq_true, decide_eq_true_eq, not_and_or, not_lt, Nat.le_zero,
      not_not] at hstop
    rcases hstop with rfl | rfl
    · simp
    · simp [cString]

/-- No byte of a longer character is special. -/
theorem needsEscape_of_char {c : Bytes} (hc : Utf8.isChar c = true) (hlong : 1 < c.length) :
    ∀ x ∈ c, needsEscape x = false := by
  have hhigh : ∀ x : UInt8, 0x80 ≤ x.toNat → needsEscape x = false := by
    intro x hx
    simp only [needsEscape, Bool.or_eq_false_iff, decide_eq_false_iff_not, ← UInt8.toNat_inj,
      UInt8.reduceToNat]
    omega
  match c, hc with
  | a :: tail, hc =>
    obtain ⟨hlength, htails⟩ := Utf8.isChar_cons hc
    intro x hx
    apply hhigh
    rcases List.mem_cons.1 hx with rfl | hx
    · by_contra hlow
      have hone := Utf8.leadLength_of_ascii (b := x) (by
        rw [UInt8.le_iff_toNat_le]
        change x.toNat ≤ 0x7F
        omega)
      rw [List.length_cons] at hlong
      omega
    · exact (Utf8.isTail_iff.1 (htails x hx)).1

/-- A special byte is a character. -/
theorem charLength_of_needsEscape {b : UInt8} (h : needsEscape b = true) (rest : Bytes) :
    Utf8.charLength (b :: rest) = 1 := by
  have hchar : Utf8.isChar [b] = true := by
    simp only [needsEscape, Bool.or_eq_true, decide_eq_true_eq] at h
    rcases h with (rfl | rfl) | rfl <;> rfl
  exact Utf8.charLength_append hchar rest

theorem sanitiseWithin_char {c : Bytes} (hc : Utf8.isChar c = true) {budget : Nat}
    (hle : c.length ≤ budget) (more : Bytes) :
    sanitiseWithin (c ++ more) budget = c ++ sanitiseWithin more (budget - c.length) := by
  match c, hc with
  | a :: tail, hc =>
    have hlength := Utf8.charLength_append hc more
    have hfits : codepointFits (a :: tail).length budget = true :=
      codepointFits_iff.2 ⟨(Utf8.isChar_length hc).1, hle⟩
    rw [List.cons_append] at *
    rw [sanitiseWithin, hlength, if_pos hfits, ← List.cons_append, List.take_left, List.drop_left]

theorem sanitiseWithin_of_not_fits {b : UInt8} {rest : Bytes} {budget : Nat}
    (h : ¬ codepointFits (Utf8.charLength (b :: rest)) budget = true) :
    sanitiseWithin (b :: rest) budget =
      if 3 ≤ budget then Utf8.replacement ++ sanitiseWithin rest (budget - 3) else [] := by
  rw [sanitiseWithin, if_neg h]
  simp [codepointFits]

/-- A character that does not fit with the terminator out of sight does not fit. -/
theorem not_fits_cString {b : UInt8} {rest : Bytes} {budget : Nat}
    (h : ¬ codepointFits (Utf8.charLength (b :: rest)) budget = true) :
    ¬ codepointFits (Utf8.charLength (cString (b :: rest))) budget = true := by
  intro hfits
  rw [codepointFits_iff] at hfits
  obtain ⟨hc, hlength⟩ := Utf8.charLength_spec hfits.1
  have hlong := lt_of_not_fits h hc ((List.take_prefix _ _).trans (cString_isPrefix _))
  omega

/-- An escaped string is the escape of its text. -/
theorem escapedBytes_eq (source : Bytes) (budget : Nat) : escapedBytes source budget =
    Escaping.escape needsEscape 0x5C (sanitiseWithin (cString source) budget) := by
  have hplainReplacement : Escaping.escape needsEscape 0x5C Utf8.replacement = Utf8.replacement :=
    rfl
  induction source, budget using escapedBytes.induct with
  | case1 budget => simp [escapedBytes, cString, sanitiseWithin]
  | case2 rest budget => simp [escapedBytes, cString, sanitiseWithin]
  | case3 b rest budget hb hspecial hfits ih =>
    have hlength := charLength_of_needsEscape hspecial (cString rest)
    rw [escapedBytes, if_neg hb, if_pos hspecial, if_pos hfits, cString_cons hb, sanitiseWithin,
      hlength, if_pos hfits, ih]
    simp [Escaping.escape_cons, hspecial]
  | case4 b rest budget hb hspecial hfits =>
    have hlength := charLength_of_needsEscape hspecial (cString rest)
    rw [escapedBytes, if_neg hb, if_pos hspecial, if_neg hfits, cString_cons hb,
      sanitiseWithin_of_not_fits (by rwa [hlength])]
    rw [codepointFits_iff] at hfits
    rw [if_neg (by omega), Escaping.escape_nil]
  | case5 b rest budget hb hplain codepointLength hfits ih =>
    dsimp only [codepointLength] at *
    rw [escapedBytes, if_neg hb, if_neg hplain]
    dsimp only
    rw [if_pos hfits, ih]
    rw [utf8CodepointLength_eq] at *
    obtain ⟨c, more, hc, htext, hlength, hpos, hle⟩ := char_of_fits hfits
    have hplainChar : Escaping.escape needsEscape 0x5C c = c := by
      apply Escaping.escape_of_plain
      by_cases hone : 1 < c.length
      · exact needsEscape_of_char hc hone
      · obtain ⟨a, rfl⟩ := List.length_eq_one_iff.1 (by omega : c.length = 1)
        obtain ⟨rfl, -⟩ := List.cons.inj htext
        simpa using hplain
    rw [hlength, htext, List.take_left, List.drop_left,
      cString_append (ne_zero_of_char hc hb htext), sanitiseWithin_char hc hle,
      Escaping.escape_append, hplainChar]
  | case6 b rest budget hb hplain codepointLength hfits hroom ih =>
    dsimp only [codepointLength] at *
    rw [escapedBytes, if_neg hb, if_neg hplain]
    dsimp only
    rw [if_neg hfits, if_pos hroom, ih]
    rw [utf8CodepointLength_eq] at hfits
    have hnone := not_fits_cString hfits
    rw [cString_cons hb] at *
    rw [sanitiseWithin_of_not_fits hnone, if_pos (codepointFits_iff.1 hroom).2,
      Escaping.escape_append, hplainReplacement]
    rfl
  | case7 b rest budget hb hplain codepointLength hfits hroom =>
    dsimp only [codepointLength] at *
    rw [escapedBytes, if_neg hb, if_neg hplain]
    dsimp only
    rw [if_neg hfits, if_neg hroom]
    rw [utf8CodepointLength_eq] at hfits
    have hnone := not_fits_cString hfits
    rw [codepointFits_iff] at hroom
    rw [cString_cons hb] at *
    rw [sanitiseWithin_of_not_fits hnone, if_neg (by omega), Escaping.escape_nil]

/-! ## What is written is well-formed -/

theorem wellFormed_sanitiseWithin (source : Bytes) (budget : Nat) :
    Utf8.WellFormed (sanitiseWithin source budget) := by
  induction source, budget using sanitiseWithin.induct with
  | case1 budget =>
    rw [sanitiseWithin]
    exact Utf8.wellFormed_nil
  | case2 b rest budget hfits ih =>
    rw [sanitiseWithin, if_pos hfits]
    have hc := (Utf8.charLength_spec (codepointFits_iff.1 hfits).1).1
    exact (Utf8.wellFormed_char hc).append ih
  | case3 b rest budget hfits hroom ih =>
    rw [sanitiseWithin, if_neg hfits, if_pos hroom]
    exact (Utf8.wellFormed_char Utf8.isChar_replacement).append ih
  | case4 b rest budget hfits hroom =>
    rw [sanitiseWithin, if_neg hfits, if_neg hroom]
    exact Utf8.wellFormed_nil

/-- Marks do not break a text. -/
theorem wellFormed_escape {text : Bytes} (h : Utf8.WellFormed text) :
    Utf8.WellFormed (Escaping.escape needsEscape 0x5C text) := by
  obtain ⟨chars, hchars, rfl⟩ := h
  induction chars with
  | nil => exact Utf8.wellFormed_nil
  | cons c chars ih =>
    rw [List.flatten_cons, Escaping.escape_append]
    refine Utf8.WellFormed.append ?_ (ih fun c' hc' => hchars c' (List.mem_cons_of_mem _ hc'))
    have hc := hchars c List.mem_cons_self
    by_cases hone : 1 < c.length
    · rw [Escaping.escape_of_plain (needsEscape_of_char hc hone)]
      exact Utf8.wellFormed_char hc
    · have hpos := (Utf8.isChar_length hc).1
      obtain ⟨a, rfl⟩ := List.length_eq_one_iff.1 (by omega : c.length = 1)
      rw [Escaping.escape_cons, Escaping.escape_nil, List.append_nil]
      split
      · exact (Utf8.wellFormed_char (c := [0x5C]) rfl).append (Utf8.wellFormed_char hc)
      · exact Utf8.wellFormed_char hc

theorem wellFormed_escapedBytes (source : Bytes) (budget : Nat) :
    Utf8.WellFormed (escapedBytes source budget) := by
  rw [escapedBytes_eq]
  exact wellFormed_escape (wellFormed_sanitiseWithin _ _)

theorem wellFormed_boundedBytes (source : Bytes) (maxLength : Nat) :
    Utf8.WellFormed (boundedBytes source maxLength) := by
  rw [boundedBytes_eq]
  exact Utf8.wellFormed_sanitise _

/-! ## Printable characters -/

theorem printUsAsciiBytes_eq (source : Bytes) (maxLength : Nat) :
    printUsAsciiBytes source maxLength =
      ((cString source).take maxLength).map printableUsAscii := by
  induction source generalizing maxLength with
  | nil => simp [printUsAsciiBytes, cString]
  | cons b rest ih =>
    rw [printUsAsciiBytes]
    split
    · next hmore =>
      simp only [Bool.and_eq_true, decide_eq_true_eq] at hmore
      obtain ⟨hpos, hb⟩ := hmore
      obtain ⟨m, rfl⟩ := Nat.exists_eq_succ_of_ne_zero (Nat.pos_iff_ne_zero.1 hpos)
      rw [cString_cons hb, List.take_succ_cons, List.map_cons, ih]
      rfl
    · next hstop =>
      simp only [Bool.and_eq_true, decide_eq_true_eq, not_and_or, not_lt, Nat.le_zero,
        not_not] at hstop
      rcases hstop with rfl | rfl
      · simp
      · simp [cString]

theorem isPrintableUsAscii_printableUsAscii (b : UInt8) :
    isPrintableUsAscii (printableUsAscii b) = true := by
  unfold printableUsAscii
  split
  · assumption
  · rfl

/-- Whatever the source, each character written is printable. -/
theorem isPrintableUsAscii_of_mem {source : Bytes} {maxLength : Nat} :
    ∀ x ∈ printUsAsciiBytes source maxLength, isPrintableUsAscii x = true := by
  intro x hx
  rw [printUsAsciiBytes_eq] at hx
  obtain ⟨b, -, rfl⟩ := List.mem_map.1 hx
  exact isPrintableUsAscii_printableUsAscii b

theorem ascii_of_printable {x : UInt8} (h : isPrintableUsAscii x = true) : x ≤ 0x7F := by
  simp only [isPrintableUsAscii, Bool.and_eq_true, decide_eq_true_eq] at h
  exact UInt8.le_trans h.2 (by decide)

end SolidSyslog.Format
