import SolidSyslog.Format.Header

/-!
# What the string writers read

The loops of the string writers over a memory that ends with the terminator: a read past it fails.
None does, and what is written is the sanitised text of the string.
-/

namespace SolidSyslog.Format

open Lib

/-! ## The loops with their reads -/

/-- `Formatter_Utf8CodepointLength`, read by read: a byte is read only where the ones before it were
no terminator. -/
def readCodepointLength (memory : Bytes) : Option Nat :=
  memory[0]?.bind fun byte0 =>
  if isAsciiByte byte0 then some 1
  else memory[1]?.bind fun byte1 =>
  if byte1 = 0 then some 0
  else if isValidUtf8TwoByte byte0 byte1 then some 2
  else memory[2]?.bind fun byte2 =>
  if byte2 = 0 then some 0
  else if isValidUtf8ThreeByte byte0 byte1 byte2 then some 3
  else memory[3]?.bind fun byte3 =>
  if byte3 = 0 then some 0
  else if isValidUtf8FourByte byte0 byte1 byte2 byte3 then some 4
  else some 0

/-- The first bytes of a memory. -/
def readBytes (memory : Bytes) (count : Nat) : Option Bytes :=
  if count ≤ memory.length then some (memory.take count) else none

/-- `SolidSyslogFormatter_BoundedString`, from a place of the memory on: what it writes, or a read
past the memory. -/
def readBounded (memory : Bytes) (maxLength : Nat) : Option Bytes :=
  if 0 < maxLength then
    match memory with
    | [] => none
    | b :: rest =>
      if b = 0 then some []
      else (readCodepointLength (b :: rest)).bind fun codepointLength =>
        if codepointFits codepointLength maxLength then
          (readBytes (b :: rest) codepointLength).bind fun bytes =>
            (readBounded ((b :: rest).drop codepointLength) (maxLength - codepointLength)).map
              (bytes ++ ·)
        else (readBounded rest (maxLength - 1)).map (replacementCharacter ++ ·)
  else some []
termination_by memory.length
decreasing_by
  · next hfits =>
    rw [codepointFits_iff] at hfits
    simp only [List.length_drop, List.length_cons]
    omega
  · simp

/-- `SolidSyslogFormatter_EscapedString`, from a place of the memory on. -/
def readEscaped (memory : Bytes) (remaining : Nat) : Option Bytes :=
  match memory with
  | [] => none
  | b :: rest =>
    if b = 0 then some []
    else if needsEscape b then
      if codepointFits 1 remaining then (readEscaped rest (remaining - 1)).map ([0x5C, b] ++ ·)
      else some []
    else (readCodepointLength (b :: rest)).bind fun codepointLength =>
      if codepointFits codepointLength remaining then
        (readBytes (b :: rest) codepointLength).bind fun bytes =>
          (readEscaped ((b :: rest).drop codepointLength) (remaining - codepointLength)).map
            (bytes ++ ·)
      else if codepointFits 3 remaining then
        (readEscaped rest (remaining - 3)).map (replacementCharacter ++ ·)
      else some []
termination_by memory.length
decreasing_by
  · simp
  · next hfits =>
    rw [codepointFits_iff] at hfits
    simp only [List.length_drop, List.length_cons]
    omega
  · simp

/-! ## No read past the terminator -/

/-- A C string in a memory that ends with its terminator. -/
def terminated (source : Bytes) : Bytes :=
  cString source ++ [0]

theorem cString_ne_zero (source : Bytes) : ∀ x ∈ cString source, x ≠ 0 := by
  intro x hx
  induction source with
  | nil => cases hx
  | cons b rest ih =>
    by_cases hb : b = 0
    · simp [cString, hb] at hx
    · rw [cString_cons hb, List.mem_cons] at hx
      rcases hx with rfl | hx
      · exact hb
      · exact ih hx

theorem cString_of_ne_zero {text : Bytes} (h : ∀ x ∈ text, x ≠ 0) : cString text = text := by
  simpa [cString] using cString_append h []

@[simp] theorem cString_cString (source : Bytes) : cString (cString source) = cString source :=
  cString_of_ne_zero (cString_ne_zero source)

/-- The length of the codepoint at the head is read without going past the terminator. -/
theorem readCodepointLength_eq {rest : Bytes} (b : UInt8) (hrest : ∀ x ∈ rest, x ≠ 0) :
    readCodepointLength (b :: (rest ++ [0])) = some (utf8CodepointLength (b :: rest)) := by
  unfold readCodepointLength utf8CodepointLength
  match rest, hrest with
  | [], _ =>
    simp [charAt]
    split_ifs <;> rfl
  | [x], hrest =>
    have hx : x ≠ 0 := hrest x (by simp)
    simp [charAt, hx]
    split_ifs <;> rfl
  | [x, y], hrest =>
    have hx : x ≠ 0 := hrest x (by simp)
    have hy : y ≠ 0 := hrest y (by simp)
    simp [charAt, hx, hy]
    split_ifs <;> rfl
  | x :: y :: z :: more, hrest =>
    have hx : x ≠ 0 := hrest x (by simp)
    have hy : y ≠ 0 := hrest y (by simp)
    have hz : z ≠ 0 := hrest z (by simp)
    simp [charAt, hx, hy, hz]
    split_ifs <;> rfl

/-- The bytes of the codepoint at the head are read without the terminator. -/
theorem readBytes_codepoint (b : UInt8) (rest : Bytes) :
    readBytes (b :: (rest ++ [0])) (utf8CodepointLength (b :: rest)) =
        some ((b :: rest).take (utf8CodepointLength (b :: rest))) ∧
      (b :: (rest ++ [0])).drop (utf8CodepointLength (b :: rest)) =
        (b :: rest).drop (utf8CodepointLength (b :: rest)) ++ [0] := by
  rw [utf8CodepointLength_eq] at *
  have hle := Utf8.charLength_le (b :: rest)
  rw [← List.cons_append]
  constructor
  · rw [readBytes, if_pos (by rw [List.length_append]; omega), List.take_append_of_le_length hle]
  · rw [List.drop_append_of_le_length hle]

/-- A bounded string is written without a read past the terminator. -/
theorem readBounded_eq {text : Bytes} (htext : ∀ x ∈ text, x ≠ 0) (maxLength : Nat) :
    readBounded (text ++ [0]) maxLength = some (boundedBytes text maxLength) := by
  induction text, maxLength using boundedBytes.induct with
  | case1 maxLength =>
    rw [List.nil_append, readBounded, boundedBytes]
    simp
  | case2 b rest maxLength hmore codepointLength hfits ih =>
    dsimp only [codepointLength] at *
    have hb := htext b List.mem_cons_self
    have hrest : ∀ x ∈ rest, x ≠ 0 := fun x hx => htext x (List.mem_cons_of_mem _ hx)
    have hpos : 0 < maxLength := by simp_all
    obtain ⟨hbytes, hdrop⟩ := readBytes_codepoint b rest
    rw [boundedBytes, if_pos hmore, if_pos hfits, List.cons_append, readBounded, if_pos hpos,
      if_neg hb, readCodepointLength_eq b hrest, Option.bind_some, if_pos hfits, hbytes,
      Option.bind_some, hdrop, ih fun x hx => htext x (List.mem_of_mem_drop hx)]
    rfl
  | case3 b rest maxLength hmore codepointLength hfits ih =>
    dsimp only [codepointLength] at *
    have hb := htext b List.mem_cons_self
    have hrest : ∀ x ∈ rest, x ≠ 0 := fun x hx => htext x (List.mem_cons_of_mem _ hx)
    have hpos : 0 < maxLength := by simp_all
    rw [boundedBytes, if_pos hmore, if_neg hfits, List.cons_append, readBounded, if_pos hpos,
      if_neg hb, readCodepointLength_eq b hrest, Option.bind_some, if_neg hfits, ih hrest]
    rfl
  | case4 b rest maxLength hstop =>
    have hb := htext b List.mem_cons_self
    have hzero : ¬ 0 < maxLength := by simp_all
    rw [boundedBytes, if_neg hstop, List.cons_append, readBounded, if_neg hzero]

/-- Nor is there one under an escaped string. -/
theorem readEscaped_eq {text : Bytes} (htext : ∀ x ∈ text, x ≠ 0) (budget : Nat) :
    readEscaped (text ++ [0]) budget = some (escapedBytes text budget) := by
  induction text, budget using escapedBytes.induct with
  | case1 budget =>
    rw [List.nil_append, readEscaped, escapedBytes, if_pos rfl]
  | case2 rest budget =>
    exact absurd rfl (htext 0 List.mem_cons_self)
  | case3 b rest budget hb hspecial hfits ih =>
    have hrest : ∀ x ∈ rest, x ≠ 0 := fun x hx => htext x (List.mem_cons_of_mem _ hx)
    rw [escapedBytes, if_neg hb, if_pos hspecial, if_pos hfits, List.cons_append, readEscaped,
      if_neg hb, if_pos hspecial, if_pos hfits, ih hrest]
    rfl
  | case4 b rest budget hb hspecial hfits =>
    rw [escapedBytes, if_neg hb, if_pos hspecial, if_neg hfits, List.cons_append, readEscaped,
      if_neg hb, if_pos hspecial, if_neg hfits]
  | case5 b rest budget hb hplain codepointLength hfits ih =>
    dsimp only [codepointLength] at *
    have hrest : ∀ x ∈ rest, x ≠ 0 := fun x hx => htext x (List.mem_cons_of_mem _ hx)
    obtain ⟨hbytes, hdrop⟩ := readBytes_codepoint b rest
    rw [escapedBytes, if_neg hb, if_neg hplain, List.cons_append, readEscaped, if_neg hb,
      if_neg hplain, readCodepointLength_eq b hrest, Option.bind_some, if_pos hfits, hbytes,
      Option.bind_some, hdrop, ih fun x hx => htext x (List.mem_of_mem_drop hx)]
    dsimp only
    rw [if_pos hfits]
    rfl
  | case6 b rest budget hb hplain codepointLength hfits hroom ih =>
    dsimp only [codepointLength] at *
    have hrest : ∀ x ∈ rest, x ≠ 0 := fun x hx => htext x (List.mem_cons_of_mem _ hx)
    rw [escapedBytes, if_neg hb, if_neg hplain, List.cons_append, readEscaped, if_neg hb,
      if_neg hplain, readCodepointLength_eq b hrest, Option.bind_some, if_neg hfits, if_pos hroom,
      ih hrest]
    dsimp only
    rw [if_neg hfits, if_pos hroom]
    rfl
  | case7 b rest budget hb hplain codepointLength hfits hroom =>
    dsimp only [codepointLength] at *
    have hrest : ∀ x ∈ rest, x ≠ 0 := fun x hx => htext x (List.mem_cons_of_mem _ hx)
    rw [escapedBytes, if_neg hb, if_neg hplain, List.cons_append, readEscaped, if_neg hb,
      if_neg hplain, readCodepointLength_eq b hrest, Option.bind_some, if_neg hfits,
      if_neg hroom]
    dsimp only
    rw [if_neg hfits, if_neg hroom]

/-! ## A bounded string is sanitised text -/

/-- `SolidSyslogFormatter_BoundedString` takes the first bytes of its source and sanitises them. -/
theorem boundedString_sanitises (f : Formatter) (source : Bytes) (maxLength : Nat)
    (hroom : f.bytes.length + (boundedBytes source maxLength).length < f.size) :
    let taken := (cString source).take maxLength
    readBounded (terminated source) maxLength = some (Utf8.sanitise taken) ∧
      (f.boundedString source maxLength).bytes = f.bytes ++ Utf8.sanitise taken ∧
      Utf8.WellFormed (Utf8.sanitise taken) ∧
      (Utf8.WellFormed taken → Utf8.sanitise taken = taken) ∧
      Utf8.sanitise (Utf8.sanitise taken) = Utf8.sanitise taken := by
  intro taken
  have hwritten := boundedBytes_eq source maxLength
  have hread := boundedBytes_eq (cString source) maxLength
  rw [cString_cString] at hread
  have hwell := Utf8.wellFormed_sanitise taken
  refine ⟨?_, ?_, hwell, Utf8.sanitise_of_wellFormed, Utf8.sanitise_of_wellFormed hwell⟩
  · rw [terminated, readBounded_eq (cString_ne_zero source), hread]
  · rw [Formatter.boundedString, Formatter.writeBytes_bytes, List.take_of_length_le (by omega),
      hwritten]

/-- An ill-formed byte, and a character the limit falls inside of. -/
theorem boundedString_sanitises_cut :
    readBounded (terminated [0xFF, 0x61, 0xC3, 0xA9]) 3 =
      some (Utf8.sanitise [0xFF, 0x61, 0xC3]) :=
  (boundedString_sanitises (.create 64) [0xFF, 0x61, 0xC3, 0xA9] 3 (by decide +kernel)).1

/-! ## An escaped string is the escape of a text that fits -/

theorem sanitiseWithin_length (source : Bytes) (budget : Nat) :
    (sanitiseWithin source budget).length ≤ budget := by
  induction source, budget using sanitiseWithin.induct with
  | case1 budget =>
    rw [sanitiseWithin]
    exact Nat.zero_le _
  | case2 b rest budget hfits ih =>
    rw [sanitiseWithin, if_pos hfits, List.length_append, List.length_take]
    have hle := (codepointFits_iff.1 hfits).2
    omega
  | case3 b rest budget hfits hroom ih =>
    rw [sanitiseWithin, if_neg hfits, if_pos hroom, List.length_append]
    have hle := (codepointFits_iff.1 hroom).2
    change 3 + _ ≤ _
    omega
  | case4 b rest budget hfits hroom =>
    rw [sanitiseWithin, if_neg hfits, if_neg hroom]
    exact Nat.zero_le _

/-- With three bytes for each of the source, nothing is cut. -/
theorem sanitiseWithin_eq_sanitise {source : Bytes} {budget : Nat}
    (h : 3 * source.length ≤ budget) : sanitiseWithin source budget = Utf8.sanitise source := by
  induction source, budget using sanitiseWithin.induct with
  | case1 budget => rw [sanitiseWithin, Utf8.sanitise_nil]
  | case2 b rest budget hfits ih =>
    have hpos := (codepointFits_iff.1 hfits).1
    have hle := Utf8.charLength_le (b :: rest)
    rw [sanitiseWithin, if_pos hfits, Utf8.sanitise, if_pos hpos, ih]
    rw [List.length_drop]
    omega
  | case3 b rest budget hfits hroom ih =>
    have hle := Utf8.charLength_le (b :: rest)
    rw [List.length_cons] at h hle
    have hnone : Utf8.charLength (b :: rest) = 0 := by
      rw [codepointFits_iff] at hfits
      omega
    rw [sanitiseWithin, if_neg hfits, if_pos hroom, Utf8.sanitise_cons_of_none hnone,
      ih (by omega)]
  | case4 b rest budget hfits hroom =>
    rw [codepointFits_iff] at hroom
    rw [List.length_cons] at h
    omega

/-- What a value decodes to, read up to the quote behind it. -/
theorem readQuoted_escaped (text : Bytes) :
    Escaping.readQuoted needsEscape 0x5C 0x22
      (Escaping.escape needsEscape 0x5C text ++ [0x22]) = some (text, []) :=
  Escaping.readQuoted_escape rfl rfl (by decide) text []

/-- `SolidSyslogFormatter_EscapedString` writes the escape of a text no longer than it may be
decoded to, and of the whole sanitised source where that is sure to fit. -/
theorem escapedString_decodes (f : Formatter) (source : Bytes) (maxDecodedLength : Nat)
    (hroom : f.bytes.length + (escapedBytes source maxDecodedLength).length < f.size) :
    ∃ written text, readEscaped (terminated source) maxDecodedLength = some written ∧
      (f.escapedString source maxDecodedLength).bytes = f.bytes ++ written ∧
      Utf8.WellFormed written ∧
      written = Escaping.escape needsEscape 0x5C text ∧
      Escaping.readQuoted needsEscape 0x5C 0x22 (written ++ [0x22]) = some (text, []) ∧
      text.length ≤ maxDecodedLength ∧
      (3 * (cString source).length ≤ maxDecodedLength →
        text = Utf8.sanitise (cString source) ∧
        (Utf8.WellFormed (cString source) → text = cString source)) := by
  have hwritten := escapedBytes_eq source maxDecodedLength
  have hread := escapedBytes_eq (cString source) maxDecodedLength
  rw [cString_cString] at hread
  refine ⟨_, sanitiseWithin (cString source) maxDecodedLength, ?_, ?_, ?_, rfl,
    readQuoted_escaped _, sanitiseWithin_length _ _, ?_⟩
  · rw [terminated, readEscaped_eq (cString_ne_zero source), hread]
  · rw [Formatter.escapedString, Formatter.writeBytes_bytes, List.take_of_length_le (by omega),
      hwritten]
  · exact wellFormed_escape (wellFormed_sanitiseWithin _ _)
  · intro hample
    rw [sanitiseWithin_eq_sanitise hample]
    exact ⟨rfl, Utf8.sanitise_of_wellFormed⟩

/-- A special character, an ill-formed byte and one character more. -/
theorem escapedString_decodes_special : ∃ written text,
    readEscaped (terminated [0x5D, 0xFF, 0x61]) 4 = some written ∧
      written = Escaping.escape needsEscape 0x5C text ∧ text.length ≤ 4 := by
  obtain ⟨written, text, hread, -, -, hwritten, -, hle, -⟩ :=
    escapedString_decodes (.create 64) [0x5D, 0xFF, 0x61] 4 (by decide +kernel)
  exact ⟨written, text, hread, hwritten, hle⟩

end SolidSyslog.Format
