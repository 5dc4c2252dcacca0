import SolidSyslog.Format.Message

/-!
# Truncation

A record is cut at the end of the formatter, wherever that falls. What is written is well-formed
UTF-8, so the cut leaves well-formed text and perhaps the first bytes of a character, and those are
what `SolidSyslogFormatter_AsFormattedBuffer` finds at the end and blanks.
-/

namespace SolidSyslog.Format

open Lib

/-! ## What is written is well-formed -/

theorem digit_le (n : Nat) : digitToChar n ≤ 0x7F := by
  have hmod := Nat.mod_lt n (by decide : 0 < 10)
  unfold digitToChar
  generalize n % 10 = k at *
  interval_cases k <;> decide

theorem uint32Bytes_ascii (value : Nat) : ∀ x ∈ uint32Bytes value, x ≤ 0x7F := by
  intro x hx
  have hdigit := isDigit_uint32Bytes value x hx
  rw [Lib.OctetCounting.isDigit, Bool.and_eq_true, decide_eq_true_eq, decide_eq_true_eq] at hdigit
  exact UInt8.le_trans hdigit.2 (by decide)

theorem wellFormed_printUsAsciiBytes (source : Bytes) (maxLength : Nat) :
    Utf8.WellFormed (printUsAsciiBytes source maxLength) :=
  Utf8.wellFormed_of_ascii fun x hx => ascii_of_printable (isPrintableUsAscii_of_mem x hx)

theorem wellFormed_uint32Bytes (value : Nat) : Utf8.WellFormed (uint32Bytes value) :=
  Utf8.wellFormed_of_ascii (uint32Bytes_ascii value)

theorem wellFormed_asciiBytes (value : UInt8) : Utf8.WellFormed (asciiBytes value) := by
  apply Utf8.wellFormed_of_ascii
  intro x hx
  rw [List.mem_singleton.1 hx]
  split
  · next hascii =>
    simp only [isAsciiCharacter, Bool.or_eq_true, decide_eq_true_eq] at hascii
    rcases hascii with rfl | hprintable
    · decide
    · exact ascii_of_printable hprintable
  · decide

theorem wellFormed_orNil {bytes : Bytes} (h : Utf8.WellFormed bytes) :
    Utf8.WellFormed (Formatter.orNil bytes) := by
  unfold Formatter.orNil
  split
  · exact Utf8.wellFormed_of_ascii (by simp)
  · exact h

theorem wellFormed_fieldBytes (remaining : Nat) (calls : List FieldCall) :
    Utf8.WellFormed (HeaderField.fieldBytes remaining calls) := by
  induction calls generalizing remaining with
  | nil => exact Utf8.wellFormed_nil
  | cons call calls ih =>
    refine Utf8.WellFormed.append ?_ (ih _)
    cases call with
    | printUsAscii source maxLength => exact wellFormed_printUsAsciiBytes _ _
    | uint32 value =>
      rw [HeaderField.callBytes]
      split_ifs
      · exact wellFormed_uint32Bytes _
      · exact Utf8.wellFormed_nil

theorem wellFormed_timestamp (ts : Timestamp) : Utf8.WellFormed ts.formatBytes := by
  apply Utf8.wellFormed_of_ascii
  have hdigit := digit_le
  unfold Timestamp.formatBytes Timestamp.validBytes Timestamp.utcOffsetBytes fourDigitBytes
    twoDigitBytes sixDigitBytes
  split
  · dsimp only
    split
    · simp [hdigit]
    · split <;> simp [hdigit]
  · simp

namespace SdWrite

theorem wellFormed_flush (pending : Pending) :
    Utf8.WellFormed (flushPendingIfHeld pending).written := by
  unfold flushPendingIfHeld
  split
  · exact wellFormed_escapedBytes _ _
  · exact Utf8.wellFormed_nil

theorem wellFormed_writeBody (pending : Pending) (source : Bytes) :
    Utf8.WellFormed (writeBody pending source).written := by
  induction pending, source using writeBody.induct with
  | case1 pending =>
    rw [writeBody]
    exact Utf8.wellFormed_nil
  | case2 pending rest =>
    rw [writeBody, if_pos rfl]
    exact Utf8.wellFormed_nil
  | case3 pending b rest hb expected avail unit hheld ih =>
    rw [writeBody, if_neg hb]
    dsimp only
    rw [if_pos hheld]
    exact ih
  | case4 pending b rest hb expected avail hheld ih =>
    rw [writeBody, if_neg hb]
    dsimp only
    rw [if_neg hheld]
    exact (wellFormed_escapedBytes _ _).append ih

theorem wellFormed_perform (pending : Pending) (write : SdWrite) :
    Utf8.WellFormed (write.perform pending).written := by
  cases write with
  | string source =>
    refine Utf8.WellFormed.append ?_ (wellFormed_writeBody _ _)
    unfold drainPending
    split
    · dsimp only
      split_ifs
      · exact wellFormed_escapedBytes _ _
      · exact wellFormed_escapedBytes _ _
      · exact Utf8.wellFormed_nil
    · exact Utf8.wellFormed_nil
  | boundedString source maxDecodedLength =>
    exact (wellFormed_flush pending).append (wellFormed_escapedBytes _ _)
  | uint32 value => exact (wellFormed_flush pending).append (wellFormed_uint32Bytes _)

end SdWrite

namespace SdElement

theorem wellFormed_closeOpenValue (element : SdElement) :
    Utf8.WellFormed element.closeOpenValue.written := by
  unfold closeOpenValue
  split
  · exact (SdWrite.wellFormed_flush _).append (wellFormed_asciiBytes _)
  · exact Utf8.wellFormed_nil

theorem wellFormed_perform (element : SdElement) (call : SdCall) :
    Utf8.WellFormed (element.perform call).written := by
  cases call with
  | beginElement name enterpriseNumber =>
    cases name with
    | none => exact Utf8.wellFormed_nil
    | some name =>
      refine ((wellFormed_asciiBytes _).append (wellFormed_printUsAsciiBytes _ _)).append ?_
      split
      · exact (wellFormed_asciiBytes _).append (wellFormed_uint32Bytes _)
      · exact Utf8.wellFormed_nil
  | param name =>
    unfold perform param
    dsimp only
    split
    · exact ((((wellFormed_closeOpenValue element).append (wellFormed_asciiBytes _)).append
        (wellFormed_printUsAsciiBytes _ _)).append (wellFormed_asciiBytes _)).append
        (wellFormed_asciiBytes _)
    · exact wellFormed_closeOpenValue element
  | write write =>
    unfold perform SdElement.write
    dsimp only
    split
    · exact Utf8.wellFormed_nil
    · exact SdWrite.wellFormed_perform _ _
  | endElement =>
    refine (wellFormed_closeOpenValue element).append ?_
    split
    · exact Utf8.wellFormed_nil
    · exact wellFormed_asciiBytes _

theorem wellFormed_performAll (element : SdElement) (calls : List SdCall) :
    Utf8.WellFormed (element.performAll calls).written := by
  induction calls generalizing element with
  | nil => exact Utf8.wellFormed_nil
  | cons call calls ih => exact (element.wellFormed_perform call).append (ih _)

end SdElement

theorem wellFormed_msgBytes (maxMessageSize : Nat) (msg : Option Bytes) :
    Utf8.WellFormed (msgBytes maxMessageSize msg) := by
  unfold msgBytes
  dsimp only
  split
  · exact Utf8.wellFormed_nil
  · refine Utf8.WellFormed.append ?_ (wellFormed_boundedBytes _ _)
    decide +kernel

theorem wellFormed_messageBytes (maxMessageSize : Nat) (message : Message) (context : Context)
    (messageSd : List (Option StructuredData)) :
    Utf8.WellFormed (messageBytes maxMessageSize message context messageSd) := by
  have hascii : ∀ bytes : Bytes, (∀ x ∈ bytes, x ≤ 0x7F) → Utf8.WellFormed bytes :=
    fun _ => Utf8.wellFormed_of_ascii
  unfold messageBytes
  refine Utf8.WellFormed.append ?_ (wellFormed_msgBytes _ _)
  refine Utf8.WellFormed.append ?_ (wellFormed_orNil (SdElement.wellFormed_performAll _ _))
  refine Utf8.WellFormed.append ?_ (hascii _ (by simp))
  refine Utf8.WellFormed.append ?_ (wellFormed_orNil (wellFormed_printUsAsciiBytes _ _))
  refine Utf8.WellFormed.append ?_ (hascii _ (by simp))
  refine Utf8.WellFormed.append ?_ (wellFormed_orNil (wellFormed_fieldBytes _ _))
  refine Utf8.WellFormed.append ?_ (hascii _ (by simp))
  refine Utf8.WellFormed.append ?_ (wellFormed_orNil (wellFormed_fieldBytes _ _))
  refine Utf8.WellFormed.append ?_ (hascii _ (by simp))
  refine Utf8.WellFormed.append ?_ (wellFormed_orNil (wellFormed_fieldBytes _ _))
  refine Utf8.WellFormed.append ?_ (hascii _ (by simp))
  refine Utf8.WellFormed.append ?_ (wellFormed_timestamp _)
  refine Utf8.WellFormed.append ?_ (hascii _ (by simp))
  exact (hascii _ (by simp)).append (wellFormed_uint32Bytes _)

/-! ## The end of a record -/

/-- The byte that many places from the end starts a character that is longer. -/
def opensAt (bytes : Bytes) (k : Nat) : Bool :=
  k ≤ bytes.length && bytes[bytes.length - k]?.any fun b => k < Utf8.leadLength b

theorem opensAt_append {before after : Bytes} {b : UInt8} :
    opensAt (before ++ b :: after) (after.length + 1) =
      decide (after.length + 1 < Utf8.leadLength b) := by
  have hindex : (before ++ b :: after).length - (after.length + 1) = before.length := by
    simp only [List.length_append, List.length_cons]
    omega
  unfold opensAt
  rw [hindex, List.getElem?_append_right (le_refl _), Nat.sub_self, List.getElem?_cons_zero,
    Option.any_some]
  simp

theorem opensAt_of_short {bytes : Bytes} {k : Nat} (h : bytes.length < k) :
    opensAt bytes k = false := by
  simp [opensAt, h]

/-- A place of a byte string, as the bytes before and after it. -/
theorem opensAt_eq_false {bytes : Bytes} {k : Nat} (hk : 0 < k)
    (h : ∀ before b after, bytes = before ++ b :: after → after.length + 1 = k →
      Utf8.leadLength b ≤ k) : opensAt bytes k = false := by
  by_cases hle : k ≤ bytes.length
  · have hlt : bytes.length - k < bytes.length := by omega
    obtain ⟨before, b, after, rfl, hafter⟩ : ∃ before b after, bytes = before ++ b :: after ∧
        after.length + 1 = k := by
      refine ⟨bytes.take (bytes.length - k), bytes[bytes.length - k],
        bytes.drop (bytes.length - k + 1), ?_, ?_⟩
      · rw [List.getElem_cons_drop, List.take_append_drop]
      · rw [List.length_drop]
        omega
    have hshort := h before b after rfl hafter
    rw [← hafter, opensAt_append, hafter, decide_eq_false_iff_not]
    omega
  · exact opensAt_of_short (by omega)

theorem trimFrom_eq_opensAt (f : Formatter) : f.trimFrom =
    if opensAt f.bytes 1 then f.bytes.length - 1
    else if opensAt f.bytes 2 then f.bytes.length - 2
    else if opensAt f.bytes 3 then f.bytes.length - 3
    else f.bytes.length := by
  have hone : (fun b => isTwoByteLead b || isThreeByteLead b || isFourByteLead b) =
      fun b => decide (1 < Utf8.leadLength b) := by
    funext b
    obtain ⟨h₂, h₃, h₄⟩ := lead_eq b
    have hpos := Utf8.leadLength_pos b
    have hle := Utf8.leadLength_le b
    rw [h₂, h₃, h₄]
    simp only [← Bool.decide_or, decide_eq_decide]
    omega
  have htwo : (fun b => isThreeByteLead b || isFourByteLead b) =
      fun b => decide (2 < Utf8.leadLength b) := by
    funext b
    obtain ⟨-, h₃, h₄⟩ := lead_eq b
    have hle := Utf8.leadLength_le b
    rw [h₃, h₄]
    simp only [← Bool.decide_or, decide_eq_decide]
    omega
  have hthree : isFourByteLead = fun b => decide (3 < Utf8.leadLength b) := by
    funext b
    obtain ⟨-, -, h₄⟩ := lead_eq b
    have hle := Utf8.leadLength_le b
    rw [h₄]
    simp only [decide_eq_decide]
    omega
  unfold Formatter.trimFrom opensAt
  dsimp only
  rw [hone, htwo, hthree]

/-- The bytes at the end that start a longer character than there was room for. -/
theorem trimFrom_eq {f : Formatter} {whole part : Bytes} (hbytes : f.bytes = whole ++ part)
    (hwhole : Utf8.WellFormed whole) (hpart : part = [] ∨ Utf8.Partial part) :
    f.trimFrom = whole.length := by
  rw [trimFrom_eq_opensAt, hbytes]
  rcases hpart with rfl | hpart
  · -- no character is open at the end of a well-formed text
    have hclosed : ∀ k, 0 < k → opensAt whole k = false := by
      intro k hk
      apply opensAt_eq_false hk
      intro before b after hwhole' hafter
      have hends := hwhole.endsWhole before b after hwhole'
      omega
    rw [List.append_nil, if_neg (by simp [hclosed]), if_neg (by simp [hclosed]),
      if_neg (by simp [hclosed])]
  · have hthree := hpart.length_le
    obtain ⟨b, rest, rfl, hlead, htails⟩ := hpart.lead
    rw [List.length_cons] at hthree hlead
    have hopen : opensAt (whole ++ b :: rest) (rest.length + 1) = true := by
      rw [opensAt_append, decide_eq_true_eq]
      exact hlead
    -- the bytes behind the lead are tails
    have hclosed : ∀ k, 0 < k → k < rest.length + 1 → opensAt (whole ++ b :: rest) k = false := by
      intro k hk hlt
      apply opensAt_eq_false hk
      intro before x after hsplit hafter
      have hx : x ∈ rest := by
        have hrest : rest <:+ whole ++ b :: rest :=
          (List.suffix_cons b rest).trans (List.suffix_append whole _)
        have hend : x :: after <:+ whole ++ b :: rest := hsplit ▸ List.suffix_append before _
        have hinside := List.suffix_of_suffix_length_le hend hrest (by
          rw [List.length_cons]
          omega)
        exact hinside.subset List.mem_cons_self
      rw [Utf8.leadLength_of_tail (htails x hx)]
      exact hk
    have hlength : (whole ++ b :: rest).length = whole.length + (rest.length + 1) := by simp
    rw [hlength]
    have hcases : rest.length = 0 ∨ rest.length = 1 ∨ rest.length = 2 := by omega
    rcases hcases with hrest | hrest | hrest
    · rw [hrest] at hopen
      rw [if_pos hopen]
      omega
    · rw [hrest] at hopen hclosed
      rw [if_neg (by simp [hclosed 1]), if_pos hopen]
      omega
    · rw [hrest] at hopen hclosed
      rw [if_neg (by simp [hclosed 1]), if_neg (by simp [hclosed 2]), if_pos hopen]
      omega

/-- The first bytes of a character that was cut are blanked, and nothing else. -/
theorem asFormattedBuffer_bytes {f : Formatter} {whole part : Bytes}
    (hbytes : f.bytes = whole ++ part) (hwhole : Utf8.WellFormed whole)
    (hpart : part = [] ∨ Utf8.Partial part) :
    f.asFormattedBuffer.bytes = whole ++ List.replicate part.length 0 := by
  have htrim := trimFrom_eq hbytes hwhole hpart
  unfold Formatter.asFormattedBuffer
  rw [htrim, hbytes, List.take_left, List.length_append, Nat.add_sub_cancel_left]

/-! ## Records -/

/-- What is made of an output with each formatter size: with enough it is all there, and with less
it is cut before the terminator's byte, where a character that the cut falls inside gives way to as
many terminators as bytes of it were left. -/
def IsCleanCut (output : Nat → Bytes) : Prop :=
  ∃ whole : Bytes, (∀ size, whole.length < size → output size = whole) ∧
    ∀ size, 1 ≤ size → (output size).length = min whole.length (size - 1) ∧
      Utf8.WellFormed (output size) ∧ ∃ kept cut, Utf8.CutAt whole (size - 1) kept cut ∧
        output size = kept ++ List.replicate cut.length 0

theorem wellFormed_replicate_zero (n : Nat) : Utf8.WellFormed (List.replicate n 0) := by
  apply Utf8.wellFormed_of_ascii
  intro x hx
  rw [List.eq_of_mem_replicate hx]
  decide

/-- What is written is cut cleanly where it is well-formed. -/
theorem isCleanCut_of_wellFormed {bytes : Bytes} (h : Utf8.WellFormed bytes) :
    IsCleanCut fun size => ((Formatter.create size).writeBytes bytes).asFormattedBuffer.bytes := by
  have hcut : ∀ size kept cut, Utf8.CutAt bytes (size - 1) kept cut →
      ((Formatter.create size).writeBytes bytes).asFormattedBuffer.bytes =
        kept ++ List.replicate cut.length 0 := by
    intro size kept cut hat
    apply asFormattedBuffer_bytes _ hat.wellFormed hat.partial_of
    rw [Formatter.writeBytes_bytes, ← hat.taken]
    rfl
  refine ⟨bytes, ?_, ?_⟩
  · intro size hsize
    have hat : Utf8.CutAt bytes (size - 1) bytes [] := by
      refine ⟨?_, h, .inl rfl⟩
      rw [List.take_of_length_le (by omega), List.append_nil]
    dsimp only
    rw [hcut size bytes [] hat, List.length_nil, List.replicate_zero, List.append_nil]
  · intro size _
    obtain ⟨kept, cut, hat⟩ := h.cutAt (size - 1)
    have hlength := congrArg List.length hat.taken
    rw [List.length_take, List.length_append] at hlength
    dsimp only
    rw [hcut size kept cut hat, List.length_append, List.length_replicate]
    exact ⟨by omega, hat.wellFormed.append (wellFormed_replicate_zero _), kept, cut, hat, rfl⟩

/-- Every record the logger hands to the buffer, and every report it formats into its slot, is its
output cut cleanly. -/
theorem truncation_is_clean (maxMessageSize : Nat) (context : Context) :
    (∀ message messageSd, IsCleanCut fun size =>
      formatIntoScratch maxMessageSize size message context messageSd) ∧
    ∀ names event, IsCleanCut fun size => formatReport maxMessageSize size context names event := by
  have hrecord : ∀ message messageSd, IsCleanCut fun size =>
      formatIntoScratch maxMessageSize size message context messageSd := by
    intro message messageSd
    have hwhole := isCleanCut_of_wellFormed
      (wellFormed_messageBytes maxMessageSize message context messageSd)
    unfold formatIntoScratch
    simp only [format_eq]
    exact hwhole
  exact ⟨hrecord, fun names event => hrecord _ _⟩

end SolidSyslog.Format
