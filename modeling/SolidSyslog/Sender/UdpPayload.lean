import SolidSyslog.Format.Text

/-!
# Trimming a datagram

`SolidSyslogUdpPayload_TrimToCodepointBoundary`. Of well-formed text, a cut keeps the whole
characters before it.
-/

namespace SolidSyslog.Sender

open Format Lib

/-! ## The trim -/

/-- The loop of `UdpPayload_FindLastCodepointStart`, from an index down. -/
def lastCodepointStart (buffer : Bytes) : Nat → Nat
  | 0 => 0
  | startIndex + 1 =>
    if isContinuationByte (buffer.getD (startIndex + 1) 0) then lastCodepointStart buffer startIndex
    else startIndex + 1

/-- `UdpPayload_FindLastCodepointStart`. -/
def findLastCodepointStart (buffer : Bytes) (length : Nat) : Nat :=
  lastCodepointStart buffer (length - 1)

/-- `UdpPayload_ExpectedSequenceLength`. -/
def expectedSequenceLength (startByte : UInt8) : Nat :=
  if isAsciiByte startByte then 1
  else if isTwoByteLead startByte then 2
  else if isThreeByteLead startByte then 3
  else 4

/-- `UdpPayload_LastCodepointExtendsPastCut`. -/
def lastCodepointExtendsPastCut (buffer : Bytes) (length lastCodepointStart : Nat) : Bool :=
  length < lastCodepointStart + expectedSequenceLength (buffer.getD lastCodepointStart 0)

/-- `SolidSyslogUdpPayload_TrimToCodepointBoundary`. -/
def trimToCodepointBoundary (buffer : Bytes) (length : Nat) : Nat :=
  if 0 < length then
    let lastStart := findLastCodepointStart buffer length
    if lastCodepointExtendsPastCut buffer length lastStart then lastStart else length
  else length

/-! ## Where it cuts -/

variable {buffer before tails after whole part c : Bytes} {b : UInt8} {cut : Nat}

/-- The start is found behind the continuation bytes that follow it. -/
theorem lastCodepointStart_eq (hbuffer : buffer = before ++ b :: tails ++ after)
    (hb : Utf8.isTail b = false) (htails : ∀ x ∈ tails, Utf8.isTail x = true) :
    ∀ n ≤ tails.length, lastCodepointStart buffer (before.length + n) = before.length := by
  intro n hn
  induction n with
  | zero =>
    rw [Nat.add_zero]
    cases hlength : before.length with
    | zero => rw [lastCodepointStart]
    | succ k =>
      have hat : buffer.getD (k + 1) 0 = b := by
        rw [hbuffer, ← hlength]
        simp
      rw [lastCodepointStart, hat, isContinuationByte_eq, if_neg (by rw [hb]; exact nofun)]
  | succ n ih =>
    have hat : buffer.getD (before.length + n + 1) 0 = tails.getD n 0 := by
      rw [hbuffer]
      simp only [List.getD_eq_getElem?_getD, List.append_assoc, Nat.add_assoc]
      rw [List.getElem?_append_right (Nat.le_add_right _ _), Nat.add_sub_cancel_left,
        List.cons_append, List.getElem?_cons_succ, List.getElem?_append_left hn]
    have htail : Utf8.isTail (tails.getD n 0) = true := by
      rw [List.getD_eq_getElem?_getD, List.getElem?_eq_getElem hn, Option.getD_some]
      exact htails _ (List.getElem_mem hn)
    rw [← Nat.add_assoc, lastCodepointStart, hat, isContinuationByte_eq, if_pos htail,
      ih (Nat.le_of_succ_le hn)]

/-- A byte is in a class of its own, or the length its class stands for is that of its character. -/
theorem expectedSequenceLength_eq (b : UInt8) : Utf8.leadLength b = 1 ∨
    expectedSequenceLength b = Utf8.leadLength b ∧ Utf8.isTail b = false := by
  apply byte_forall (P := fun b => Utf8.leadLength b = 1 ∨
    expectedSequenceLength b = Utf8.leadLength b ∧ Utf8.isTail b = false)
  decide +kernel

theorem expectedSequenceLength_of_isChar (h : Utf8.isChar (b :: tails) = true) :
    expectedSequenceLength b = Utf8.leadLength b ∧ Utf8.isTail b = false := by
  rcases expectedSequenceLength_eq b with hone | hclass
  · have hlength := (Utf8.isChar_cons h).1
    obtain rfl : tails = [] := List.length_eq_zero_iff.1 (by omega)
    rw [Utf8.isChar_one] at h
    have hascii : isAsciiByte b = true := by
      rw [isAsciiByte_eq]
      exact Utf8.isChar_one.2 h
    refine ⟨by rw [expectedSequenceLength, if_pos hascii, hone], ?_⟩
    rw [← Bool.not_eq_true, Utf8.isTail_iff]
    omega
  · exact hclass

/-- A cut inside of a character, or right behind one, and what the trim makes of it. -/
theorem trim_inside (hbuffer : buffer = before ++ b :: tails ++ after)
    (hchar : Utf8.isChar (b :: tails ++ c) = true) :
    trimToCodepointBoundary buffer (before ++ b :: tails).length =
      if c = [] then (before ++ b :: tails).length else before.length := by
  rw [List.cons_append] at hchar
  obtain ⟨hexpected, hb⟩ := expectedSequenceLength_of_isChar hchar
  obtain ⟨hlength, htails⟩ := Utf8.isChar_cons hchar
  have hstart : findLastCodepointStart buffer (before ++ b :: tails).length = before.length := by
    rw [findLastCodepointStart, List.length_append, List.length_cons]
    exact lastCodepointStart_eq hbuffer hb (fun x hx => htails x (List.mem_append_left _ hx)) _
      le_rfl
  have hat : buffer.getD before.length 0 = b := by
    rw [hbuffer]
    simp
  rw [List.length_append] at hlength
  have hpast : lastCodepointExtendsPastCut buffer (before ++ b :: tails).length before.length =
      decide (c ≠ []) := by
    rw [lastCodepointExtendsPastCut, hat, hexpected, decide_eq_decide, List.length_append,
      List.length_cons, ← List.length_pos_iff]
    omega
  rw [trimToCodepointBoundary, if_pos (by simp), hstart]
  simp only [hpast, ne_eq, decide_not, Bool.not_eq_true', decide_eq_false_iff_not, ite_not]

/-- Of well-formed text, the trim keeps the whole characters before the cut. -/
theorem trimToCodepointBoundary_eq (hle : cut ≤ buffer.length)
    (hcut : Utf8.CutAt buffer cut whole part) :
    trimToCodepointBoundary buffer cut = whole.length := by
  have htaken := hcut.taken
  have hlength : cut = (whole ++ part).length := by
    rw [← htaken, List.length_take_of_le hle]
  rcases hcut.inside with rfl | ⟨c, rest, hc, htext, hpos, hlt, hpart⟩
  · rw [List.append_nil] at hlength htaken
    obtain ⟨chars, hchars, rfl⟩ := hcut.wellFormed
    rcases List.eq_nil_or_concat chars with rfl | ⟨chars, c, rfl⟩
    · rw [hlength]
      rfl
    · have hc := hchars c (by simp)
      match c, hc with
      | b :: tails, hc =>
        have hbuffer : buffer = chars.flatten ++ b :: tails ++ buffer.drop cut := by
          conv_lhs => rw [← List.take_append_drop cut buffer, htaken]
          simp
        have htrim := trim_inside (c := []) hbuffer (by simpa using hc)
        rw [if_pos rfl] at htrim
        rw [hlength]
        simpa using htrim
  · match part, hpos with
    | b :: tails, _ =>
      have hchar : Utf8.isChar (b :: tails ++ c.drop (b :: tails).length) = true := by
        rw [hpart, List.length_take_of_le hlt.le, List.take_append_drop]
        exact hc
      have hbuffer : buffer = whole ++ b :: tails ++ buffer.drop cut := by
        conv_lhs => rw [← List.take_append_drop cut buffer, htaken]
      have htrim := trim_inside hbuffer hchar
      rw [if_neg] at htrim
      · rw [hlength, htrim]
      · rw [List.drop_eq_nil_iff, not_le]
        exact hlt

end SolidSyslog.Sender
