import SolidSyslog.Sender.UdpPayload

/-!
# What the trim reads

The trim of `SolidSyslogUdpPayload_TrimToCodepointBoundary` over a memory that ends at the cut: a
read past it fails. None does, and the trim finds the last boundary between characters up to the
cut.
-/

namespace SolidSyslog.Sender

open Format Lib

/-! ## The trim with its reads -/

/-- The loop of `UdpPayload_FindLastCodepointStart`, read by read: the first byte is never looked
at. -/
def readLastCodepointStart (memory : Bytes) : Nat → Option Nat
  | 0 => some 0
  | startIndex + 1 => memory[startIndex + 1]?.bind fun b =>
    if isContinuationByte b then readLastCodepointStart memory startIndex else some (startIndex + 1)

/-- `SolidSyslogUdpPayload_TrimToCodepointBoundary`, read by read. -/
def readTrim (memory : Bytes) (length : Nat) : Option Nat :=
  if 0 < length then
    (readLastCodepointStart memory (length - 1)).bind fun lastStart =>
      memory[lastStart]?.map fun startByte =>
        if length < lastStart + expectedSequenceLength startByte then lastStart else length
  else some length

/-! ## No read at or past the cut -/

variable {buffer : Bytes} {cut : Nat}

theorem lastCodepointStart_le (buffer : Bytes) (startIndex : Nat) :
    lastCodepointStart buffer startIndex ≤ startIndex := by
  induction startIndex with
  | zero => exact le_rfl
  | succ startIndex ih =>
    rw [lastCodepointStart]
    split_ifs
    · exact Nat.le_succ_of_le ih
    · exact le_rfl

/-- A byte before the cut is read from the memory that ends there. -/
theorem getElem?_take_getD (hle : cut ≤ buffer.length) {i : Nat} (hi : i < cut) :
    (buffer.take cut)[i]? = some (buffer.getD i 0) := by
  rw [List.getElem?_take_of_lt hi, List.getD_eq_getElem?_getD,
    List.getElem?_eq_getElem (Nat.lt_of_lt_of_le hi hle), Option.getD_some]

theorem readLastCodepointStart_eq (hle : cut ≤ buffer.length) {startIndex : Nat}
    (hstart : startIndex < cut) :
    readLastCodepointStart (buffer.take cut) startIndex =
      some (lastCodepointStart buffer startIndex) := by
  induction startIndex with
  | zero => rfl
  | succ startIndex ih =>
    rw [readLastCodepointStart, getElem?_take_getD hle hstart, Option.bind_some, lastCodepointStart,
      ih (Nat.lt_of_succ_lt hstart)]
    split_ifs <;> rfl

/-- The trim looks at no byte at or past the cut. -/
theorem readTrim_eq (hle : cut ≤ buffer.length) :
    readTrim (buffer.take cut) cut = some (trimToCodepointBoundary buffer cut) := by
  rw [readTrim, trimToCodepointBoundary]
  by_cases hpos : 0 < cut
  · have hlast : cut - 1 < cut := Nat.sub_lt hpos Nat.one_pos
    have hfound := Nat.lt_of_le_of_lt (lastCodepointStart_le buffer (cut - 1)) hlast
    rw [if_pos hpos, if_pos hpos, readLastCodepointStart_eq hle hlast, Option.bind_some,
      getElem?_take_getD hle hfound, Option.map_some]
    exact congrArg some (if_congr decide_eq_true_iff.symm rfl rfl)
  · rw [if_neg hpos, if_neg hpos]

/-! ## The boundary it finds -/

theorem trim_isGreatest (h : Utf8.WellFormed buffer) (hle : cut ≤ buffer.length) :
    IsGreatest {j | j ≤ cut ∧ Utf8.IsBoundary buffer j} (trimToCodepointBoundary buffer cut) := by
  obtain ⟨whole, part, hcut⟩ := h.cutAt cut
  rw [trimToCodepointBoundary_eq hle hcut]
  exact hcut.isGreatest h hle

/-- A cut at a boundary stays where it is. -/
theorem trim_of_isBoundary (h : Utf8.WellFormed buffer) (hcut : Utf8.IsBoundary buffer cut) :
    trimToCodepointBoundary buffer cut = cut := by
  have hgreatest := trim_isGreatest h hcut.1
  exact Nat.le_antisymm hgreatest.1.1 (hgreatest.2 ⟨le_rfl, hcut⟩)

/-- `SolidSyslogUdpPayload_TrimToCodepointBoundary` reads only what stands before the cut, and finds
the last boundary up to it, at which another trim leaves a cut alone. -/
theorem trim_finds_boundary (h : Utf8.WellFormed buffer) (hle : cut ≤ buffer.length) :
    readTrim (buffer.take cut) cut = some (trimToCodepointBoundary buffer cut) ∧
      IsGreatest {j | j ≤ cut ∧ Utf8.IsBoundary buffer j} (trimToCodepointBoundary buffer cut) ∧
      trimToCodepointBoundary buffer (trimToCodepointBoundary buffer cut) =
        trimToCodepointBoundary buffer cut := by
  have hgreatest := trim_isGreatest h hle
  exact ⟨readTrim_eq hle, hgreatest, trim_of_isBoundary h hgreatest.1.2⟩

/-- A cut inside of the second of two characters. -/
theorem trim_finds_first_boundary :
    readTrim ([0x61, 0xE2, 0x82, 0xAC].take 3) 3 =
        some (trimToCodepointBoundary [0x61, 0xE2, 0x82, 0xAC] 3) ∧
      IsGreatest {j | j ≤ 3 ∧ Utf8.IsBoundary [0x61, 0xE2, 0x82, 0xAC] j}
        (trimToCodepointBoundary [0x61, 0xE2, 0x82, 0xAC] 3) ∧
      trimToCodepointBoundary [0x61, 0xE2, 0x82, 0xAC]
          (trimToCodepointBoundary [0x61, 0xE2, 0x82, 0xAC] 3) =
        trimToCodepointBoundary [0x61, 0xE2, 0x82, 0xAC] 3 := by
  refine trim_finds_boundary ⟨[[0x61], [0xE2, 0x82, 0xAC]], ?_, rfl⟩ (by simp)
  intro c hc
  rcases List.mem_cons.1 hc with rfl | hc
  · rfl
  · rw [List.mem_singleton.1 hc]
    rfl

end SolidSyslog.Sender
