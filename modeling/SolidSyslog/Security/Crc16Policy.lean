import SolidSyslog.Lib.Crc
import SolidSyslog.Store.Device
import Mathlib.Tactic.IntervalCases

/-!
# The CRC-16 policy

`SolidSyslogCrc16.c` and `SolidSyslogCrc16Policy.c`. A record is sealed with the CRC-16/CCITT-FALSE
of its content, most significant byte first. Content and trailer together leave the register empty,
and an error that is not longer than the register does not.
-/

namespace SolidSyslog.Security

open Lib
open Store (OpenResult)

/-! ## The checksum -/

/-- `CRC16_CCITT_INIT`. -/
def crc16Init : UInt16 := 0xFFFF

/-- `CRC16_CCITT_POLY`. -/
def crc16Poly : UInt16 := 0x1021

/-- `MSB_MASK`. -/
def msbMask : UInt16 := 0x8000

/-- One bit of `SolidSyslogCrc16_Compute`. -/
def crc16Bit (crc : UInt16) : UInt16 :=
  if crc &&& msbMask ≠ 0 then (crc <<< 1) ^^^ crc16Poly else crc <<< 1

/-- One byte of `SolidSyslogCrc16_Compute`. -/
def crc16Byte (crc : UInt16) (byte : UInt8) : UInt16 :=
  crc16Bit^[8] (crc ^^^ (byte.toUInt16 <<< 8))

/-- `SolidSyslogCrc16_Compute`, of the first `length` bytes. -/
def crc16Compute (data : Bytes) (length : UInt16) : UInt16 :=
  (data.take length.toNat).foldl crc16Byte crc16Init

/-! ## The policy -/

/-- `struct SolidSyslogSecurityRecord`. -/
structure SecurityRecord where
  content : Bytes
  contentLength : UInt16
  headerLength : UInt16
  trailer : Bytes

/-- `Crc16Policy_Crc16SealRecord`: the record with its trailer written. -/
def crc16SealRecord (record : SecurityRecord) : Bool × SecurityRecord :=
  let crc := crc16Compute record.content record.contentLength
  (true, { record with trailer := [(crc >>> 8).toUInt8, (crc &&& 0xFF).toUInt8] })

/-- `Crc16Policy_Crc16OpenRecord`. -/
def crc16OpenRecord (record : SecurityRecord) : OpenResult :=
  let crc := crc16Compute record.content record.contentLength
  let expected := ((record.trailer.getD 0 0).toUInt16 <<< 8) ||| (record.trailer.getD 1 0).toUInt16
  if crc = expected then .opened else .rejected

/-! ## Bits -/

/-- The bits of a byte, the most significant first. -/
def byteBits (byte : UInt8) : List Bool :=
  (List.range 8).map fun i => byte.toBitVec.getMsbD i

/-- The bits of bytes, the most significant of each first. -/
def bits (bytes : Bytes) : List Bool :=
  bytes.flatMap byteBits

/-- Bytes with some of their bits changed. -/
def changed (bytes error : Bytes) : Bytes :=
  List.zipWith (· ^^^ ·) bytes error

theorem bits_cons (byte : UInt8) (bytes : Bytes) :
    bits (byte :: bytes) = byteBits byte ++ bits bytes :=
  List.flatMap_cons

theorem bits_append (bytes bytes' : Bytes) : bits (bytes ++ bytes') = bits bytes ++ bits bytes' :=
  List.flatMap_append

theorem bits_length (bytes : Bytes) : (bits bytes).length = 8 * bytes.length := by
  induction bytes with
  | nil => rfl
  | cons b bytes ih =>
    rw [bits_cons, List.length_append, ih, byteBits, List.length_map, List.length_range,
      List.length_cons]
    omega

theorem bits_changed {bytes error : Bytes} (h : bytes.length = error.length) :
    bits (changed bytes error) = List.zipWith xor (bits bytes) (bits error) := by
  induction bytes generalizing error with
  | nil => rfl
  | cons b bytes ih =>
    cases error with
    | nil => cases h
    | cons e error =>
      have hbyte : byteBits (b ^^^ e) = List.zipWith xor (byteBits b) (byteBits e) := by
        simp [byteBits, List.range_succ]
      rw [changed, List.zipWith_cons_cons, bits_cons, bits_cons, bits_cons, hbyte,
        List.zipWith_append (by simp [byteBits]), ← ih (Nat.succ.inj h)]
      rfl

/-! ## The checksum is the remainder -/

theorem crc16Bit_toBitVec (crc : UInt16) :
    (crc16Bit crc).toBitVec = Crc.shift crc16Poly.toBitVec crc.toBitVec := by
  have hmask : crc &&& msbMask = 0 ↔ crc.toBitVec.msb = false := by
    rw [← UInt16.toBitVec_inj, UInt16.toBitVec_and]
    change crc.toBitVec &&& BitVec.twoPow 16 15 = 0#16 ↔ _
    rw [BitVec.and_twoPow, BitVec.msb_eq_getLsbD_last]
    cases crc.toBitVec.getLsbD 15
    · simp
    · simp
  unfold crc16Bit Crc.shift
  cases hmsb : crc.toBitVec.msb with
  | false =>
    rw [if_neg (not_not_intro (hmask.2 hmsb)), if_neg Bool.false_ne_true]
    rfl
  | true =>
    rw [if_pos (fun hzero => Bool.false_ne_true ((hmask.1 hzero).symm.trans hmsb)), if_pos rfl]
    rfl

/-- A byte stands at the top of the register. -/
theorem placed_byteBits (byte : UInt8) :
    Crc.placed (byteBits byte) = (byte.toUInt16 <<< 8).toBitVec := by
  apply byte_forall (P := fun byte =>
    Crc.placed (byteBits byte) = (byte.toUInt16 <<< 8).toBitVec)
  decide +kernel

theorem crc16Byte_toBitVec (crc : UInt16) (byte : UInt8) :
    (crc16Byte crc byte).toBitVec = Crc.feed crc16Poly.toBitVec crc.toBitVec (byteBits byte) := by
  have hiterate : ∀ n (c : UInt16),
      (crc16Bit^[n] c).toBitVec = (Crc.shift crc16Poly.toBitVec)^[n] c.toBitVec := by
    intro n
    induction n with
    | zero => exact fun _ => rfl
    | succ n ih =>
      intro c
      rw [Function.iterate_succ_apply, Function.iterate_succ_apply, ih, crc16Bit_toBitVec]
  rw [crc16Byte, hiterate, Crc.feed_eq_placed (by decide : (8 : Nat) ≤ 16), placed_byteBits]
  rfl

theorem crc16_foldl (crc : UInt16) (data : Bytes) :
    (data.foldl crc16Byte crc).toBitVec =
      Crc.feed crc16Poly.toBitVec crc.toBitVec (bits data) := by
  induction data generalizing crc with
  | nil => rfl
  | cons byte data ih =>
    rw [List.foldl_cons, ih, crc16Byte_toBitVec, bits_cons, Crc.feed_append]

/-- Two bytes fill the register. -/
theorem placed_trailer (high low : UInt8) :
    Crc.placed (bits [high, low]) = ((high.toUInt16 <<< 8) ||| low.toUInt16).toBitVec := by
  have hwords : ∀ a b : BitVec 8, (a.setWidth 16 <<< 8) ^^^ ((b.setWidth 16 <<< 8) >>> 8) =
      (a.setWidth 16 <<< 8) ||| b.setWidth 16 := by
    intro a b
    apply BitVec.eq_of_getLsbD_eq
    intro i hi
    by_cases hlow : i < 8
    · simp [hlow, hi, show 8 + i < 16 by omega]
    · have hhigh : b.getLsbD i = false := BitVec.getLsbD_of_ge b i (by omega)
      simp [hlow, hi, hhigh]
  rw [bits_cons, bits_cons, Crc.placed_append, Crc.placed_append, placed_byteBits, placed_byteBits]
  have hnone : (Crc.placed (bits []) : BitVec 16) = 0#16 := rfl
  rw [hnone, BitVec.zero_ushiftRight, BitVec.xor_zero]
  exact hwords high.toBitVec low.toBitVec

/-- A record is opened just where its content and its trailer leave the register empty. -/
theorem crc16OpenRecord_iff {record : SecurityRecord} {high low : UInt8}
    (hlength : record.content.length = record.contentLength.toNat)
    (htrailer : record.trailer = [high, low]) : crc16OpenRecord record = .opened ↔
      Crc.feed crc16Poly.toBitVec crc16Init.toBitVec (bits (record.content ++ record.trailer)) =
        0#16 := by
  have hcrc : (crc16Compute record.content record.contentLength).toBitVec =
      Crc.feed crc16Poly.toBitVec crc16Init.toBitVec (bits record.content) := by
    rw [crc16Compute, ← hlength, List.take_length, crc16_foldl]
  have hfull : (bits [high, low]).length ≤ 16 := (bits_length _).le
  rw [bits_append, Crc.feed_append, htrailer, Crc.feed_eq_zero_iff rfl hfull, ← hcrc,
    placed_trailer, UInt16.toBitVec_inj, crc16OpenRecord, htrailer]
  simp only [List.getD_cons_zero, List.getD_cons_succ]
  split
  · next hequal => exact ⟨fun _ => hequal, fun _ => rfl⟩
  · next hdifferent => exact ⟨nofun, fun hequal => absurd hequal hdifferent⟩

theorem crc16OpenRecord_cases (record : SecurityRecord) :
    crc16OpenRecord record = .opened ∨ crc16OpenRecord record = .rejected := by
  unfold crc16OpenRecord
  dsimp only
  split
  · exact .inl rfl
  · exact .inr rfl

/-- What is sealed is opened. -/
theorem crc16OpenRecord_sealed (record : SecurityRecord) :
    crc16OpenRecord (crc16SealRecord record).2 = .opened := by
  have hwords : ∀ crc : UInt16,
      ((crc >>> 8).toUInt8.toUInt16 <<< 8) ||| (crc &&& 0xFF).toUInt8.toUInt16 = crc := by
    intro crc
    have hbits : ∀ c : BitVec 16, (((c >>> 8).setWidth 8).setWidth 16 <<< 8) |||
        ((c &&& 0xFF#16).setWidth 8).setWidth 16 = c := by
      intro c
      apply BitVec.eq_of_getLsbD_eq
      intro i hi
      have hmask : ∀ k < 8, (0xFF#16).getLsbD k = true := by
        decide
      by_cases hlow : i < 8
      · simp [hlow, hi, hmask i hlow]
      · simp [hlow, hi, show i - 8 < 8 by omega, show 8 + (i - 8) = i by omega]
    exact UInt16.toBitVec_inj.1 (hbits crc.toBitVec)
  rw [crc16OpenRecord, crc16SealRecord]
  simp only [List.getD_cons_zero, List.getD_cons_succ]
  rw [hwords, if_pos rfl]

/-! ## Errors -/

/-- A bit string whose set bits lie within a window. -/
theorem window_of_burst {pattern : List Bool} {start : Nat}
    (h : ∀ i, pattern[i]? = some true → start ≤ i ∧ i < start + 16) :
    ∃ before window after, pattern =
        List.replicate before false ++ window ++ List.replicate after false ∧
      window.length ≤ 16 := by
  have hoff : ∀ part : List Bool, (∀ i : Nat, part[i]? ≠ some true) →
      part = List.replicate part.length false := by
    intro part hpart
    rw [List.eq_replicate_iff]
    refine ⟨rfl, ?_⟩
    intro b hb
    obtain ⟨i, hi⟩ := List.mem_iff_getElem?.1 hb
    cases b
    · rfl
    · exact absurd hi (hpart i)
  have hbefore := hoff (pattern.take start) (by
    intro i hi
    rw [List.getElem?_take] at hi
    split at hi
    · next hlt =>
      have hstart := (h i hi).1
      omega
    · cases hi)
  have hafter := hoff (pattern.drop (start + 16)) (by
    intro i hi
    rw [List.getElem?_drop] at hi
    have hend := (h _ hi).2
    omega)
  refine ⟨(pattern.take start).length, (pattern.drop start).take 16,
    (pattern.drop (start + 16)).length, ?_, List.length_take_le _ _⟩
  rw [← hbefore, ← hafter, List.append_assoc, ← List.drop_drop, List.take_append_drop,
    List.take_append_drop]

/-- An error that is no longer than the register is not divisible by the polynomial. -/
theorem feed_burst_ne_zero {pattern : List Bool} {start : Nat} (hsome : true ∈ pattern)
    (h : ∀ i, pattern[i]? = some true → start ≤ i ∧ i < start + 16) :
    Crc.feed crc16Poly.toBitVec 0#16 pattern ≠ 0#16 := by
  obtain ⟨before, window, after, rfl, hle⟩ := window_of_burst h
  intro hzero
  have hnone := Crc.feed_window rfl hle hzero
  simp only [List.mem_append, List.mem_replicate, Bool.true_eq_false, and_false, false_or,
    or_false] at hsome
  exact absurd (hnone true hsome) (Bool.true_eq_false ▸ id)

/-- What is sealed is opened, and rejected with any error that lies within as many consecutive bits
as the register has. -/
theorem crc16_detects_bursts (content trailer : Bytes) (headerLength : UInt16)
    (hlength : content.length ≤ 65535) :
    let sealed :=
      (crc16SealRecord ⟨content, UInt16.ofNat content.length, headerLength, trailer⟩).2
    crc16OpenRecord sealed = .opened ∧
      ∀ error : Bytes, error.length = content.length + 2 → true ∈ bits error →
        (∃ start, ∀ i, (bits error)[i]? = some true → start ≤ i ∧ i < start + 16) →
        crc16OpenRecord { sealed with
          content := (changed (sealed.content ++ sealed.trailer) error).take content.length
          trailer := (changed (sealed.content ++ sealed.trailer) error).drop content.length } =
            .rejected := by
  intro sealed
  have hopened : crc16OpenRecord sealed = .opened := crc16OpenRecord_sealed _
  refine ⟨hopened, ?_⟩
  rintro error herror hsome ⟨start, hburst⟩
  have hwhole : (sealed.content ++ sealed.trailer).length = error.length := by
    rw [herror]
    exact List.length_append
  have hsize : content.length = (UInt16.ofNat content.length).toNat := by
    rw [UInt16.toNat_ofNat_of_lt' (Nat.lt_succ_of_le hlength)]
  have hbits := bits_changed hwhole
  have hchanged : (changed (sealed.content ++ sealed.trailer) error).length =
    content.length + 2 := by
    rw [changed, List.length_zipWith, hwhole, min_self, herror]
  generalize changed (sealed.content ++ sealed.trailer) error = received at *
  obtain ⟨high, low, htrailer⟩ : ∃ high low, received.drop content.length = [high, low] :=
    List.length_eq_two.1 (by rw [List.length_drop]; omega)
  refine (crc16OpenRecord_cases _).resolve_left fun hagain => ?_
  rw [crc16OpenRecord_iff (by rw [List.length_take_of_le (by omega)]; exact hsize)
    htrailer] at hagain
  rw [crc16OpenRecord_iff hsize rfl] at hopened
  simp only [List.take_append_drop] at hagain
  have hfeed : Crc.feed crc16Poly.toBitVec (crc16Init.toBitVec ^^^ 0#16)
      (List.zipWith xor (bits (sealed.content ++ sealed.trailer)) (bits error)) = _ :=
    Crc.feed_xor (by rw [bits_length, bits_length, hwhole])
  rw [BitVec.xor_zero, ← hbits, hagain, hopened, BitVec.zero_xor] at hfeed
  exact feed_burst_ne_zero hsome hburst hfeed.symm

/-- An error that straddles content and trailer. -/
theorem crc16_detects_straddling : crc16OpenRecord
    { (crc16SealRecord ⟨[0x31, 0x32], 2, 0, []⟩).2 with
      content := [0x31, 0x31]
      trailer := (changed (crc16SealRecord ⟨[0x31, 0x32], 2, 0, []⟩).2.trailer [0x80, 0x00]) } =
    .rejected :=
  (crc16_detects_bursts [0x31, 0x32] [] 0 (by decide)).2 [0x00, 0x03, 0x80, 0x00] rfl
    (by decide +kernel) ⟨14, by
      intro i hi
      have hlt : i < 32 := (List.getElem?_eq_some_iff.1 hi).1
      revert hi
      interval_cases i <;> decide +kernel⟩

end SolidSyslog.Security
