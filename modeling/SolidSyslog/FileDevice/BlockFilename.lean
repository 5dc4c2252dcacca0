import SolidSyslog.FileDevice.FileBlockDevice
import SolidSyslog.Format.Reads
import Mathlib.Data.Finset.Card
import Mathlib.Order.Interval.Finset.Nat
import Mathlib.Data.Set.Function

/-!
# The names of the blocks' files

`FileBlockDevice_FormatBlockFilename` of `SolidSyslogFileBlockDevice.c`: the path prefix, two digits
and the extension, through a formatter. The prefix is bounded by the bytes it is read from, and may
grow on the way.
-/

namespace SolidSyslog.FileDevice

open Format Lib

/-! ## The names -/

/-- `SOLIDSYSLOG_MAX_PATH_SIZE`, which the build wants to be at least 32. -/
structure MaxPathSize where
  size : Nat
  atLeast : 32 ≤ size

/-- The size the library has where the integrator sets no other. -/
def MaxPathSize.byDefault : MaxPathSize :=
  ⟨128, by decide⟩

/-- `FILE_EXTENSION`: ".log". -/
def fileExtension : Bytes :=
  [0x2E, 0x6C, 0x6F, 0x67]

/-- `FILENAME_SUFFIX`. -/
def filenameSuffix : Nat :=
  2 + fileExtension.length

/-- `MAX_PREFIX_LENGTH`. -/
def maxPrefixLength (maxPathSize : MaxPathSize) : Nat :=
  maxPathSize.size - filenameSuffix - 1

/-- `FileBlockDevice_FormatBlockFilename`: the name, as the file calls read it. -/
def formatBlockFilename (maxPathSize : MaxPathSize) (pathPrefix : Bytes) (blockIndex : Nat) :
    Bytes :=
  let formatter := Formatter.create maxPathSize.size
  let formatter := formatter.boundedString pathPrefix (maxPrefixLength maxPathSize)
  let formatter := formatter.writeBytes (twoDigitBytes (blockIndex % 256))
  let formatter := formatter.boundedString fileExtension fileExtension.length
  cString formatter.asFormattedBuffer.bytes

/-! ## What a name is made of -/

/-- The bytes that are taken of a prefix. -/
def takenPrefix (maxPathSize : MaxPathSize) (pathPrefix : Bytes) : Bytes :=
  (cString pathPrefix).take (maxPrefixLength maxPathSize)

/-- The prefix as the formatter writes it, if there is room. -/
def writtenPrefix (maxPathSize : MaxPathSize) (pathPrefix : Bytes) : Bytes :=
  Utf8.sanitise (takenPrefix maxPathSize pathPrefix)

/-- The end of a block's name. -/
def nameEnd (blockIndex : Nat) : Bytes :=
  [OctetCounting.digit (blockIndex / 10), OctetCounting.digit blockIndex] ++ fileExtension

variable {maxPathSize : MaxPathSize} {pathPrefix : Bytes} {i j : Nat}

theorem nameEnd_length (i : Nat) : (nameEnd i).length = 6 :=
  rfl

theorem size_bounds (maxPathSize : MaxPathSize) :
    maxPathSize.size - 1 = maxPrefixLength maxPathSize + 6 ∧ 25 ≤ maxPrefixLength maxPathSize := by
  have hsize := maxPathSize.atLeast
  have hsuffix : filenameSuffix = 6 := rfl
  rw [maxPrefixLength, hsuffix]
  omega

theorem nameEnd_ascii (i : Nat) : ∀ x ∈ nameEnd i, x ≠ 0 ∧ x < 0x80 := by
  have hdigit : ∀ n, OctetCounting.digit n ≠ 0 ∧ OctetCounting.digit n < 0x80 := by
    intro n
    have hvalue := OctetCounting.digit_toNat n
    have hmod := Nat.mod_lt n (Nat.succ_pos 9)
    constructor
    · intro hzero
      rw [hzero] at hvalue
      exact absurd hvalue (by simp; omega)
    · rw [UInt8.lt_iff_toNat_lt, hvalue]
      change _ < 128
      omega
  simp [nameEnd, fileExtension, hdigit]

theorem written_ne_zero : ∀ x ∈ writtenPrefix maxPathSize pathPrefix, x ≠ 0 := by
  intro x hx
  rcases Utf8.mem_sanitise hx with hx | hx
  · exact cString_ne_zero pathPrefix x (List.mem_of_mem_take hx)
  · rintro rfl
    revert hx
    decide

/-- What is in the formatter at the end, before a cut character is blanked. -/
def nameFormatter (maxPathSize : MaxPathSize) (pathPrefix : Bytes) (blockIndex : Nat) : Formatter :=
  (Formatter.create maxPathSize.size).writeBytes
    (writtenPrefix maxPathSize pathPrefix ++ nameEnd blockIndex)

theorem nameFormatter_bytes (i : Nat) : (nameFormatter maxPathSize pathPrefix i).bytes =
    (writtenPrefix maxPathSize pathPrefix ++ nameEnd i).take (maxPrefixLength maxPathSize + 6) := by
  rw [nameFormatter, Formatter.writeBytes_bytes, ← (size_bounds maxPathSize).1]
  rfl

theorem formatBlockFilename_eq (hi : i ≤ maxBlockIndex) :
    formatBlockFilename maxPathSize pathPrefix i =
    cString (nameFormatter maxPathSize pathPrefix i).asFormattedBuffer.bytes := by
  have hindex : i % 256 = i := Nat.mod_eq_of_lt (Nat.lt_of_le_of_lt hi (by decide))
  have hextension : boundedBytes fileExtension fileExtension.length = fileExtension := by
    rw [boundedBytes_eq]
    exact Utf8.sanitise_of_wellFormed (by decide +kernel)
  unfold formatBlockFilename nameFormatter nameEnd
  rw [hindex, Formatter.writeBytes_append, Formatter.writeBytes_append]
  simp only [Formatter.boundedString, hextension, boundedBytes_eq]
  rfl

/-- A name is what the formatter holds, up to where a cut character was blanked. -/
theorem name_eq (hi : i ≤ maxBlockIndex) : formatBlockFilename maxPathSize pathPrefix i =
    (nameFormatter maxPathSize pathPrefix i).bytes.take
      (nameFormatter maxPathSize pathPrefix i).trimFrom := by
  have hheld : ∀ x ∈ (nameFormatter maxPathSize pathPrefix i).bytes.take
      (nameFormatter maxPathSize pathPrefix i).trimFrom, x ≠ 0 := by
    intro x hx
    have hx := List.mem_of_mem_take hx
    rw [nameFormatter_bytes] at hx
    rcases List.mem_append.1 (List.mem_of_mem_take hx) with hx | hx
    · exact written_ne_zero x hx
    · exact (nameEnd_ascii i x hx).1
  have hblank : ∀ n, cString (List.replicate n 0) = [] := by
    intro n
    cases n <;> rfl
  rw [formatBlockFilename_eq hi, Formatter.asFormattedBuffer, cString_append hheld, hblank,
    List.append_nil]

/-! ## Where the prefix does not grow too long -/

/-- The name of a block whose prefix leaves room for the rest. -/
theorem name_of_fits (hfits : (writtenPrefix maxPathSize pathPrefix).length ≤
    maxPrefixLength maxPathSize)
    (hi : i ≤ maxBlockIndex) :
    formatBlockFilename maxPathSize pathPrefix i =
      writtenPrefix maxPathSize pathPrefix ++ nameEnd i := by
  have hlength := nameEnd_length i
  have hbytes : (nameFormatter maxPathSize pathPrefix i).bytes =
      writtenPrefix maxPathSize pathPrefix ++ nameEnd i := by
    rw [nameFormatter_bytes, List.take_of_length_le]
    rw [List.length_append]
    omega
  have hascii : (nameFormatter maxPathSize pathPrefix i).asFormattedBuffer =
      nameFormatter maxPathSize pathPrefix i := by
    apply Formatter.asFormattedBuffer_of_ascii_tail
    intro x hx
    rw [hbytes, List.length_append, hlength, List.drop_append, List.drop_of_length_le (by omega),
      List.nil_append] at hx
    exact (nameEnd_ascii i x (List.mem_of_mem_drop hx)).2
  rw [formatBlockFilename_eq hi, hascii, hbytes, cString_of_ne_zero]
  intro x hx
  rcases List.mem_append.1 hx with hx | hx
  · exact written_ne_zero x hx
  · exact (nameEnd_ascii i x hx).1

theorem nameEnd_inj (hi : i ≤ maxBlockIndex) (hj : j ≤ maxBlockIndex) (h : nameEnd i = nameEnd j) :
    i = j := by
  have hi : i ≤ 99 := hi
  have hj : j ≤ 99 := hj
  simp only [nameEnd, List.append_cancel_right_eq, List.cons.injEq, ← UInt8.toNat_inj,
    OctetCounting.digit_toNat, and_true] at h
  omega

/-! ## Where it does -/

/-- All blocks have one name where nothing is left for what they differ in. -/
theorem names_alias (hlong : maxPrefixLength maxPathSize + 6 ≤
    (writtenPrefix maxPathSize pathPrefix).length)
    (hi : i ≤ maxBlockIndex) (hj : j ≤ maxBlockIndex) :
    formatBlockFilename maxPathSize pathPrefix i =
      formatBlockFilename maxPathSize pathPrefix j := by
  have hbytes : ∀ i, (nameFormatter maxPathSize pathPrefix i).bytes =
      (writtenPrefix maxPathSize pathPrefix).take (maxPrefixLength maxPathSize + 6) := by
    intro i
    rw [nameFormatter_bytes, List.take_append_of_le_length hlong]
  have htrim : (nameFormatter maxPathSize pathPrefix i).trimFrom =
      (nameFormatter maxPathSize pathPrefix j).trimFrom := by
    simp only [Formatter.trimFrom, hbytes]
  rw [name_eq hi, name_eq hj, htrim, hbytes, hbytes]

/-- The place of the tens digit in a name that ends as it should, where the prefix has got there. -/
theorem tens_in_prefix (hlong : maxPrefixLength maxPathSize <
    (writtenPrefix maxPathSize pathPrefix).length)
    {front : Bytes} (hi : i ≤ maxBlockIndex)
    (hname : formatBlockFilename maxPathSize pathPrefix i = front ++ nameEnd i) :
    front.length ∈ Finset.Icc (maxPrefixLength maxPathSize - 3) (maxPrefixLength maxPathSize) ∧
      (writtenPrefix maxPathSize pathPrefix)[front.length]? =
        some (OctetCounting.digit (i / 10)) := by
  have hend := nameEnd_length i
  have hroom := (size_bounds maxPathSize).2
  obtain ⟨hlow, hhigh⟩ := (nameFormatter maxPathSize pathPrefix i).trimFrom_bounds
  rw [name_eq hi] at hname
  generalize (nameFormatter maxPathSize pathPrefix i).trimFrom = k at *
  rw [nameFormatter_bytes, List.length_take, List.length_append, hend] at hlow hhigh
  rw [nameFormatter_bytes, List.take_take] at hname
  have hlength := congrArg List.length hname
  rw [List.length_take, List.length_append, List.length_append, hend] at hlength
  constructor
  · rw [Finset.mem_Icc]
    omega
  · have hat := congrArg (fun name => name[front.length]?) hname
    simp only [List.getElem?_append_right le_rfl, Nat.sub_self] at hat
    rw [List.getElem?_take_of_lt (by omega), List.getElem?_append_left (by omega)] at hat
    exact hat

/-- The blocks' names are pairwise different, and each ends in its block's digits and the
extension. -/
def NamesBlocks (name : Nat → Bytes) : Prop :=
  Set.InjOn name (Set.Iic maxBlockIndex) ∧
    ∀ i ≤ maxBlockIndex, ∃ front, name i = front ++ nameEnd i

theorem not_ends (hlong : maxPrefixLength maxPathSize <
    (writtenPrefix maxPathSize pathPrefix).length) :
    ¬ ∀ i ≤ maxBlockIndex, ∃ front,
      formatBlockFilename maxPathSize pathPrefix i = front ++ nameEnd i := by
  intro hends
  -- five blocks whose tens digits would stand in four places
  have htens : ∀ t : Fin 5, ∃ k ∈ Finset.Icc (maxPrefixLength maxPathSize - 3)
      (maxPrefixLength maxPathSize),
        (writtenPrefix maxPathSize pathPrefix)[k]? = some (OctetCounting.digit t) := by
    intro t
    have ht : 10 * t.val ≤ maxBlockIndex := by
      change 10 * t.val ≤ 99
      omega
    obtain ⟨front, hname⟩ := hends (10 * t) ht
    obtain ⟨hplace, hat⟩ := tens_in_prefix hlong ht hname
    rw [Nat.mul_div_cancel_left _ (Nat.succ_pos 9)] at hat
    exact ⟨_, hplace, hat⟩
  choose place hplace hat using htens
  have hroom := (size_bounds maxPathSize).2
  have hcard : (Finset.Icc (maxPrefixLength maxPathSize - 3) (maxPrefixLength maxPathSize)).card <
      (Finset.univ : Finset (Fin 5)).card := by
    rw [Nat.card_Icc, Finset.card_univ, Fintype.card_fin]
    omega
  obtain ⟨t, -, u, -, hne, hsame⟩ :=
    Finset.exists_ne_map_eq_of_card_lt_of_maps_to hcard fun t _ => hplace t
  have hdigit : OctetCounting.digit t = OctetCounting.digit u := by
    rw [← Option.some.injEq, ← hat t, ← hat u, hsame]
  rw [← UInt8.toNat_inj, OctetCounting.digit_toNat, OctetCounting.digit_toNat] at hdigit
  exact hne (Fin.ext (by omega))

/-- The names are those of different files exactly where the bytes taken of the prefix, with two
more for each of them that belongs to no character, are no more than may be taken. -/
theorem names_blocks_iff (maxPathSize : MaxPathSize) (pathPrefix : Bytes) :
    NamesBlocks (formatBlockFilename maxPathSize pathPrefix) ↔
      (takenPrefix maxPathSize pathPrefix).length +
        2 * Utf8.illFormed (takenPrefix maxPathSize pathPrefix) ≤
        maxPrefixLength maxPathSize := by
  rw [← Utf8.sanitise_length]
  constructor
  · rintro ⟨-, hends⟩
    by_contra hlong
    exact not_ends (Nat.lt_of_not_le hlong) hends
  · intro hfits
    constructor
    · intro i hi j hj hsame
      rw [name_of_fits hfits hi, name_of_fits hfits hj] at hsame
      exact nameEnd_inj hi hj (List.append_cancel_left hsame)
    · exact fun i hi => ⟨_, name_of_fits hfits hi⟩

/-- A prefix whose last character, of four bytes, has its first three taken: each becomes three, and
all blocks are one file. -/
theorem cut_character_aliases : ¬ NamesBlocks
    (formatBlockFilename .byDefault (List.replicate 118 0x61 ++ [0xF0, 0x9F, 0x98, 0x80])) := by
  intro hnames
  have hgrown : (writtenPrefix .byDefault
      (List.replicate 118 0x61 ++ [0xF0, 0x9F, 0x98, 0x80])).length = 127 := by decide +kernel
  have halias := names_alias (by rw [hgrown]; decide) (Nat.zero_le maxBlockIndex)
    (by decide : 1 ≤ _)
  cases hnames.1 (Nat.zero_le maxBlockIndex) (by decide : 1 ≤ _) halias

end SolidSyslog.FileDevice
