import SolidSyslog.Format.Header

/-!
# The width of a header field

Characters are appended up to the width, but a number that is begun is written to its end: a field
keeps to its width unless a number comes with fewer columns left than it has digits.
-/

namespace SolidSyslog.Format

/-- What an append is given to write, its characters substituted. -/
def FieldCall.offered : FieldCall → Bytes
  | .printUsAscii source maxLength => printUsAsciiBytes source maxLength
  | .uint32 value => uint32Bytes value.toNat

/-- What appends are given to write. -/
def offeredBytes (calls : List FieldCall) : Bytes :=
  calls.flatMap FieldCall.offered

/-- No number comes with some columns left and fewer than it has digits. -/
def NumbersFit (width : Nat) (calls : List FieldCall) : Prop :=
  ∀ before value after, calls = before ++ .uint32 value :: after →
    (offeredBytes before).length < width →
    (offeredBytes before).length + (uint32Bytes value.toNat).length ≤ width

namespace HeaderField

/-- What the calls of a callback add to the formatter. -/
def emitted (f : Formatter) (width : Nat) (calls : List FieldCall) : Bytes :=
  ((HeaderField.mk f width).performAll calls).formatter.bytes.drop f.bytes.length

/-- The bytes there is room for, before the terminator's. -/
def room (f : Formatter) : Nat :=
  f.size - 1 - f.bytes.length

variable {width : Nat} {call : FieldCall} {calls : List FieldCall}

theorem emitted_eq (f : Formatter) (width : Nat) (calls : List FieldCall) :
    emitted f width calls = (fieldBytes width calls).take (room f) := by
  rw [emitted, performAll_formatter, Formatter.writeBytes_bytes, List.drop_left]
  rfl

/-! ## One append -/

theorem printUsAsciiBytes_min (source : Bytes) (maxLength width : Nat) :
    printUsAsciiBytes source (min maxLength width) =
      (printUsAsciiBytes source maxLength).take width := by
  rw [printUsAsciiBytes_eq, printUsAsciiBytes_eq, ← List.map_take, List.take_take, Nat.min_comm]

/-- An append is written whole, or what is written of it ends the field. -/
theorem callBytes_cases (width : Nat) (call : FieldCall) : callBytes width call = call.offered ∨
    width ≤ (callBytes width call).length ∧ callBytes width call <+: call.offered := by
  cases call with
  | printUsAscii source maxLength =>
    rw [callBytes, FieldCall.offered, printUsAsciiBytes_min]
    by_cases hfits : (printUsAsciiBytes source maxLength).length ≤ width
    · exact .inl (List.take_of_length_le hfits)
    · right
      rw [List.length_take]
      exact ⟨by omega, List.take_prefix _ _⟩
  | uint32 value =>
    rw [callBytes, FieldCall.offered]
    by_cases hsome : 0 < width
    · exact .inl (if_pos hsome)
    · right
      rw [if_neg hsome]
      exact ⟨by omega, List.nil_prefix⟩

theorem printable_uint32Bytes (value : Nat) :
    ∀ x ∈ uint32Bytes value, isPrintableUsAscii x = true := by
  intro x hx
  have hdigit := isDigit_uint32Bytes value x hx
  rw [Lib.OctetCounting.isDigit, Bool.and_eq_true, decide_eq_true_eq, decide_eq_true_eq] at hdigit
  rw [isPrintableUsAscii, Bool.and_eq_true, decide_eq_true_eq, decide_eq_true_eq]
  exact ⟨UInt8.le_trans (by decide) hdigit.1, UInt8.le_trans hdigit.2 (by decide)⟩

theorem printable_offered (call : FieldCall) :
    ∀ x ∈ call.offered, isPrintableUsAscii x = true := by
  cases call with
  | printUsAscii source maxLength => exact isPrintableUsAscii_of_mem
  | uint32 value => exact printable_uint32Bytes _

/-! ## All appends -/

theorem fieldBytes_zero (calls : List FieldCall) : fieldBytes 0 calls = [] := by
  induction calls with
  | nil => rfl
  | cons call calls ih =>
    have hnone : callBytes 0 call = [] := by
      cases call with
      | printUsAscii source maxLength =>
        rw [callBytes, printUsAsciiBytes_min, List.take_zero]
      | uint32 value => rw [callBytes, if_neg (lt_irrefl 0)]
    rw [fieldBytes, hnone, Nat.zero_sub, ih, List.append_nil]

theorem fieldBytes_isPrefix (width : Nat) (calls : List FieldCall) :
    fieldBytes width calls <+: offeredBytes calls := by
  induction calls generalizing width with
  | nil => exact List.nil_prefix
  | cons call calls ih =>
    rw [fieldBytes, offeredBytes, List.flatMap_cons]
    rcases callBytes_cases width call with hwhole | ⟨hends, hpre⟩
    · rw [hwhole, List.prefix_append_right_inj]
      exact ih _
    · rw [Nat.sub_eq_zero_of_le hends, fieldBytes_zero, List.append_nil]
      exact hpre.trans (List.prefix_append _ _)

theorem printable_fieldBytes (width : Nat) (calls : List FieldCall) :
    ∀ x ∈ fieldBytes width calls, isPrintableUsAscii x = true := by
  intro x hx
  obtain ⟨call, -, hx⟩ := List.mem_flatMap.1 ((fieldBytes_isPrefix width calls).subset hx)
  exact printable_offered call x hx

/-- The numbers fit where the first append, if it is a number, does, and the others in what it
leaves. -/
theorem numbersFit_cons : NumbersFit width (call :: calls) ↔
    (∀ value, call = .uint32 value → 0 < width → call.offered.length ≤ width) ∧
      NumbersFit (width - call.offered.length) calls := by
  constructor
  · intro h
    refine ⟨?_, ?_⟩
    · rintro value rfl hpos
      have hfirst := h [] value calls rfl hpos
      rwa [show (offeredBytes []).length = 0 from rfl, Nat.zero_add] at hfirst
    · rintro before value after rfl hleft
      have hlater := h (call :: before) value after rfl
      rw [offeredBytes, List.flatMap_cons, List.length_append] at hlater
      change (offeredBytes before).length < _ at hleft
      have hfits := hlater (by
        change _ + (offeredBytes before).length < width
        omega)
      change _ + (offeredBytes before).length + _ ≤ width at hfits
      omega
  · rintro ⟨hfirst, hrest⟩ before value after hcalls hleft
    cases before with
    | nil =>
      obtain ⟨rfl, rfl⟩ := List.cons.inj hcalls
      rw [show (offeredBytes []).length = 0 from rfl, Nat.zero_add]
      exact hfirst value rfl hleft
    | cons call' before =>
      obtain ⟨rfl, rfl⟩ := List.cons.inj hcalls
      rw [offeredBytes, List.flatMap_cons, List.length_append] at *
      change _ + (offeredBytes before).length < width at hleft
      change _ + (offeredBytes before).length + _ ≤ width
      have hfits := hrest before value after rfl (by omega)
      omega

/-- The field keeps to its width where the numbers fit. -/
theorem length_fieldBytes_le_iff :
    (fieldBytes width calls).length ≤ width ↔ NumbersFit width calls := by
  induction calls generalizing width with
  | nil =>
    constructor
    · intro _ before value after hcalls
      cases before <;> cases hcalls
    · intro _
      exact Nat.zero_le _
  | cons call calls ih =>
    rw [numbersFit_cons, fieldBytes, List.length_append, ← ih]
    cases call with
    | printUsAscii source maxLength =>
      rw [callBytes, FieldCall.offered, printUsAsciiBytes_min, List.length_take]
      have hleft : width - min width (printUsAsciiBytes source maxLength).length =
          width - (printUsAsciiBytes source maxLength).length := by omega
      rw [hleft]
      constructor
      · intro hle
        exact ⟨(by rintro _ ⟨⟩), by omega⟩
      · rintro ⟨-, hle⟩
        omega
    | uint32 value =>
      rw [callBytes, FieldCall.offered]
      by_cases hpos : 0 < width
      · rw [if_pos hpos]
        constructor
        · intro hle
          exact ⟨fun _ _ _ => by omega, by omega⟩
        · rintro ⟨hfits, hle⟩
          have hfirst := hfits value rfl hpos
          omega
      · obtain rfl : width = 0 := by omega
        simp [fieldBytes_zero]

/-- Every character is printable and the field is a beginning of what it is given; it keeps to its
width where the numbers fit, or where the formatter has no more room than that. -/
theorem field_within_width_iff (f : Formatter) (width : Nat) (calls : List FieldCall) :
    ((emitted f width calls).length ≤ width ∧
      (∀ x ∈ emitted f width calls, isPrintableUsAscii x = true) ∧
      emitted f width calls <+: offeredBytes calls) ↔
    room f ≤ width ∨ NumbersFit width calls := by
  have hpre : emitted f width calls <+: fieldBytes width calls := by
    rw [emitted_eq]
    exact List.take_prefix _ _
  have hlength : (emitted f width calls).length = min (room f) (fieldBytes width calls).length := by
    rw [emitted_eq, List.length_take]
  constructor
  · rintro ⟨hle, -, -⟩
    by_cases hroom : room f ≤ width
    · exact .inl hroom
    · right
      rw [← length_fieldBytes_le_iff]
      omega
  · intro h
    refine ⟨?_, ?_, hpre.trans (fieldBytes_isPrefix width calls)⟩
    · rcases h with hroom | hfit
      · omega
      · rw [← length_fieldBytes_le_iff] at hfit
        omega
    · exact fun x hx => printable_fieldBytes width calls x (hpre.subset hx)

/-- Three columns, and two characters with a number of two digits behind them. -/
theorem number_overruns_width :
    ¬ ∀ (f : Formatter) width calls, (emitted f width calls).length ≤ width ∧
      (∀ x ∈ emitted f width calls, isPrintableUsAscii x = true) ∧
      emitted f width calls <+: offeredBytes calls := by
  intro h
  obtain ⟨hle, -⟩ := h (.create 64) 3 [.printUsAscii [0x61, 0x62] 32, .uint32 42]
  have hfour : (emitted (.create 64) 3 [.printUsAscii [0x61, 0x62] 32, .uint32 42]).length = 4 := by
    decide +kernel
  omega

end HeaderField

end SolidSyslog.Format
