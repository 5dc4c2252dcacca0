import SolidSyslog.Format.Text

/-!
# Header fields and the timestamp

`SolidSyslogHeaderField.c` and `SolidSyslogTimestampFormatter.c`. A header field takes from its
width what the formatter's length tells it was written; where the formatter is full that is less
than what it asked for, and then nothing more is written anyway.
-/

namespace SolidSyslog.Format

namespace Formatter

variable {f : Formatter}

@[simp] theorem writeBytes_nil (f : Formatter) : f.writeBytes [] = f :=
  rfl

theorem writeBytes_append (f : Formatter) (bytes bytes' : Bytes) :
    f.writeBytes (bytes ++ bytes') = (f.writeBytes bytes).writeBytes bytes' :=
  List.foldl_append

/-- Nothing is written to a formatter without room. -/
theorem writeBytes_of_full (h : f.size ≤ f.bytes.length + 1) (bytes : Bytes) :
    f.writeBytes bytes = f := by
  induction bytes with
  | nil => rfl
  | cons b bytes ih =>
    have hb : f.writeChar b = f := by
      unfold writeChar hasCapacity
      rw [if_neg]
      simp only [Bool.and_eq_true, decide_eq_true_eq]
      omega
    change (f.writeChar b).writeBytes bytes = f
    rw [hb, ih]

/-- All of it is written, or nothing more will be. -/
theorem writeBytes_cases (f : Formatter) (bytes : Bytes) :
    (f.writeBytes bytes).length = f.length + bytes.length ∨
      ∀ more, (f.writeBytes bytes).writeBytes more = f.writeBytes bytes := by
  by_cases hroom : f.bytes.length + bytes.length ≤ f.size - 1
  · left
    rw [length, writeBytes_bytes, List.length_append, List.length_take, length]
    omega
  · right
    apply writeBytes_of_full
    rw [writeBytes_size, writeBytes_bytes, List.length_append, List.length_take]
    omega

/-- A field, or the sign that it is absent. -/
def orNil (bytes : Bytes) : Bytes :=
  if bytes = [] then [0x2D] else bytes

/-- A writer that gives the NIL value where the length has not changed. -/
theorem nilValue_of_length (f : Formatter) (bytes : Bytes) :
    (if (f.writeBytes bytes).length = f.length then (f.writeBytes bytes).nilValue
      else f.writeBytes bytes) = f.writeBytes (orNil bytes) := by
  unfold orNil
  by_cases hempty : bytes = []
  · rw [if_pos hempty, hempty, writeBytes_nil, if_pos rfl]
    rfl
  · rw [if_neg hempty]
    split
    · next hsame =>
      rcases f.writeBytes_cases bytes with hall | hfull
      · have hpos := List.length_pos_iff.2 hempty
        omega
      · exact hfull [0x2D]
    · rfl

end Formatter

/-! ## Header fields -/

/-- `struct SolidSyslogHeaderField`. -/
structure HeaderField where
  formatter : Formatter
  remaining : Nat

/-- A call of the callback of a header field. -/
inductive FieldCall where
  | printUsAscii (source : Bytes) (maxLength : Nat)
  | uint32 (value : UInt32)

namespace HeaderField

/-- `HeaderField_Consumed`. -/
def consumed (field : HeaderField) (before : Nat) : Nat :=
  field.formatter.length - before

/-- `SolidSyslogHeaderField_PrintUsAscii`. -/
def printUsAscii (field : HeaderField) (source : Bytes) (maxLength : Nat) : HeaderField :=
  let limit := if maxLength < field.remaining then maxLength else field.remaining
  let before := field.formatter.length
  let written := { field with formatter := field.formatter.printUsAsciiString source limit }
  { written with remaining := field.remaining - written.consumed before }

/-- `SolidSyslogHeaderField_Uint32`. -/
def uint32 (field : HeaderField) (value : Nat) : HeaderField :=
  if 0 < field.remaining then
    let before := field.formatter.length
    let written := { field with formatter := field.formatter.uint32 value }
    let consumed := written.consumed before
    { written with remaining := if field.remaining ≤ consumed then 0
      else field.remaining - consumed }
  else field

/-- One call. -/
def perform (field : HeaderField) : FieldCall → HeaderField
  | .printUsAscii source maxLength => field.printUsAscii source maxLength
  | .uint32 value => field.uint32 value.toNat

/-- The calls of a callback. -/
def performAll (field : HeaderField) (calls : List FieldCall) : HeaderField :=
  calls.foldl perform field

/-- What a call writes where there is room, with what is left of the width. -/
def callBytes (remaining : Nat) : FieldCall → Bytes
  | .printUsAscii source maxLength => printUsAsciiBytes source (min maxLength remaining)
  | .uint32 value => if 0 < remaining then uint32Bytes value.toNat else []

/-- What calls write where there is room. -/
def fieldBytes : Nat → List FieldCall → Bytes
  | _, [] => []
  | remaining, call :: calls =>
    callBytes remaining call ++ fieldBytes (remaining - (callBytes remaining call).length) calls

/-- A call writes its bytes and takes what was written of them from the width. -/
theorem perform_eq (field : HeaderField) (call : FieldCall) : field.perform call =
    ⟨field.formatter.writeBytes (callBytes field.remaining call),
      field.remaining - ((field.formatter.writeBytes (callBytes field.remaining call)).length -
        field.formatter.length)⟩ := by
  cases call with
  | printUsAscii source maxLength =>
    have hlimit : (if maxLength < field.remaining then maxLength else field.remaining) =
        min maxLength field.remaining := by
      rw [Nat.min_def]
      split_ifs <;> omega
    change field.printUsAscii source maxLength = _
    unfold printUsAscii
    rw [hlimit]
    rfl
  | uint32 value =>
    change field.uint32 value.toNat = _
    unfold uint32
    by_cases hpos : 0 < field.remaining
    · rw [callBytes, if_pos hpos, if_pos hpos]
      dsimp only
      split
      · next hover =>
        congr 1
        exact (Nat.sub_eq_zero_of_le hover).symm
      · rfl
    · rw [callBytes, if_neg hpos, if_neg hpos]
      simp

/-- Whatever its room, the formatter is written what the calls would write to one with room for
all. -/
theorem performAll_formatter (field : HeaderField) (calls : List FieldCall) :
    (field.performAll calls).formatter =
      field.formatter.writeBytes (fieldBytes field.remaining calls) := by
  have hstuck : ∀ (calls : List FieldCall) (field : HeaderField),
      (∀ more, field.formatter.writeBytes more = field.formatter) →
      (field.performAll calls).formatter = field.formatter := by
    intro calls
    induction calls with
    | nil => exact fun _ _ => rfl
    | cons call calls ih =>
      intro field hfull
      have hformatter : (field.perform call).formatter = field.formatter := by
        rw [perform_eq]
        exact hfull _
      change ((field.perform call).performAll calls).formatter = _
      rw [ih (field.perform call) (by rw [hformatter]; exact hfull), hformatter]
  induction calls generalizing field with
  | nil => rfl
  | cons call calls ih =>
    change ((field.perform call).performAll calls).formatter = _
    rw [fieldBytes, Formatter.writeBytes_append]
    rcases field.formatter.writeBytes_cases (callBytes field.remaining call) with hall | hfull
    · rw [ih, perform_eq, hall, Nat.add_sub_cancel_left]
    · rw [hfull, hstuck calls (field.perform call), perform_eq]
      rw [perform_eq]
      exact hfull

end HeaderField

/-! ## The timestamp -/

/-- `struct SolidSyslogTimestamp`. -/
structure Timestamp where
  year : UInt16
  month : UInt8
  day : UInt8
  hour : UInt8
  minute : UInt8
  second : UInt8
  microsecond : UInt32
  utcOffsetMinutes : Int16
  deriving DecidableEq

/-- What `SolidSyslogFormatter_TwoDigit` writes. -/
def twoDigitBytes (value : Nat) : Bytes :=
  [digitToChar (value / 10), digitToChar value]

/-- What `SolidSyslogFormatter_FourDigit` writes. -/
def fourDigitBytes (value : Nat) : Bytes :=
  [digitToChar (value / 1000), digitToChar (value / 100), digitToChar (value / 10),
    digitToChar value]

/-- What `SolidSyslogFormatter_SixDigit` writes. -/
def sixDigitBytes (value : Nat) : Bytes :=
  [digitToChar (value / 100000), digitToChar (value / 10000), digitToChar (value / 1000),
    digitToChar (value / 100), digitToChar (value / 10), digitToChar value]

namespace Timestamp

/-- `TimestampFormatter_IsValid`. -/
def isValid (ts : Timestamp) : Bool :=
  1 ≤ ts.month && ts.month ≤ 12 && (1 ≤ ts.day && ts.day ≤ 31) && ts.hour ≤ 23 &&
    ts.minute ≤ 59 && ts.second ≤ 59 && ts.microsecond ≤ 999999 &&
    (-720 ≤ ts.utcOffsetMinutes && ts.utcOffsetMinutes ≤ 840)

/-- `TimestampFormatter_AbsoluteInt16`. -/
def absoluteInt16 (value : Int16) : Int16 :=
  if value < 0 then -value else value

/-- What `TimestampFormatter_FormatUtcOffset` writes. -/
def utcOffsetBytes (offsetMinutes : Int16) : Bytes :=
  if offsetMinutes = 0 then [0x5A]
  else
    let absoluteMinutes := (absoluteInt16 offsetMinutes).toInt.toNat
    [if 0 < offsetMinutes then 0x2B else 0x2D] ++ twoDigitBytes (absoluteMinutes / 60) ++ [0x3A] ++
      twoDigitBytes (absoluteMinutes % 60)

/-- What `TimestampFormatter_FormatValid` writes. -/
def validBytes (ts : Timestamp) : Bytes :=
  fourDigitBytes ts.year.toNat ++ [0x2D] ++ twoDigitBytes ts.month.toNat ++ [0x2D] ++
    twoDigitBytes ts.day.toNat ++ [0x54] ++ twoDigitBytes ts.hour.toNat ++ [0x3A] ++
    twoDigitBytes ts.minute.toNat ++ [0x3A] ++ twoDigitBytes ts.second.toNat ++ [0x2E] ++
    sixDigitBytes ts.microsecond.toNat ++ utcOffsetBytes ts.utcOffsetMinutes

/-- What `SolidSyslogTimestampFormatter_Format` writes. -/
def formatBytes (ts : Timestamp) : Bytes :=
  if ts.isValid then ts.validBytes else [0x2D]

end Timestamp

end SolidSyslog.Format
