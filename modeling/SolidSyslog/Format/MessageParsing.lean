import SolidSyslog.Format.FieldWidth
import SolidSyslog.Format.SdParsing
import SolidSyslog.Format.Truncation
import SolidSyslog.Lib.Rfc5424Message

/-!
# A message is read back

What `SolidSyslogMessageFormatter_Format` writes is the text of a message of the grammar, for any
message, timestamp, appends to the header fields and structured data. So a reader of the grammar
gives that message back: each field comes out of its own place, whatever bytes stand in the others.
-/

namespace SolidSyslog.Format

open Lib
open Lib.OctetCounting (decimal digit)

/-! ## What is to be read -/

/-- The fields of a timestamp as numbers. -/
def Timestamp.numbers (ts : Timestamp) : Rfc5424.Timestamp :=
  ⟨ts.year.toNat, ts.month.toNat, ts.day.toNat, ts.hour.toNat, ts.minute.toNat, ts.second.toNat,
    ts.microsecond.toNat, ts.utcOffsetMinutes.toInt⟩

/-- The appends a callback makes with `SolidSyslogHeaderField_PrintUsAscii`: their sources and
lengths. -/
abbrev Appends := List (Bytes × Nat)

def Appends.calls (appends : Appends) : List FieldCall :=
  appends.map fun append => .printUsAscii append.1 append.2

/-- A source cut to a length, each character that is not printable substituted. -/
def substituted (source : Bytes) (maxLength : Nat) : Bytes :=
  ((cString source).take maxLength).map printableUsAscii

/-- What the appends add up to, cut to a width. -/
def Appends.text (appends : Appends) (width : Nat) : Bytes :=
  (appends.flatMap fun append => substituted append.1 append.2).take width

/-- A text less one BOM that it begins with. -/
def lessBom (text : Bytes) : Bytes :=
  if Rfc5424.bom <+: text then text.drop 3 else text

/-- The elements that objects write, of which some may be NULL. -/
abbrev Objects := List (Option (List ElementWrites))

def Objects.calls (objects : Objects) : List (Option StructuredData) :=
  objects.map fun object => object.map fun elements => elements.flatMap ElementWrites.calls

/-- What the formatter is given. -/
structure Given where
  message : Message
  clock : Timestamp
  hostname : Appends
  appName : Appends
  processId : Appends
  baseSd : Objects
  messageSd : Objects

/-- The context of the formatter. -/
def Given.context (given : Given) : Context :=
  ⟨given.clock, given.hostname.calls, given.appName.calls, given.processId.calls,
    given.baseSd.calls⟩

/-- MSG: the body behind a BOM, where there is any. -/
def msgRead (maxMessageSize : Nat) (msg : Option Bytes) : Option Bytes :=
  let body := lessBom (cString (msg.getD []))
  if body = [] then none else some (Rfc5424.bom ++ Utf8.sanitise (body.take maxMessageSize))

/-- The message to be read. -/
def Given.read (maxMessageSize : Nat) (given : Given) : Rfc5424.Message where
  prival :=
    if given.message.facility ≤ 23 ∧ given.message.severity ≤ 7 then
      8 * given.message.facility.toNat + given.message.severity.toNat
    else 43
  version := 1
  timestamp := if given.clock.isValid then some given.clock.numbers else none
  hostname := Formatter.orNil (given.hostname.text 255)
  appName := Formatter.orNil (given.appName.text 48)
  procId := Formatter.orNil (given.processId.text 128)
  msgId := Formatter.orNil (substituted (given.message.messageId.getD []) 32)
  elements := ((given.baseSd ++ given.messageSd).filterMap id).flatten.filterMap ElementWrites.read
  msg := msgRead maxMessageSize given.message.msg

/-! ## PRIVAL -/

theorem makePrival_toNat (message : Message) : (makePrival message).toNat =
    if message.facility ≤ 23 ∧ message.severity ≤ 7 then
      8 * message.facility.toNat + message.severity.toNat
    else 43 := by
  unfold makePrival privalComponentsAreValid
  simp only [Bool.and_eq_true, decide_eq_true_eq]
  split
  · next hvalid =>
    obtain ⟨hfacility, hseverity⟩ := hvalid
    rw [UInt8.le_iff_toNat_le] at hfacility hseverity
    have hfacility' : message.facility.toNat ≤ 23 := hfacility
    have hseverity' : message.severity.toNat ≤ 7 := hseverity
    rw [combineFacilityAndSeverity, UInt8.toNat_add, UInt8.toNat_mul]
    have height : (8 : UInt8).toNat = 8 := rfl
    rw [height]
    omega
  · rfl

/-! ## The timestamp -/

theorem twoDigitBytes_eq (value : Nat) : twoDigitBytes value = Rfc5424.fixed 2 value := rfl

theorem fourDigitBytes_eq (value : Nat) : fourDigitBytes value = Rfc5424.fixed 4 value := by
  have hhundred : value / 10 / 10 = value / 100 := Nat.div_div_eq_div_mul _ _ _
  have hthousand : value / 100 / 10 = value / 1000 := Nat.div_div_eq_div_mul _ _ _
  simp only [Rfc5424.fixed, hhundred, hthousand]
  rfl

theorem sixDigitBytes_eq (value : Nat) : sixDigitBytes value = Rfc5424.fixed 6 value := by
  have h₂ : value / 10 / 10 = value / 100 := Nat.div_div_eq_div_mul _ _ _
  have h₃ : value / 100 / 10 = value / 1000 := Nat.div_div_eq_div_mul _ _ _
  have h₄ : value / 1000 / 10 = value / 10000 := Nat.div_div_eq_div_mul _ _ _
  have h₅ : value / 10000 / 10 = value / 100000 := Nat.div_div_eq_div_mul _ _ _
  simp only [Rfc5424.fixed, h₂, h₃, h₄, h₅]
  rfl

namespace Timestamp

variable {ts : Timestamp}

/-- The ranges of the fields. -/
theorem isValid_iff : ts.isValid = true ↔
    (1 ≤ ts.month.toNat ∧ ts.month.toNat ≤ 12) ∧ (1 ≤ ts.day.toNat ∧ ts.day.toNat ≤ 31) ∧
      ts.hour.toNat ≤ 23 ∧ ts.minute.toNat ≤ 59 ∧ ts.second.toNat ≤ 59 ∧
      ts.microsecond.toNat ≤ 999999 ∧
      -720 ≤ ts.utcOffsetMinutes.toInt ∧ ts.utcOffsetMinutes.toInt ≤ 840 := by
  simp only [isValid, Bool.and_eq_true, decide_eq_true_eq, UInt8.le_iff_toNat_le,
    UInt32.le_iff_toNat_le, Int16.le_iff_toInt_le, and_assoc]
  rfl

theorem absoluteInt16_toNat {value : Int16} (h : -720 ≤ value.toInt) :
    (absoluteInt16 value).toInt.toNat = value.toInt.natAbs := by
  unfold absoluteInt16
  have hle := value.toInt_lt
  split
  · next hneg =>
    rw [Int16.lt_iff_toInt_lt] at hneg
    have hneg' : value.toInt < 0 := hneg
    rw [Int16.toInt_neg, Int.bmod_eq_of_le (by omega) (by omega)]
    omega
  · next hpos =>
    rw [Int16.lt_iff_toInt_lt] at hpos
    have hpos' : ¬ value.toInt < 0 := hpos
    omega

theorem utcOffsetBytes_eq {value : Int16} (h : -720 ≤ value.toInt) :
    utcOffsetBytes value = Rfc5424.offsetText value.toInt := by
  have hzero : value = 0 ↔ value.toInt = 0 := by
    rw [← Int16.toInt_inj]
    rfl
  have hpos : 0 < value ↔ 0 < value.toInt := by
    rw [Int16.lt_iff_toInt_lt]
    rfl
  unfold utcOffsetBytes Rfc5424.offsetText
  simp only [hzero, hpos, absoluteInt16_toNat h, twoDigitBytes_eq, List.append_assoc]
  rfl

theorem formatBytes_eq (ts : Timestamp) : ts.formatBytes =
    if ts.isValid then ts.numbers.text else Rfc5424.nil := by
  unfold formatBytes
  split
  · next hvalid =>
    have hoffset := (isValid_iff.1 hvalid).2.2.2.2.2.2.1
    rw [validBytes, Rfc5424.Timestamp.text, fourDigitBytes_eq, sixDigitBytes_eq,
      utcOffsetBytes_eq hoffset]
    simp only [twoDigitBytes_eq, List.append_assoc]
    rfl
  · rfl

theorem numbers_valid (hvalid : ts.isValid = true) (hyear : ts.year ≤ 9999) :
    ts.numbers.Valid := by
  obtain ⟨hmonth, hday, hhour, hminute, hsecond, hmicro, hlow, hhigh⟩ := isValid_iff.1 hvalid
  refine ⟨UInt16.le_iff_toNat_le.1 hyear, hmonth, hday, hhour, hminute, hsecond, hmicro, ?_⟩
  simp only [numbers]
  omega

end Timestamp

/-! ## Header fields -/

theorem fieldBytes_eq (width : Nat) (appends : Appends) :
    HeaderField.fieldBytes width appends.calls = appends.text width := by
  induction appends generalizing width with
  | nil => rw [Appends.text, List.flatMap_nil, List.take_nil]; rfl
  | cons append appends ih =>
    obtain ⟨source, maxLength⟩ := append
    have hfirst : HeaderField.callBytes width (.printUsAscii source maxLength) =
        (substituted source maxLength).take width := by
      rw [HeaderField.callBytes, HeaderField.printUsAsciiBytes_min, printUsAsciiBytes_eq]
      rfl
    change HeaderField.callBytes width (.printUsAscii source maxLength) ++
      HeaderField.fieldBytes _ (Appends.calls appends) = _
    rw [ih, hfirst, Appends.text, Appends.text, List.flatMap_cons, List.take_append,
      List.length_take]
    dsimp only
    congr 2
    omega

theorem isToken_orNil {bytes : Bytes} {most : Nat} (hmost : 0 < most)
    (hlength : bytes.length ≤ most)
    (hprintable : ∀ x ∈ bytes, isPrintableUsAscii x = true) :
    Rfc5424.isToken most (Formatter.orNil bytes) = true := by
  unfold Formatter.orNil
  split
  · simp only [Rfc5424.isToken, List.length_singleton, Bool.and_eq_true, decide_eq_true_eq]
    exact ⟨⟨Nat.one_pos, hmost⟩, rfl⟩
  · next hsome =>
    have hpos := List.length_pos_iff.2 hsome
    simp only [Rfc5424.isToken, Bool.and_eq_true, decide_eq_true_eq, List.all_eq_true]
    exact ⟨⟨hpos, hlength⟩, hprintable⟩

theorem printable_substituted (source : Bytes) (maxLength : Nat) :
    ∀ x ∈ substituted source maxLength, isPrintableUsAscii x = true := by
  intro x hx
  rw [substituted, ← printUsAsciiBytes_eq] at hx
  exact isPrintableUsAscii_of_mem x hx

theorem isToken_text (appends : Appends) {width : Nat} (hwidth : 0 < width) :
    Rfc5424.isToken width (Formatter.orNil (appends.text width)) = true := by
  refine isToken_orNil hwidth (List.length_take_le _ _) fun x hx => ?_
  obtain ⟨append, -, hx⟩ := List.mem_flatMap.1 (List.mem_of_mem_take hx)
  exact printable_substituted _ _ x hx

theorem isToken_msgId (messageId : Bytes) :
    Rfc5424.isToken 32 (Formatter.orNil (substituted messageId 32)) = true := by
  refine isToken_orNil (by decide) ?_ (printable_substituted _ _)
  rw [substituted, List.length_map]
  exact List.length_take_le _ _

theorem msgIdBytes_eq (messageId : Option Bytes) :
    msgIdBytes messageId = substituted (messageId.getD []) 32 :=
  printUsAsciiBytes_eq _ _

/-! ## Structured data -/

theorem Objects.calls_flatten (objects : Objects) :
    (objects.calls.filterMap id).flatten =
      (objects.filterMap id).flatten.flatMap ElementWrites.calls := by
  induction objects with
  | nil => rfl
  | cons object objects ih =>
    cases object with
    | none => exact ih
    | some elements =>
      change elements.flatMap ElementWrites.calls ++
        ((Objects.calls objects).filterMap id).flatten =
        (elements ++ (objects.filterMap id).flatten).flatMap ElementWrites.calls
      rw [ih, List.flatMap_append]

theorem sdBytes_eq (baseSd messageSd : Objects) : sdBytes baseSd.calls messageSd.calls =
    (((baseSd ++ messageSd).filterMap id).flatten.filterMap ElementWrites.read).flatMap
      Rfc5424.Element.text := by
  have happend : baseSd.calls ++ messageSd.calls = Objects.calls (baseSd ++ messageSd) :=
    List.map_append.symm
  rw [sdBytes, happend, Objects.calls_flatten, SdElement.performAll_program]

theorem orNil_elements (elements : List Rfc5424.Element) :
    Formatter.orNil (elements.flatMap Rfc5424.Element.text) =
      if elements = [] then Rfc5424.nil else elements.flatMap Rfc5424.Element.text := by
  cases elements with
  | nil => rfl
  | cons element elements =>
    rw [Formatter.orNil, if_neg (by simp [Rfc5424.Element.text]), if_neg (List.cons_ne_nil _ _)]

/-! ## MSG -/

theorem bom_isPrefix_iff (source : Bytes) : Rfc5424.bom <+: source ↔
    charAt source 0 = 0xEF ∧ charAt source 1 = 0xBB ∧ charAt source 2 = 0xBF := by
  constructor
  · rintro ⟨rest, rfl⟩
    exact ⟨rfl, rfl, rfl⟩
  · rintro ⟨h₀, h₁, h₂⟩
    match source, h₀, h₁, h₂ with
    | [], h₀, _, _ => exact absurd h₀ (by decide)
    | [_], _, h₁, _ => exact absurd h₁ (by simp [charAt])
    | [_, _], _, _, h₂ => exact absurd h₂ (by simp [charAt])
    | a :: b :: c :: rest, h₀, h₁, h₂ =>
      simp only [charAt, List.getD_cons_zero, List.getD_cons_succ] at h₀ h₁ h₂
      exact ⟨rest, by rw [h₀, h₁, h₂]; rfl⟩

/-- The leading BOM that is skipped is that of the text. -/
theorem cString_skipLeadingBom (msg : Bytes) :
    cString (skipLeadingBom msg) = lessBom (cString msg) := by
  have hnul : ∀ x ∈ Rfc5424.bom, x ≠ 0 := by simp [Rfc5424.bom]
  unfold skipLeadingBom lessBom
  by_cases hbom : Rfc5424.bom <+: msg
  · obtain ⟨h₀, h₁, h₂⟩ := (bom_isPrefix_iff msg).1 hbom
    obtain ⟨rest, rfl⟩ := hbom
    rw [cString_append hnul, if_pos (List.prefix_append _ _), if_pos (by simp [h₀, h₁, h₂])]
    rfl
  · have hnot : ¬ Rfc5424.bom <+: cString msg := fun h => hbom (h.trans (cString_isPrefix msg))
    rw [bom_isPrefix_iff] at hbom
    rw [if_neg (by simpa [and_assoc] using hbom), if_neg hnot]

theorem msgBytes_eq (maxMessageSize : Nat) (msg : Option Bytes) : msgBytes maxMessageSize msg =
    match msgRead maxMessageSize msg with
    | none => []
    | some body => 0x20 :: body := by
  unfold msgBytes msgRead
  simp only [← cString_eq_nil, boundedBytes_eq, cString_skipLeadingBom]
  split
  · rfl
  · rfl

theorem isMsg_msgRead {maxMessageSize : Nat} {msg : Option Bytes} :
    ∀ body ∈ msgRead maxMessageSize msg, Rfc5424.isMsg body = true := by
  intro body hbody
  unfold msgRead at hbody
  dsimp only at hbody
  split at hbody
  · cases hbody
  · obtain rfl := Option.some.inj hbody
    have hutf8 := Utf8.sanitise_of_wellFormed (Utf8.wellFormed_sanitise
      ((lessBom (cString (msg.getD []))).take maxMessageSize))
    have hdrop : ∀ text : Bytes, (Rfc5424.bom ++ text).drop 3 = text := fun _ => rfl
    simp [Rfc5424.isMsg, Rfc5424.isUtf8String, hdrop, hutf8]

/-! ## The message -/

variable {maxMessageSize : Nat} {given : Given}

theorem read_isValid (hyear : given.clock.year ≤ 9999) : (given.read maxMessageSize).Valid := by
  refine ⟨?_, ⟨Nat.one_pos, (by decide : 1 ≤ 999)⟩, ?_, isToken_text _ (by decide),
    isToken_text _ (by decide),
    isToken_text _ (by decide), isToken_msgId _, read_valid _, isMsg_msgRead⟩
  · simp only [Given.read]
    split
    · next hvalid =>
      have hfacility := UInt8.le_iff_toNat_le.1 hvalid.1
      have hseverity := UInt8.le_iff_toNat_le.1 hvalid.2
      simp only [UInt8.reduceToNat] at hfacility hseverity
      omega
    · decide
  · intro ts hts
    simp only [Given.read] at hts
    split at hts
    · next hvalid =>
      obtain rfl := Option.some.inj hts
      exact Timestamp.numbers_valid hvalid hyear
    · cases hts

/-- What the formatter writes is the text of the message to be read. -/
theorem messageBytes_eq (maxMessageSize : Nat) (given : Given) :
    messageBytes maxMessageSize given.message given.context given.messageSd.calls =
      (given.read maxMessageSize).text := by
  have hprival : uint32Bytes (makePrival given.message).toNat =
      decimal (given.read maxMessageSize).prival := by
    rw [uint32Bytes_eq ((UInt8.toNat_lt _).trans (by decide)), makePrival_toNat]
    rfl
  have htimestamp : given.clock.formatBytes = (given.read maxMessageSize).timestampText := by
    rw [Timestamp.formatBytes_eq]
    simp only [Rfc5424.Message.timestampText, Given.read]
    split
    · rfl
    · rfl
  have hversion : decimal (given.read maxMessageSize).version = [0x31] := by
    rw [show (given.read maxMessageSize).version = 1 from rfl, decimal]
    rfl
  have helements : Formatter.orNil (sdBytes given.baseSd.calls given.messageSd.calls) =
      (given.read maxMessageSize).structuredDataText := by
    rw [sdBytes_eq, orNil_elements]
    rfl
  have hmsg : msgBytes maxMessageSize given.message.msg = (given.read maxMessageSize).msgText :=
    msgBytes_eq _ _
  rw [messageBytes, Rfc5424.Message.text, hversion]
  simp only [Given.context, hprival, htimestamp, helements, hmsg, maxHostnameSize, maxAppNameSize,
    maxProcessIdSize, fieldBytes_eq, msgIdBytes_eq, List.append_assoc]
  rfl

/-- **A message is read back.** In a formatter with room for it, what
`SolidSyslogMessageFormatter_Format` writes is read by the grammar, to its end, as the message it
was given: PRIVAL, the timestamp where its fields are in range, each header field and MSGID as its
substituted characters cut to the width or NIL, the elements with their parameters, and the body
behind one BOM. -/
theorem format_parses {capacity : Nat} (hyear : given.clock.year ≤ 9999)
    (hroom : (messageBytes maxMessageSize given.message given.context
      given.messageSd.calls).length < capacity) :
    Rfc5424.parse (format maxMessageSize (.create capacity) given.message given.context
      given.messageSd.calls).bytes = some (given.read maxMessageSize) := by
  rw [format_eq, Formatter.writeBytes_of_fits (by simpa [Formatter.create] using hroom),
    messageBytes_eq]
  exact Rfc5424.Message.parse_text (read_isValid hyear)

/-- A message with a field that is absent, one that is substituted, an element and a body of one
byte that is no character behind its own BOM. -/
theorem format_parses_message :
    let given : Given := ⟨⟨24, 2, none, some [0xEF, 0xBB, 0xBF, 0xFF]⟩,
      ⟨2024, 2, 29, 23, 59, 58, 7, -90⟩, [([0x61, 0x20], 9)], [], [([0x62], 9)],
      [none, some [⟨some ⟨[0x63], rfl⟩, 7, [⟨some ⟨[0x64], rfl⟩, [.string [0x5D]]⟩]⟩]], []⟩
    Rfc5424.parse (format 64 (.create 128) given.message given.context
        given.messageSd.calls).bytes =
      some ⟨43, 1, some ⟨2024, 2, 29, 23, 59, 58, 7, -90⟩, [0x61, 0x3F], [0x2D], [0x62], [0x2D],
        [⟨[0x63, 0x40, 0x37], [⟨[0x64], [0x5D]⟩]⟩], some [0xEF, 0xBB, 0xBF, 0xEF, 0xBF, 0xBD]⟩ := by
  intro given
  refine (@format_parses 64 given 128 ?_ ?_).trans ?_
  · decide
  · decide +kernel
  · decide +kernel

end SolidSyslog.Format
