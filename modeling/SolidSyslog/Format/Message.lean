import SolidSyslog.Format.Header
import SolidSyslog.Format.StructuredData

/-!
# The message formatter

`SolidSyslogMessageFormatter.c`, and what `SolidSyslog.c` does with what it leaves: the record
handed to the buffer and the report formatted into the slot. The formatter is written the same bytes
whatever its room (`format_eq`): the decisions taken by its length come out the same until it is
full.
-/

namespace SolidSyslog.Format

open Lib

/-- `struct SolidSyslogMessage`. A string that is NULL is absent. -/
structure Message where
  facility : UInt8
  severity : UInt8
  messageId : Option Bytes
  msg : Option Bytes

/-- A structured-data object: the calls its `Format` makes. -/
abbrev StructuredData := List SdCall

/-- `struct SolidSyslogMessageFormatterContext`: what the clock gives, the calls of the callbacks
and the objects, of which some may be NULL. -/
structure Context where
  clock : Timestamp
  getHostname : List FieldCall
  getAppName : List FieldCall
  getProcessId : List FieldCall
  sd : List (Option StructuredData)

/-! ## PRIVAL -/

/-- `SOLIDSYSLOG_FACILITY_SYSLOG`. -/
def facilitySyslog : UInt8 := 5

/-- `SOLIDSYSLOG_SEVERITY_ERROR`. -/
def severityError : UInt8 := 3

/-- `MessageFormatter_CombineFacilityAndSeverity`. -/
def combineFacilityAndSeverity (facility severity : UInt8) : UInt8 :=
  facility * 8 + severity

/-- `MessageFormatter_PrivalComponentsAreValid`. -/
def privalComponentsAreValid (facility severity : UInt8) : Bool :=
  facility ≤ 23 && severity ≤ 7

/-- `MessageFormatter_MakePrival`. -/
def makePrival (message : Message) : UInt8 :=
  if privalComponentsAreValid message.facility message.severity then
    combineFacilityAndSeverity message.facility message.severity
  else combineFacilityAndSeverity facilitySyslog severityError

/-- `MessageFormatter_FormatPrival`. -/
def formatPrival (f : Formatter) (prival : UInt8) : Formatter :=
  ((f.asciiCharacter 0x3C).uint32 prival.toNat).asciiCharacter 0x3E

/-! ## Fields -/

/-- `SOLIDSYSLOG_MAX_HOSTNAME_SIZE`. -/
def maxHostnameSize : Nat := 256

/-- `SOLIDSYSLOG_MAX_APP_NAME_SIZE`. -/
def maxAppNameSize : Nat := 49

/-- `SOLIDSYSLOG_MAX_PROCESS_ID_SIZE`. -/
def maxProcessIdSize : Nat := 129

/-- `SOLIDSYSLOG_MAX_MSGID_SIZE`. -/
def maxMsgIdSize : Nat := 33

/-- `MessageFormatter_FormatStringField`. -/
def formatStringField (f : Formatter) (fn : List FieldCall) (maxSize : Nat) : Formatter :=
  let written := ((HeaderField.mk f (maxSize - 1)).performAll fn).formatter
  if written.length = f.length then written.nilValue else written

/-- `MessageFormatter_StringIsValid`. -/
def stringIsValid (value : Option Bytes) : Bool :=
  value.any fun text => charAt text 0 ≠ 0

/-- `MessageFormatter_FormatMsgId`. -/
def formatMsgId (f : Formatter) (messageId : Option Bytes) : Formatter :=
  let written :=
    if stringIsValid messageId then f.printUsAsciiString (messageId.getD []) (maxMsgIdSize - 1)
    else f
  if written.length = f.length then written.nilValue else written

/-! ## Structured data -/

/-- `MessageFormatter_FormatSdElements`. -/
def formatSdElements (f : Formatter) (element : SdElement) :
    List (Option StructuredData) → Formatter × SdElement
  | [] => (f, element)
  | none :: sd => formatSdElements f element sd
  | some calls :: sd =>
    let formatted := element.performAll calls
    formatSdElements (f.writeBytes formatted.written) formatted.state sd

/-- `MessageFormatter_FormatStructuredData`. -/
def formatStructuredData (f : Formatter) (baseSd messageSd : List (Option StructuredData)) :
    Formatter :=
  let base := formatSdElements f .fromFormatter baseSd
  let written := (formatSdElements base.1 base.2 messageSd).1
  if written.length = f.length then written.nilValue else written

/-! ## MSG -/

/-- `MessageFormatter_SkipLeadingBom`. -/
def skipLeadingBom (msg : Bytes) : Bytes :=
  if charAt msg 0 = 0xEF && charAt msg 1 = 0xBB && charAt msg 2 = 0xBF then msg.drop 3 else msg

/-- `MessageFormatter_FormatMsg`. -/
def formatMsg (maxMessageSize : Nat) (f : Formatter) (msg : Option Bytes) : Formatter :=
  if stringIsValid msg then
    let body := skipLeadingBom (msg.getD [])
    if stringIsValid (some body) then
      ((f.asciiCharacter 0x20).bom).boundedString body maxMessageSize
    else f
  else f

/-! ## The message -/

/-- `SolidSyslogMessageFormatter_Format`. -/
def format (maxMessageSize : Nat) (f : Formatter) (message : Message) (context : Context)
    (messageSd : List (Option StructuredData)) : Formatter :=
  let f := formatPrival f (makePrival message)
  let f := f.asciiCharacter 0x31
  let f := f.asciiCharacter 0x20
  let f := f.writeBytes context.clock.formatBytes
  let f := f.asciiCharacter 0x20
  let f := formatStringField f context.getHostname maxHostnameSize
  let f := f.asciiCharacter 0x20
  let f := formatStringField f context.getAppName maxAppNameSize
  let f := f.asciiCharacter 0x20
  let f := formatStringField f context.getProcessId maxProcessIdSize
  let f := f.asciiCharacter 0x20
  let f := formatMsgId f message.messageId
  let f := f.asciiCharacter 0x20
  let f := formatStructuredData f context.sd messageSd
  formatMsg maxMessageSize f message.msg

/-- `SolidSyslog_FormatIntoScratch`: the record handed to the buffer. -/
def formatIntoScratch (maxMessageSize messageBytes : Nat) (message : Message) (context : Context)
    (messageSd : List (Option StructuredData)) : Bytes :=
  (format maxMessageSize (.create messageBytes) message context messageSd).asFormattedBuffer.bytes

/-- The severities as numbers. -/
def severityNumber : Severity → UInt8
  | .emergency => 0
  | .alert => 1
  | .critical => 2
  | .error => 3
  | .warning => 4
  | .notice => 5
  | .informational => 6
  | .debug => 7

/-- `SolidSyslog_FormatReport`: the record in the slot. -/
def formatReport (maxMessageSize recordCapacity : Nat) (context : Context) (names : EventNames)
    (event : ErrorEvent) : Bytes :=
  let message : Message :=
    ⟨facilitySyslog, severityNumber event.severity, some (names.category event),
      some (ascii "SolidSyslog event")⟩
  formatIntoScratch maxMessageSize recordCapacity message context [some (eventSdFormat names event)]

/-! ## What is written where there is room -/

/-- What `SolidSyslogMessageFormatter_Format` writes for MSGID. -/
def msgIdBytes (messageId : Option Bytes) : Bytes :=
  printUsAsciiBytes (messageId.getD []) (maxMsgIdSize - 1)

/-- The same for the structured data. -/
def sdBytes (baseSd messageSd : List (Option StructuredData)) : Bytes :=
  (SdElement.fromFormatter.performAll ((baseSd ++ messageSd).filterMap id).flatten).written

/-- The same for MSG, with the blank before it. -/
def msgBytes (maxMessageSize : Nat) (msg : Option Bytes) : Bytes :=
  let body := skipLeadingBom (msg.getD [])
  if charAt body 0 = 0 then [] else [0x20, 0xEF, 0xBB, 0xBF] ++ boundedBytes body maxMessageSize

/-- What `SolidSyslogMessageFormatter_Format` writes. -/
def messageBytes (maxMessageSize : Nat) (message : Message) (context : Context)
    (messageSd : List (Option StructuredData)) : Bytes :=
  [0x3C] ++ uint32Bytes (makePrival message).toNat ++ [0x3E, 0x31, 0x20] ++
    context.clock.formatBytes ++ [0x20] ++
    Formatter.orNil (HeaderField.fieldBytes (maxHostnameSize - 1) context.getHostname) ++ [0x20] ++
    Formatter.orNil (HeaderField.fieldBytes (maxAppNameSize - 1) context.getAppName) ++ [0x20] ++
    Formatter.orNil (HeaderField.fieldBytes (maxProcessIdSize - 1) context.getProcessId) ++
      [0x20] ++
    Formatter.orNil (msgIdBytes message.messageId) ++ [0x20] ++
    Formatter.orNil (sdBytes context.sd messageSd) ++ msgBytes maxMessageSize message.msg

theorem formatStringField_eq (f : Formatter) (fn : List FieldCall) (maxSize : Nat) :
    formatStringField f fn maxSize =
      f.writeBytes (Formatter.orNil (HeaderField.fieldBytes (maxSize - 1) fn)) := by
  unfold formatStringField
  rw [HeaderField.performAll_formatter]
  exact f.nilValue_of_length _

theorem msgIdBytes_of_invalid {messageId : Option Bytes} (h : stringIsValid messageId = false) :
    msgIdBytes messageId = [] := by
  cases messageId with
  | none => rfl
  | some text =>
    cases text with
    | nil => rfl
    | cons b rest =>
      have hb : b = 0 := by simpa [stringIsValid, charAt] using h
      simp [msgIdBytes, printUsAsciiBytes, hb]

theorem formatMsgId_eq (f : Formatter) (messageId : Option Bytes) :
    formatMsgId f messageId = f.writeBytes (Formatter.orNil (msgIdBytes messageId)) := by
  have hwritten : (if stringIsValid messageId = true then
      f.printUsAsciiString (messageId.getD []) (maxMsgIdSize - 1) else f) =
      f.writeBytes (msgIdBytes messageId) := by
    split
    · rfl
    · next hinvalid =>
      rw [msgIdBytes_of_invalid (by simpa using hinvalid), Formatter.writeBytes_nil]
  unfold formatMsgId
  rw [hwritten]
  exact f.nilValue_of_length _

theorem formatSdElements_eq (f : Formatter) (element : SdElement)
    (sd : List (Option StructuredData)) : formatSdElements f element sd =
      (f.writeBytes (element.performAll (sd.filterMap id).flatten).written,
        (element.performAll (sd.filterMap id).flatten).state) := by
  induction sd generalizing f element with
  | nil => rfl
  | cons object sd ih =>
    cases object with
    | none => exact ih f element
    | some calls =>
      rw [formatSdElements, ih]
      simp only [List.filterMap_cons, id_eq, List.flatten_cons, SdElement.performAll_append,
        Formatter.writeBytes_append]

theorem formatStructuredData_eq (f : Formatter) (baseSd messageSd : List (Option StructuredData)) :
    formatStructuredData f baseSd messageSd =
      f.writeBytes (Formatter.orNil (sdBytes baseSd messageSd)) := by
  have hwritten : (formatSdElements (formatSdElements f .fromFormatter baseSd).1
      (formatSdElements f .fromFormatter baseSd).2 messageSd).1 =
      f.writeBytes (sdBytes baseSd messageSd) := by
    rw [formatSdElements_eq, formatSdElements_eq, sdBytes, List.filterMap_append,
      List.flatten_append, SdElement.performAll_append, Formatter.writeBytes_append]
  unfold formatStructuredData
  dsimp only
  rw [hwritten]
  exact f.nilValue_of_length _

theorem formatMsg_eq (maxMessageSize : Nat) (f : Formatter) (msg : Option Bytes) :
    formatMsg maxMessageSize f msg = f.writeBytes (msgBytes maxMessageSize msg) := by
  unfold formatMsg msgBytes
  by_cases hmsg : stringIsValid msg = true
  · rw [if_pos hmsg]
    dsimp only
    by_cases hbody : charAt (skipLeadingBom (msg.getD [])) 0 = 0
    · rw [if_neg (by simpa [stringIsValid] using hbody), if_pos hbody, Formatter.writeBytes_nil]
    · rw [if_pos (by simpa [stringIsValid] using hbody), if_neg hbody, Formatter.writeBytes_append]
      rfl
  · have hempty : charAt (msg.getD []) 0 = 0 := by
      cases msg with
      | none => rfl
      | some text => simpa [stringIsValid] using hmsg
    have hbody : skipLeadingBom (msg.getD []) = msg.getD [] := by
      unfold skipLeadingBom
      rw [if_neg (by simp [hempty])]
    rw [if_neg hmsg, hbody, if_pos hempty, Formatter.writeBytes_nil]

/-- The formatter is written the same whatever its room. -/
theorem format_eq (maxMessageSize : Nat) (f : Formatter) (message : Message) (context : Context)
    (messageSd : List (Option StructuredData)) :
    format maxMessageSize f message context messageSd =
      f.writeBytes (messageBytes maxMessageSize message context messageSd) := by
  have hchar : ∀ (g : Formatter) c, g.asciiCharacter c = g.writeBytes (asciiBytes c) :=
    fun _ _ => rfl
  unfold format formatPrival messageBytes
  simp only [hchar, Formatter.uint32, formatStringField_eq, formatMsgId_eq, formatStructuredData_eq,
    formatMsg_eq, ← Formatter.writeBytes_append, List.append_assoc]
  rfl

end SolidSyslog.Format
