import SolidSyslog.Event
import SolidSyslog.Format.Text

/-!
# Structured data

`SolidSyslogSdElement.c`, `SolidSyslogSdValue.c` and `SolidSyslogEventSd.c`. None of them reads the
formatter it writes to, so a call is given by the bytes it writes and the state it leaves. A
structured-data object is the list of the calls it makes.
-/

namespace SolidSyslog.Format

open Lib

/-- What a call writes, and the state after it. -/
structure Step (σ : Type) where
  written : Bytes
  state : σ

/-- What `SolidSyslogFormatter_AsciiCharacter` writes. -/
def asciiBytes (value : UInt8) : Bytes :=
  [if isAsciiCharacter value then value else 0x3F]

/-- `SIZE_MAX`, of a 32-bit target. -/
def sizeMax : Nat := 4294967295

/-! ## Values -/

/-- `Pending` of `struct SolidSyslogSdValue`, up to its count. -/
abbrev Pending := Bytes

/-- `SdValue_ExpectedLength`. -/
def expectedLength (lead : UInt8) : Nat :=
  if isTwoByteLead lead then 2
  else if isThreeByteLead lead then 3
  else if isFourByteLead lead then 4
  else 1

/-- `SdValue_EmitUnit`. -/
def emitUnit (unit : Bytes) : Bytes :=
  escapedBytes unit sizeMax

/-- `SdValue_FlushPendingAsReplacement`. -/
def flushPendingAsReplacement : Step Pending :=
  ⟨escapedBytes [0x80] sizeMax, []⟩

/-- `SdValue_FlushPendingIfHeld`. -/
def flushPendingIfHeld (pending : Pending) : Step Pending :=
  if 0 < pending.length then flushPendingAsReplacement else ⟨[], pending⟩

/-- The continuation bytes at a place of a source, no more than that many. -/
def continuations (most : Nat) (source : Bytes) : Bytes :=
  (source.take most).takeWhile isContinuationByte

/-- `SdValue_DrainPending`: what it writes, what it holds, and how much of the source it takes. -/
def drainPending (pending : Pending) (source : Bytes) : Step Pending × Nat :=
  if 0 < pending.length then
    let expected := expectedLength (charAt pending 0)
    let taken := continuations (expected - pending.length) source
    let held := pending ++ taken
    (if held.length = expected then ⟨emitUnit held, []⟩
      else if charAt source taken.length ≠ 0 then flushPendingAsReplacement
      else ⟨[], held⟩, taken.length)
  else (⟨[], pending⟩, 0)

/-- `SdValue_WriteBody`, from a place of its source on. -/
def writeBody (pending : Pending) : Bytes → Step Pending
  | [] => ⟨[], pending⟩
  | b :: rest =>
    if b = 0 then ⟨[], pending⟩
    else
      let expected := expectedLength b
      let avail := 1 + (continuations (expected - 1) rest).length
      let unit := (b :: rest).take avail
      if avail < expected && charAt (b :: rest) avail = 0 then
        writeBody unit ((b :: rest).drop avail)
      else
        let after := writeBody pending ((b :: rest).drop avail)
        ⟨emitUnit unit ++ after.written, after.state⟩
termination_by source => source.length
decreasing_by
  all_goals
    simp only [List.length_drop, List.length_cons]
    omega

/-- A value write. -/
inductive SdWrite where
  | string (source : Bytes)
  | boundedString (source : Bytes) (maxDecodedLength : Nat)
  | uint32 (value : UInt32)

/-- `SolidSyslogSdValue_String`, `SolidSyslogSdValue_BoundedString`, `SolidSyslogSdValue_Uint32`. -/
def SdWrite.perform (pending : Pending) : SdWrite → Step Pending
  | string source =>
    let drained := drainPending pending source
    let body := writeBody drained.1.state (source.drop drained.2)
    ⟨drained.1.written ++ body.written, body.state⟩
  | boundedString source maxDecodedLength =>
    let flushed := flushPendingIfHeld pending
    ⟨flushed.written ++ escapedBytes source maxDecodedLength, flushed.state⟩
  | uint32 value =>
    let flushed := flushPendingIfHeld pending
    ⟨flushed.written ++ uint32Bytes value.toNat, flushed.state⟩

/-- `SolidSyslogSdValue_Close`. -/
def closeValue (pending : Pending) : Step Pending :=
  flushPendingIfHeld pending

/-! ## Elements -/

/-- `struct SolidSyslogSdElement`. The value's formatter is either the element's or the drop
formatter, which has no room for any byte. -/
structure SdElement where
  pending : Pending
  dropped : Bool
  valueOpen : Bool
  suppressed : Bool

/-- `SolidSyslogSdElement_FromFormatter`. -/
def SdElement.fromFormatter : SdElement :=
  ⟨[], true, false, false⟩

/-- A call of the authoring interface. -/
inductive SdCall where
  | beginElement (name : Option Bytes) (enterpriseNumber : UInt32)
  | param (name : Option Bytes)
  | write (write : SdWrite)
  | endElement

namespace SdElement

/-- `SDELEMENT_NAME_MAX`. -/
def nameMax : Nat := 32

/-- `SdElement_CloseOpenValue`. -/
def closeOpenValue (element : SdElement) : Step SdElement :=
  if element.valueOpen then
    let closed := closeValue element.pending
    ⟨closed.written ++ asciiBytes 0x22,
      { element with pending := closed.state, valueOpen := false }⟩
  else ⟨[], element⟩

/-- `SolidSyslogSdElement_Begin`. -/
def beginElement (element : SdElement) (name : Option Bytes) (enterpriseNumber : UInt32) :
    Step SdElement :=
  let begun := { element with valueOpen := false, suppressed := name.isNone }
  match name with
  | none => ⟨[], begun⟩
  | some name =>
    ⟨asciiBytes 0x5B ++ printUsAsciiBytes name nameMax ++
      if enterpriseNumber ≠ 0 then asciiBytes 0x40 ++ uint32Bytes enterpriseNumber.toNat else [],
      begun⟩

/-- `SolidSyslogSdElement_Param`. -/
def param (element : SdElement) (name : Option Bytes) : Step SdElement :=
  let closed := element.closeOpenValue
  match element.suppressed, name with
  | false, some name =>
    ⟨closed.written ++ asciiBytes 0x20 ++ printUsAsciiBytes name nameMax ++ asciiBytes 0x3D ++
      asciiBytes 0x22, { closed.state with pending := [], dropped := false, valueOpen := true }⟩
  | _, _ => ⟨closed.written, { closed.state with pending := [], dropped := true }⟩

/-- A write to the sink of the last parameter. -/
def write (element : SdElement) (write : SdWrite) : Step SdElement :=
  let performed := write.perform element.pending
  ⟨if element.dropped then [] else performed.written, { element with pending := performed.state }⟩

/-- `SolidSyslogSdElement_End`. -/
def endElement (element : SdElement) : Step SdElement :=
  let closed := element.closeOpenValue
  ⟨closed.written ++ if element.suppressed then [] else asciiBytes 0x5D, closed.state⟩

/-- One call. -/
def perform (element : SdElement) : SdCall → Step SdElement
  | .beginElement name enterpriseNumber => element.beginElement name enterpriseNumber
  | .param name => element.param name
  | .write write => element.write write
  | .endElement => element.endElement

/-- Calls, one after the other. -/
def performAll (element : SdElement) : List SdCall → Step SdElement
  | [] => ⟨[], element⟩
  | call :: calls =>
    let first := element.perform call
    let rest := first.state.performAll calls
    ⟨first.written ++ rest.written, rest.state⟩

theorem performAll_append (element : SdElement) (calls calls' : List SdCall) :
    element.performAll (calls ++ calls') =
      ⟨(element.performAll calls).written ++
        ((element.performAll calls).state.performAll calls').written,
        ((element.performAll calls).state.performAll calls').state⟩ := by
  induction calls generalizing element with
  | nil => rfl
  | cons call calls ih =>
    simp only [List.cons_append, performAll, ih, List.append_assoc]

end SdElement

/-! ## The element of an event -/

/-- The names of an event: its source's, where there is one, its category's and its detail's, where
that has one. -/
structure EventNames where
  source : ErrorEvent → Option Bytes
  category : ErrorEvent → Bytes
  detail : ErrorEvent → Option Bytes

/-- `EventSd_Int32`. -/
def eventSdInt32 (number : Int) : List SdCall :=
  let magnitude := UInt32.ofInt number
  if number < 0 then [.write (.string [0x2D]), .write (.uint32 (0 - magnitude))]
  else [.write (.uint32 magnitude)]

/-- `EventSd_Detail`. -/
def eventSdDetail (names : EventNames) (event : ErrorEvent) : List SdCall :=
  match names.detail event with
  | some name => [.write (.string name)]
  | none => eventSdInt32 event.detail

/-- The characters of an ASCII text. -/
def ascii (text : String) : Bytes :=
  text.toList.map fun c => UInt8.ofNat c.toNat

/-- `EventSd_Format`. -/
def eventSdFormat (names : EventNames) (event : ErrorEvent) : List SdCall :=
  [.beginElement (some (ascii "solidsyslog")) 67478] ++
    (match names.source event with
      | some name => [.param (some (ascii "source")), .write (.string name)]
      | none => []) ++
    [.param (some (ascii "category")), .write (.string (names.category event)),
      .param (some (ascii "detail"))] ++
    eventSdDetail names event ++
    (if event.hasNativeCode then
      .param (some (ascii "native")) :: eventSdInt32 event.nativeCode
    else []) ++
    [.endElement]

end SolidSyslog.Format
