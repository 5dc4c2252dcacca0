import SolidSyslog.Format.ValueText
import SolidSyslog.Lib.Rfc5424

/-!
# Structured data is read back

What a well-bracketed program of calls writes is the text of its elements: those with a name, each
with its named parameters and the text of the writes to them. So a reader of the grammar gives them
back, whatever is written to a value, to a parameter that is skipped or in an element that is
suppressed.
-/

namespace SolidSyslog.Format

open Lib

/-! ## Programs -/

/-- A name that the interface asks for. -/
structure SdName where
  bytes : Bytes
  valid : Rfc5424.isName bytes = true

/-- A parameter and the writes to its sink. A name that is NULL is absent. -/
structure ParamWrites where
  name : Option SdName
  writes : List SdWrite

/-- An element from its `Begin` to its `End`. -/
structure ElementWrites where
  name : Option SdName
  enterpriseNumber : UInt32
  params : List ParamWrites

def ParamWrites.calls (param : ParamWrites) : List SdCall :=
  .param (param.name.map SdName.bytes) :: param.writes.map .write

def ElementWrites.calls (element : ElementWrites) : List SdCall :=
  .beginElement (element.name.map SdName.bytes) element.enterpriseNumber ::
    (element.params.flatMap ParamWrites.calls ++ [.endElement])

/-! ## What is to be read -/

/-- The SD-ID of a name and an enterprise number. -/
def sdId (name : SdName) (enterpriseNumber : UInt32) : Bytes :=
  if enterpriseNumber ≠ 0 then name.bytes ++ 0x40 :: uint32Bytes enterpriseNumber.toNat
  else name.bytes

/-- The parameter to be read. -/
def ParamWrites.read (param : ParamWrites) : Option Rfc5424.Param :=
  param.name.map fun name => ⟨name.bytes, valueText [] param.writes⟩

/-- The element to be read. -/
def ElementWrites.read (element : ElementWrites) : Option Rfc5424.Element :=
  element.name.map fun name =>
    ⟨sdId name element.enterpriseNumber, element.params.filterMap ParamWrites.read⟩

/-- The text of a write that begins and ends between characters. -/
def SdWrite.sanitised : SdWrite → Bytes
  | string source => Utf8.sanitise (cString source)
  | boundedString source maxDecodedLength => sanitiseWithin (cString source) maxDecodedLength
  | uint32 value => uint32Bytes value.toNat

/-- No string ends inside a character. -/
def EndsWhole (writes : List SdWrite) : Prop :=
  ∀ source, SdWrite.string source ∈ writes → Utf8.unfinished (cString source) = []

/-- The text of such writes is theirs, one after the other. -/
theorem valueText_of_endsWhole {writes : List SdWrite} (h : EndsWhole writes) :
    valueText [] writes = writes.flatMap SdWrite.sanitised := by
  induction writes with
  | nil => rfl
  | cons write writes ih =>
    have hrest : EndsWhole writes := fun source hmem => h source (List.mem_cons_of_mem _ hmem)
    have hfirst : write.text [] = (write.sanitised, []) := by
      cases write with
      | string source =>
        have hnone := h source List.mem_cons_self
        have hwhole := Utf8.finished_append_unfinished (cString source)
        rw [hnone, List.append_nil] at hwhole
        rw [SdWrite.text, streamed, hnone, hwhole, SdWrite.sanitised]
      | boundedString source maxDecodedLength => rfl
      | uint32 value => rfl
    rw [valueText, hfirst, ih hrest, List.flatMap_cons]

/-! ## Names -/

theorem printUsAsciiBytes_name (name : SdName) :
    printUsAsciiBytes name.bytes SdElement.nameMax = name.bytes := by
  obtain ⟨bytes, hvalid⟩ := name
  rw [Rfc5424.isName, Bool.and_eq_true, Bool.and_eq_true, decide_eq_true_eq, decide_eq_true_eq,
    List.all_eq_true] at hvalid
  obtain ⟨⟨-, hlength⟩, hchars⟩ := hvalid
  have hprintable : ∀ x ∈ bytes, isPrintableUsAscii x = true := by
    intro x hx
    have hchar := hchars x hx
    simp only [Rfc5424.isNameChar, Bool.and_eq_true] at hchar
    exact hchar.1.1.1
  have hnul : ∀ x ∈ bytes, x ≠ 0 := by
    rintro x hx rfl
    exact absurd (hprintable 0 hx) (by decide)
  have hwhole : bytes.take SdElement.nameMax = bytes := List.take_of_length_le hlength
  rw [printUsAsciiBytes_eq, cString_of_ne_zero hnul, hwhole]
  exact (List.map_congr_left fun x hx => if_pos (hprintable x hx)).trans (List.map_id bytes)

theorem uint32Bytes_ne_nil (value : Nat) : uint32Bytes value ≠ [] := by
  obtain ⟨digits, hdigits⟩ : ∃ digits, countDigits value = digits + 1 := by
    rw [countDigits]
    split
    · exact ⟨_, rfl⟩
    · exact ⟨0, rfl⟩
  rw [uint32Bytes, hdigits, digitsFrom]
  exact List.cons_ne_nil _ _

theorem isId_sdId (name : SdName) (enterpriseNumber : UInt32) :
    Rfc5424.isId (sdId name enterpriseNumber) = true := by
  unfold sdId
  split
  · exact Rfc5424.isId_private name.valid (uint32Bytes_ne_nil _) (isDigit_uint32Bytes _)
  · rw [Rfc5424.isId, name.valid, Bool.true_or]

theorem ElementWrites.read_valid {element : ElementWrites} {parsed : Rfc5424.Element}
    (h : element.read = some parsed) : parsed.Valid := by
  obtain ⟨name, -, rfl⟩ := Option.map_eq_some_iff.1 h
  refine ⟨isId_sdId name _, fun param hparam => ?_⟩
  obtain ⟨writes, -, hwrites⟩ := List.mem_filterMap.1 hparam
  obtain ⟨paramName, -, rfl⟩ := Option.map_eq_some_iff.1 hwrites
  exact ⟨paramName.valid, wellFormed_valueText _ _⟩

/-! ## The calls -/

namespace SdElement

/-- What the next call writes to close the value that is open. -/
def closing (element : SdElement) : Bytes :=
  element.closeOpenValue.written

theorem closing_of_closed {element : SdElement} (h : element.valueOpen = false) :
    element.closing = [] := by
  simp [closing, closeOpenValue, h]

theorem closing_of_open {element : SdElement} (h : element.valueOpen = true) :
    element.closing = (closeValue element.pending).written ++ [0x22] := by
  rw [closing, closeOpenValue, if_pos h]
  rfl

theorem closeOpenValue_state (element : SdElement) :
    element.closeOpenValue.state.valueOpen = false ∧
      element.closeOpenValue.state.suppressed = element.suppressed := by
  unfold closeOpenValue
  split
  · exact ⟨rfl, rfl⟩
  · next hclosed => exact ⟨by simpa using hclosed, rfl⟩

/-- The writes to a sink leave all but what it holds. -/
theorem performAll_writes (element : SdElement) (writes : List SdWrite) :
    ∃ written pending, element.performAll (writes.map .write) =
        ⟨if element.dropped then [] else written, { element with pending := pending }⟩ ∧
      written ++ (closeValue pending).written = valueBytes element.pending writes := by
  induction writes generalizing element with
  | nil =>
    refine ⟨[], element.pending, ?_, rfl⟩
    rw [List.map_nil, performAll, ite_self]
  | cons write writes ih =>
    obtain ⟨written, pending, hperform, hvalue⟩ := ih (element.write write).state
    refine ⟨(write.perform element.pending).written ++ written, pending, ?_, ?_⟩
    · have hdropped : (element.write write).state.dropped = element.dropped := rfl
      rw [List.map_cons, performAll]
      change (⟨(element.write write).written ++ _, _⟩ : Step SdElement) = _
      rw [perform, hperform, hdropped]
      cases hdrop : element.dropped with
      | true => simp [SdElement.write, hdrop]
      | false => simp [SdElement.write, hdrop]
    · rw [List.append_assoc, hvalue, valueBytes]
      rfl

/-- A named parameter of an element that is written opens its value. -/
theorem param_named {element : SdElement} (h : element.suppressed = false) (name : SdName) :
    element.param (some name.bytes) =
      ⟨element.closing ++ (0x20 :: name.bytes ++ [0x3D, 0x22]),
        { element.closeOpenValue.state with
          pending := []
          dropped := false
          valueOpen := true }⟩ := by
  unfold param
  simp only [h, printUsAsciiBytes_name, closing, List.append_assoc]
  rfl

/-- A parameter that is skipped or of a suppressed element writes nothing of its own. -/
theorem param_dropped {element : SdElement} {name : Option Bytes}
    (h : element.suppressed = true ∨ name = none) :
    element.param name =
      ⟨element.closing, { element.closeOpenValue.state with
          pending := []
          dropped := true }⟩ := by
  unfold param
  dsimp only
  split
  · next hsuppressed => simp [hsuppressed] at h
  · rfl

theorem performAll_cons (element : SdElement) (call : SdCall) (calls : List SdCall) :
    element.performAll (call :: calls) =
      ⟨(element.perform call).written ++ ((element.perform call).state.performAll calls).written,
        ((element.perform call).state.performAll calls).state⟩ := rfl

/-- A parameter closes the value before it and leaves its own text behind, its closing quote still
to be written, where it is named and its element is not suppressed. -/
theorem performAll_param (element : SdElement) (param : ParamWrites) :
    (element.performAll param.calls).written ++ (element.performAll param.calls).state.closing =
        element.closing ++
          (if element.suppressed then [] else param.read.toList.flatMap Rfc5424.Param.text) ∧
      (element.performAll param.calls).state.suppressed = element.suppressed := by
  obtain ⟨hclosed, hsame⟩ := element.closeOpenValue_state
  obtain ⟨written, pending, hwrites, hvalue⟩ :=
    (element.param (param.name.map SdName.bytes)).state.performAll_writes param.writes
  rw [ParamWrites.calls, performAll_cons, perform, hwrites]
  by_cases hdropped : element.suppressed = true ∨ param.name.map SdName.bytes = none
  · rw [param_dropped hdropped]
    refine ⟨?_, hsame⟩
    have hnothing : (SdElement.mk pending true element.closeOpenValue.state.valueOpen
        element.closeOpenValue.state.suppressed).closing = [] := closing_of_closed hclosed
    dsimp only
    rw [if_pos rfl, hnothing]
    rcases hdropped with hsuppressed | hnone
    · simp [hsuppressed]
    · have hread : param.read = none := by
        rw [ParamWrites.read, Option.map_eq_none_iff]
        exact Option.map_eq_none_iff.1 hnone
      simp [hread]
  · rw [not_or, Bool.not_eq_true] at hdropped
    obtain ⟨name, hname⟩ : ∃ name, param.name = some name :=
      Option.ne_none_iff_exists'.1 fun hnone => hdropped.2 (by rw [hnone]; rfl)
    rw [hname, Option.map_some, param_named hdropped.1] at hvalue ⊢
    refine ⟨?_, hsame⟩
    have hescape : valueBytes [] param.writes =
        Escaping.escape Rfc5424.isSpecial 0x5C (valueText [] param.writes) :=
      valueBytes_eq (.inl rfl) param.writes
    have hquote : (SdElement.mk pending false true
        element.closeOpenValue.state.suppressed).closing =
        (closeValue pending).written ++ [0x22] := closing_of_open rfl
    dsimp only at hvalue ⊢
    rw [hquote, hdropped.1, ParamWrites.read, hname]
    simp only [Option.map_some, Option.toList_some, List.flatMap_cons, List.flatMap_nil,
      List.append_nil, Bool.false_eq_true, if_false, Rfc5424.Param.text, ← hescape, ← hvalue,
      List.append_assoc, List.cons_append, List.nil_append]

theorem performAll_params (element : SdElement) (params : List ParamWrites) :
    (element.performAll (params.flatMap ParamWrites.calls)).written ++
        (element.performAll (params.flatMap ParamWrites.calls)).state.closing =
      element.closing ++ (if element.suppressed then []
        else (params.filterMap ParamWrites.read).flatMap Rfc5424.Param.text) ∧
      (element.performAll (params.flatMap ParamWrites.calls)).state.suppressed =
        element.suppressed := by
  induction params generalizing element with
  | nil => simp [performAll]
  | cons param params ih =>
    obtain ⟨hfirst, hsame⟩ := element.performAll_param param
    obtain ⟨hrest, hsame'⟩ := ih (element.performAll param.calls).state
    rw [List.flatMap_cons, performAll_append]
    refine ⟨?_, hsame'.trans hsame⟩
    rw [List.append_assoc, hrest, ← List.append_assoc, hfirst, hsame]
    cases element.suppressed with
    | true => simp
    | false => cases hread : param.read <;> simp [hread]

/-- A program from its `Begin` to its `End` writes the element to be read. -/
theorem performAll_element (element : SdElement) (program : ElementWrites) :
    (element.performAll program.calls).written =
      program.read.toList.flatMap Rfc5424.Element.text := by
  obtain ⟨hparams, hsame⟩ := (element.beginElement (program.name.map SdName.bytes)
    program.enterpriseNumber).state.performAll_params program.params
  have hclosed : (element.beginElement (program.name.map SdName.bytes)
      program.enterpriseNumber).state.closing = [] :=
    closing_of_closed (by cases program.name <;> rfl)
  rw [hclosed, List.nil_append] at hparams
  have hend : ∀ element : SdElement, (element.performAll [.endElement]).written =
      element.closing ++ if element.suppressed then [] else [0x5D] := by
    intro element
    exact List.append_nil _
  rw [ElementWrites.calls, performAll_cons, performAll_append]
  dsimp only [perform]
  rw [hend, hsame, ← List.append_assoc (SdElement.performAll _ _).written, hparams,
    ElementWrites.read]
  cases hname : program.name with
  | none => rfl
  | some name =>
    have hbegin : (element.beginElement (some name.bytes) program.enterpriseNumber).written =
        0x5B :: sdId name program.enterpriseNumber := by
      unfold beginElement sdId
      dsimp only
      rw [printUsAsciiBytes_name]
      split
      · rfl
      · exact List.append_nil _
    rw [Option.map_some, hbegin]
    have hshown : (element.beginElement (some name.bytes)
        program.enterpriseNumber).state.suppressed = false := rfl
    simp [hshown, Rfc5424.Element.text]

/-- So do programs, one after the other. -/
theorem performAll_program (element : SdElement) (elements : List ElementWrites) :
    (element.performAll (elements.flatMap ElementWrites.calls)).written =
      (elements.filterMap ElementWrites.read).flatMap Rfc5424.Element.text := by
  induction elements generalizing element with
  | nil => rfl
  | cons program elements ih =>
    rw [List.flatMap_cons, performAll_append, ih, performAll_element]
    cases hread : program.read <;> simp [hread]

end SdElement

theorem read_valid (elements : List ElementWrites) :
    ∀ parsed ∈ elements.filterMap ElementWrites.read, parsed.Valid := by
  intro parsed hparsed
  obtain ⟨program, -, hread⟩ := List.mem_filterMap.1 hparsed
  exact ElementWrites.read_valid hread

/-- **Structured data cannot be broken by a value.** In a formatter with room for it, what any
well-bracketed program writes is read back as the elements with a name, each with its named
parameters, and nothing else. The value of a parameter is well-formed UTF-8: the texts of its writes
one after the other, where none ends inside a character each sanitised by itself, and the whole text
where they are its chunks. -/
theorem program_parses (elements : List ElementWrites) {capacity : Nat}
    (hroom : (SdElement.fromFormatter.performAll
      (elements.flatMap ElementWrites.calls)).written.length < capacity) :
    Rfc5424.parseElements
      ((Formatter.create capacity).writeBytes (SdElement.fromFormatter.performAll
        (elements.flatMap ElementWrites.calls)).written).bytes =
      some (elements.filterMap ElementWrites.read) ∧
    (∀ element ∈ elements.filterMap ElementWrites.read, ∀ param ∈ element.params,
      Utf8.WellFormed param.value) ∧
    (∀ writes, EndsWhole writes → valueText [] writes = writes.flatMap SdWrite.sanitised) ∧
    ∀ chunks : List Bytes, Utf8.WellFormed chunks.flatten → (∀ x ∈ chunks.flatten, x ≠ 0) →
      valueText [] (chunks.map .string) = chunks.flatten := by
  refine ⟨?_, ?_, fun _ => valueText_of_endsWhole, fun chunks => valueText_chunks (.inl rfl)⟩
  · rw [Formatter.writeBytes_of_fits (by simpa [Formatter.create] using hroom),
      SdElement.performAll_program]
    exact Rfc5424.parseElements_text (read_valid elements)
  · intro element helement param hparam
    exact ((read_valid elements element helement).params param hparam).value

/-- Two named elements around a suppressed one. The first has a parameter of two chunks that cut a
character and its closing bracket, one without a name that is skipped, and one with a number. -/
theorem program_parses_chunks :
    Rfc5424.parseElements ((Formatter.create 64).writeBytes (SdElement.fromFormatter.performAll
      (List.flatMap ElementWrites.calls
        [⟨some ⟨[0x61], rfl⟩, 7, [⟨some ⟨[0x62], rfl⟩, [.string [0x5D, 0xE2, 0x82],
            .string [0xAC]]⟩, ⟨none, [.string [0x22, 0x5D]]⟩, ⟨some ⟨[0x63], rfl⟩, [.uint32 12]⟩]⟩,
          ⟨none, 0, [⟨some ⟨[0x64], rfl⟩, [.string [0x5D]]⟩]⟩,
          ⟨some ⟨[0x65], rfl⟩, 0, []⟩])).written).bytes =
      some [⟨[0x61, 0x40, 0x37], [⟨[0x62], [0x5D, 0xE2, 0x82, 0xAC]⟩, ⟨[0x63], [0x31, 0x32]⟩]⟩,
        ⟨[0x65], []⟩] := by
  refine (program_parses _ ?_).1.trans ?_
  · decide +kernel
  · decide +kernel

/-- One string that ends inside a character: its open part is held whole, so it is read back as one
U+FFFD, where sanitising the string puts one for each of its two bytes. -/
theorem open_string_read_once :
    Rfc5424.parseElements ((Formatter.create 64).writeBytes (SdElement.fromFormatter.performAll
      (List.flatMap ElementWrites.calls
        [⟨some ⟨[0x61], rfl⟩, 0, [⟨some ⟨[0x62], rfl⟩, [.string [0xE2, 0x82]]⟩]⟩])).written).bytes =
      some [⟨[0x61], [⟨[0x62], Utf8.replacement⟩]⟩] ∧
    [SdWrite.string [0xE2, 0x82]].flatMap SdWrite.sanitised = Utf8.replacement ++ Utf8.replacement ∧
    Utf8.replacement ≠ Utf8.replacement ++ Utf8.replacement := by
  refine ⟨?_, ?_, ?_⟩ <;> decide +kernel

end SolidSyslog.Format
