import SolidSyslog.Lib.Escaping
import SolidSyslog.Lib.OctetCounting
import SolidSyslog.Lib.Utf8

/-!
# Structured data of RFC 5424

The grammar of RFC 5424 section 6.3, as a reader that takes what it reads off the front of its text
and fails where the grammar does, and as the text of given elements. `readElements_text` reads the
elements back from their text.

The limit of 32 characters is applied to the name before the `@` of an SD-ID, so that a private
enterprise number does not count against it.
-/

namespace SolidSyslog.Lib.Rfc5424

open OctetCounting (isDigit)

/-! ## Characters -/

/-- `PRINTUSASCII`. -/
def isPrintUsAscii (b : UInt8) : Bool :=
  0x21 ≤ b && b ≤ 0x7E

/-- A character of `SD-NAME`. -/
def isNameChar (b : UInt8) : Bool :=
  isPrintUsAscii b && b ≠ 0x3D && b ≠ 0x5D && b ≠ 0x22

/-- A character that stands escaped in a `PARAM-VALUE`. -/
def isSpecial (b : UInt8) : Bool :=
  b = 0x22 || b = 0x5C || b = 0x5D

/-- `UTF-8-STRING`. -/
def isUtf8String (text : List UInt8) : Bool :=
  Utf8.sanitise text = text

/-! ## Names -/

/-- The most characters of a name. -/
def nameMax : Nat := 32

/-- `SD-NAME`. -/
def isName (name : List UInt8) : Bool :=
  0 < name.length && name.length ≤ nameMax && name.all isNameChar

/-- The name of an SD-ID: what stands before an `@` that only digits follow. -/
def nameOf (id : List UInt8) : List UInt8 :=
  match id.reverse.dropWhile isDigit with
  | [] => id
  | b :: before => if b = 0x40 ∧ isDigit (id.getLastD 0) then before.reverse else id

/-- `SD-ID`: a name, or a name with an enterprise number. -/
def isId (id : List UInt8) : Bool :=
  isName id || isName (nameOf id) && id.all isNameChar

/-! ## Reading -/

/-- One character, and what follows it. -/
def expect (b : UInt8) : List UInt8 → Option (List UInt8)
  | [] => none
  | c :: rest => if c = b then some rest else none

/-- The characters of a class that the text begins with, where they make up what is asked for. -/
def readWhile (p : UInt8 → Bool) (valid : List UInt8 → Bool) (text : List UInt8) :
    Option (List UInt8 × List UInt8) :=
  let token := text.takeWhile p
  if valid token then some (token, text.drop token.length) else none

/-- `SD-PARAM`, its value un-escaped. -/
structure Param where
  name : List UInt8
  value : List UInt8
  deriving DecidableEq, Repr

/-- `SD-ELEMENT`. -/
structure Element where
  id : List UInt8
  params : List Param
  deriving DecidableEq, Repr

/-- A parameter, from its name on. -/
def readParam (text : List UInt8) : Option (Param × List UInt8) := do
  let (name, rest) ← readWhile isNameChar isName text
  let rest ← expect 0x3D rest
  let rest ← expect 0x22 rest
  let (value, rest) ← Escaping.readQuoted isSpecial 0x5C 0x22 rest
  if isUtf8String value then some (⟨name, value⟩, rest) else none

/-- Parameters up to the bracket that closes their element. -/
def readParams : Nat → List UInt8 → Option (List Param × List UInt8)
  | 0, _ => none
  | fuel + 1, text =>
    match text with
    | [] => none
    | b :: rest =>
      if b = 0x5D then some ([], rest)
      else if b = 0x20 then do
        let (param, rest) ← readParam rest
        let (params, rest) ← readParams fuel rest
        return (param :: params, rest)
      else none

/-- An element, from its bracket on. -/
def readElement (text : List UInt8) : Option (Element × List UInt8) := do
  let rest ← expect 0x5B text
  let (id, rest) ← readWhile isNameChar isId rest
  let (params, rest) ← readParams rest.length rest
  return (⟨id, params⟩, rest)

/-- Elements, as long as brackets open. -/
def readElements : Nat → List UInt8 → Option (List Element × List UInt8)
  | 0, text => if text.head? = some 0x5B then none else some ([], text)
  | fuel + 1, text =>
    if text.head? = some 0x5B then do
      let (element, rest) ← readElement text
      let (elements, rest) ← readElements fuel rest
      return (element :: elements, rest)
    else some ([], text)

/-- A text that is elements and nothing else. -/
def parseElements (text : List UInt8) : Option (List Element) :=
  match readElements text.length text with
  | some (elements, []) => some elements
  | _ => none

/-! ## The text of elements -/

namespace Param

/-- A parameter the grammar can give. -/
structure Valid (param : Param) : Prop where
  name : isName param.name = true
  value : Utf8.WellFormed param.value

/-- A parameter, with the blank before it. -/
def text (param : Param) : List UInt8 :=
  0x20 :: param.name ++ [0x3D, 0x22] ++ Escaping.escape isSpecial 0x5C param.value ++ [0x22]

end Param

namespace Element

/-- An element the grammar can give. -/
structure Valid (element : Element) : Prop where
  id : isId element.id = true
  params : ∀ param ∈ element.params, param.Valid

def text (element : Element) : List UInt8 :=
  0x5B :: element.id ++ element.params.flatMap Param.text ++ [0x5D]

end Element

/-! ## What is written is read back -/

theorem expect_cons (b : UInt8) (rest : List UInt8) : expect b (b :: rest) = some rest :=
  if_pos rfl

/-- A token is read up to the first character that is not of its class. -/
theorem readWhile_append {p : UInt8 → Bool} {valid : List UInt8 → Bool} {token : List UInt8}
    (hvalid : valid token = true) (hall : ∀ b ∈ token, p b = true) {b : UInt8} (hb : p b = false)
    (rest : List UInt8) : readWhile p valid (token ++ b :: rest) = some (token, b :: rest) := by
  have htaken : (token ++ b :: rest).takeWhile p = token := by
    rw [List.takeWhile_append_of_pos hall, List.takeWhile_cons_of_neg (by simp [hb]),
      List.append_nil]
  rw [readWhile, htaken, if_pos hvalid, List.drop_left]

theorem isName_all {name : List UInt8} (h : isName name = true) :
    ∀ b ∈ name, isNameChar b = true := by
  rw [isName, Bool.and_eq_true, List.all_eq_true] at h
  exact h.2

theorem isId_all {id : List UInt8} (h : isId id = true) : ∀ b ∈ id, isNameChar b = true := by
  rw [isId, Bool.or_eq_true, Bool.and_eq_true, List.all_eq_true] at h
  rcases h with h | h
  · exact isName_all h
  · exact h.2

/-- A name with an enterprise number is an SD-ID. -/
theorem isId_private {name digits : List UInt8} (hname : isName name = true) (hsome : digits ≠ [])
    (hdigits : ∀ b ∈ digits, isDigit b = true) : isId (name ++ 0x40 :: digits) = true := by
  have hnameOf : nameOf (name ++ 0x40 :: digits) = name := by
    have hreverse : (name ++ 0x40 :: digits).reverse =
        digits.reverse ++ 0x40 :: name.reverse := by
      simp
    have hlast : isDigit ((name ++ 0x40 :: digits).getLastD 0) = true := by
      obtain ⟨before, last, rfl⟩ : ∃ before last, digits = before ++ [last] :=
        ⟨digits.dropLast, digits.getLast hsome, (List.dropLast_append_getLast hsome).symm⟩
      rw [← List.cons_append, ← List.append_assoc, List.getLastD_eq_getLast?,
        List.getLast?_concat]
      exact hdigits last (by simp)
    rw [nameOf, hreverse, List.dropWhile_append_of_pos (by simpa using hdigits),
      List.dropWhile_cons_of_neg (by decide)]
    simp only [hlast, and_self, if_true, List.reverse_reverse]
  have hchars : ∀ b ∈ digits, isNameChar b = true := by
    intro b hb
    have hdigit := hdigits b hb
    rw [OctetCounting.isDigit_iff] at hdigit
    simp only [isNameChar, isPrintUsAscii, UInt8.le_iff_toNat_le, ne_eq, ← UInt8.toNat_inj,
      Bool.and_eq_true, decide_eq_true_eq, decide_not, Bool.not_eq_true', decide_eq_false_iff_not,
      UInt8.reduceToNat]
    omega
  have hall : (name ++ 0x40 :: digits).all isNameChar = true := by
    rw [List.all_eq_true]
    intro b hb
    rcases List.mem_append.1 hb with hb | hb
    · exact isName_all hname b hb
    · rcases List.mem_cons.1 hb with rfl | hb
      · decide
      · exact hchars b hb
  rw [isId, hnameOf, hname, hall]
  simp

theorem readParam_text {param : Param} (h : param.Valid) (rest : List UInt8) :
    readParam (param.name ++ [0x3D, 0x22] ++ Escaping.escape isSpecial 0x5C param.value ++ [0x22] ++
      rest) = some (param, rest) := by
  have hquoted : Escaping.readQuoted isSpecial 0x5C 0x22
      (Escaping.escape isSpecial 0x5C param.value ++ 0x22 :: rest) = some (param.value, rest) :=
    Escaping.readQuoted_escape rfl rfl (by decide) param.value rest
  have hname := readWhile_append h.name (isName_all h.name) (b := 0x3D) rfl
    (0x22 :: (Escaping.escape isSpecial 0x5C param.value ++ 0x22 :: rest))
  have hutf8 : isUtf8String param.value = true := by
    simpa [isUtf8String] using Utf8.sanitise_of_wellFormed h.value
  simp only [List.append_assoc, List.cons_append, List.nil_append]
  rw [readParam, hname]
  simp only [Option.bind_eq_bind, Option.bind_some, expect_cons, hquoted, hutf8, if_true]

theorem Param.length_pos (param : Param) : 0 < param.text.length := by
  simp [Param.text]

theorem length_le_params (params : List Param) :
    params.length ≤ (params.flatMap Param.text).length := by
  induction params with
  | nil => simp
  | cons param params ih =>
    have hpos := param.length_pos
    rw [List.flatMap_cons, List.length_append, List.length_cons]
    omega

theorem readParams_text {params : List Param} (h : ∀ param ∈ params, param.Valid)
    (rest : List UInt8) {fuel : Nat} (hfuel : params.length < fuel) :
    readParams fuel (params.flatMap Param.text ++ 0x5D :: rest) = some (params, rest) := by
  induction params generalizing fuel with
  | nil =>
    obtain ⟨fuel, rfl⟩ : ∃ n, fuel = n + 1 := ⟨fuel - 1, by omega⟩
    simp [readParams]
  | cons param params ih =>
    obtain ⟨fuel, rfl⟩ : ∃ n, fuel = n + 1 := ⟨fuel - 1, by omega⟩
    have hfirst := readParam_text (h param List.mem_cons_self)
      (params.flatMap Param.text ++ 0x5D :: rest)
    have hmore := ih (fun param hparam => h param (List.mem_cons_of_mem _ hparam))
      (Nat.lt_of_succ_lt_succ hfuel)
    rw [List.flatMap_cons, List.append_assoc, Param.text]
    rw [List.cons_append, List.cons_append, List.cons_append, List.cons_append, readParams,
      if_neg (by decide), if_pos rfl, hfirst]
    simp only [Option.bind_eq_bind, Option.bind_some, hmore]
    rfl

theorem readElement_text {element : Element} (h : element.Valid) (rest : List UInt8) :
    readElement (element.text ++ rest) = some (element, rest) := by
  obtain ⟨b, more, hmore, hb⟩ : ∃ b more,
      element.params.flatMap Param.text ++ 0x5D :: rest = b :: more ∧ isNameChar b = false := by
    cases element.params with
    | nil => exact ⟨0x5D, rest, rfl, rfl⟩
    | cons param params => exact ⟨0x20, _, rfl, rfl⟩
  have hid := readWhile_append h.id (isId_all h.id) hb more
  have hfuel : element.params.length < (b :: more).length := by
    have := length_le_params element.params
    rw [← hmore, List.length_append, List.length_cons]
    omega
  have hparams := readParams_text h.params rest hfuel
  rw [hmore] at hparams
  rw [Element.text, readElement]
  simp only [List.append_assoc, List.cons_append, List.nil_append, expect_cons,
    Option.bind_eq_bind, Option.bind_some, hmore, hid, hparams]
  rfl

theorem length_le_elements (elements : List Element) :
    elements.length ≤ (elements.flatMap Element.text).length := by
  induction elements with
  | nil => simp
  | cons element elements ih =>
    have hpos : 0 < element.text.length := by simp [Element.text]
    rw [List.flatMap_cons, List.length_append, List.length_cons]
    omega

/-- Elements are read back from their text, up to what does not open another. -/
theorem readElements_text {elements : List Element} (h : ∀ element ∈ elements, element.Valid)
    {rest : List UInt8} (hrest : rest.head? ≠ some 0x5B) {fuel : Nat}
    (hfuel : elements.length ≤ fuel) :
    readElements fuel (elements.flatMap Element.text ++ rest) = some (elements, rest) := by
  induction elements generalizing fuel with
  | nil =>
    cases fuel with
    | zero => exact if_neg hrest
    | succ fuel => exact if_neg hrest
  | cons element elements ih =>
    obtain ⟨fuel, rfl⟩ : ∃ n, fuel = n + 1 := by
      rw [List.length_cons] at hfuel
      exact ⟨fuel - 1, by omega⟩
    have hfirst := readElement_text (h element List.mem_cons_self)
      (elements.flatMap Element.text ++ rest)
    have hmore := ih (fun element hmem => h element (List.mem_cons_of_mem _ hmem))
      (Nat.le_of_succ_le_succ hfuel)
    have hopens : (element.text ++ (elements.flatMap Element.text ++ rest)).head? = some 0x5B := rfl
    rw [List.flatMap_cons, List.append_assoc, readElements, if_pos hopens, hfirst]
    simp only [Option.bind_eq_bind, Option.bind_some, hmore]
    rfl

theorem parseElements_text {elements : List Element} (h : ∀ element ∈ elements, element.Valid) :
    parseElements (elements.flatMap Element.text) = some elements := by
  have hnone : ([] : List UInt8).head? ≠ some 0x5B := nofun
  have hread := readElements_text h hnone (length_le_elements elements)
  rw [List.append_nil] at hread
  rw [parseElements, hread]

end SolidSyslog.Lib.Rfc5424
