import SolidSyslog.Lib.Rfc5424

/-!
# Messages of RFC 5424

The grammar of RFC 5424 section 6 as a reader of whole messages, and the text of a message.
`parse_text` reads a message back from its text.

A header field is its token, and the NIL value is the token `-`. A day is one of 31: which month it
is in is a matter of the calendar and not of the grammar.
-/

namespace SolidSyslog.Lib.Rfc5424

open OctetCounting (decimal digit isDigit)

/-! ## Messages -/

/-- `FULL-DATE` and `FULL-TIME`, the fraction in microseconds and the offset in minutes. -/
structure Timestamp where
  year : Nat
  month : Nat
  day : Nat
  hour : Nat
  minute : Nat
  second : Nat
  microsecond : Nat
  offset : Int
  deriving DecidableEq, Repr

/-- `SYSLOG-MSG`. -/
structure Message where
  prival : Nat
  version : Nat
  timestamp : Option Timestamp
  hostname : List UInt8
  appName : List UInt8
  procId : List UInt8
  msgId : List UInt8
  elements : List Element
  msg : Option (List UInt8)
  deriving DecidableEq, Repr

/-- `NILVALUE`. -/
def nil : List UInt8 := [0x2D]

/-- `BOM`. -/
def bom : List UInt8 := [0xEF, 0xBB, 0xBF]

/-! ## Tokens and numbers -/

/-- A header field of that many characters at most. -/
def isToken (most : Nat) (token : List UInt8) : Bool :=
  0 < token.length && token.length ≤ most && token.all isPrintUsAscii

/-- A number of that many digits at most, without leading zeros. -/
def isNumber (most : Nat) (digits : List UInt8) : Bool :=
  0 < digits.length && digits.length ≤ most && (digits.head? ≠ some 0x30 || digits.length = 1)

/-- The number that digits stand for. -/
def numberOf (digits : List UInt8) : Nat :=
  digits.foldl (fun sum b => 10 * sum + (b.toNat - 48)) 0

def readNumber (most : Nat) (text : List UInt8) : Option (Nat × List UInt8) := do
  let (digits, rest) ← readWhile isDigit (isNumber most) text
  return (numberOf digits, rest)

/-- So many digits, behind those that made `sum`. -/
def readFixed : Nat → Nat → List UInt8 → Option (Nat × List UInt8)
  | 0, sum, text => some (sum, text)
  | _ + 1, _, [] => none
  | count + 1, sum, b :: rest =>
    if isDigit b then readFixed count (10 * sum + (b.toNat - 48)) rest else none

/-- A number of so many digits between two bounds. -/
def readBetween (count low high : Nat) (text : List UInt8) : Option (Nat × List UInt8) := do
  let (n, rest) ← readFixed count 0 text
  if low ≤ n ∧ n ≤ high then some (n, rest) else none

/-! ## Timestamps -/

/-- `TIME-SECFRAC`, where there is one. -/
def readFraction (text : List UInt8) : Option (Nat × List UInt8) :=
  if text.head? = some 0x2E then do
    let (digits, rest) ← readWhile isDigit (fun digits => 0 < digits.length && digits.length ≤ 6)
      text.tail
    return (numberOf digits * 10 ^ (6 - digits.length), rest)
  else some (0, text)

/-- `TIME-OFFSET`. -/
def readOffset : List UInt8 → Option (Int × List UInt8)
  | [] => none
  | b :: rest =>
    if b = 0x5A then some (0, rest)
    else if b = 0x2B ∨ b = 0x2D then do
      let (hour, rest) ← readBetween 2 0 23 rest
      let rest ← expect 0x3A rest
      let (minute, rest) ← readBetween 2 0 59 rest
      return (if b = 0x2B then ((60 * hour + minute : Nat) : Int)
        else -((60 * hour + minute : Nat) : Int), rest)
    else none

/-- `TIMESTAMP`. -/
def readTimestamp (text : List UInt8) : Option (Option Timestamp × List UInt8) :=
  if text.head? = some 0x2D then some (none, text.tail)
  else do
    let (year, rest) ← readFixed 4 0 text
    let rest ← expect 0x2D rest
    let (month, rest) ← readBetween 2 1 12 rest
    let rest ← expect 0x2D rest
    let (day, rest) ← readBetween 2 1 31 rest
    let rest ← expect 0x54 rest
    let (hour, rest) ← readBetween 2 0 23 rest
    let rest ← expect 0x3A rest
    let (minute, rest) ← readBetween 2 0 59 rest
    let rest ← expect 0x3A rest
    let (second, rest) ← readBetween 2 0 59 rest
    let (microsecond, rest) ← readFraction rest
    let (offset, rest) ← readOffset rest
    return (some ⟨year, month, day, hour, minute, second, microsecond, offset⟩, rest)

/-! ## The message -/

/-- `STRUCTURED-DATA`. -/
def readStructuredData (text : List UInt8) : Option (List Element × List UInt8) :=
  if text.head? = some 0x2D then some ([], text.tail)
  else if text.head? = some 0x5B then readElements text.length text
  else none

/-- `MSG`: what begins with a BOM is UTF-8. -/
def isMsg (msg : List UInt8) : Bool :=
  msg.take 3 ≠ bom || isUtf8String (msg.drop 3)

/-- `PRI`. -/
def readPri (text : List UInt8) : Option (Nat × List UInt8) := do
  let rest ← expect 0x3C text
  let (prival, rest) ← readNumber 3 rest
  let rest ← expect 0x3E rest
  if prival ≤ 191 then some (prival, rest) else none

/-- `VERSION`. -/
def readVersion (text : List UInt8) : Option (Nat × List UInt8) := do
  let (version, rest) ← readNumber 3 text
  if 0 < version then some (version, rest) else none

/-- A header field of that many characters at most, with the blank before it. -/
def readField (most : Nat) (text : List UInt8) : Option (List UInt8 × List UInt8) := do
  let rest ← expect 0x20 text
  readWhile isPrintUsAscii (isToken most) rest

/-- `MSG`, where there is one, with the blank before it, to the end. -/
def readMsg : List UInt8 → Option (Option (List UInt8))
  | [] => some none
  | b :: msg => if b = 0x20 ∧ isMsg msg then some (some msg) else none

/-- A message whole. -/
def parse (text : List UInt8) : Option Message := do
  let (prival, rest) ← readPri text
  let (version, rest) ← readVersion rest
  let rest ← expect 0x20 rest
  let (timestamp, rest) ← readTimestamp rest
  let (hostname, rest) ← readField 255 rest
  let (appName, rest) ← readField 48 rest
  let (procId, rest) ← readField 128 rest
  let (msgId, rest) ← readField 32 rest
  let rest ← expect 0x20 rest
  let (elements, rest) ← readStructuredData rest
  let msg ← readMsg rest
  return ⟨prival, version, timestamp, hostname, appName, procId, msgId, elements, msg⟩

/-! ## The text of a message -/

/-- The last digits of a number, so many of them. -/
def fixed : Nat → Nat → List UInt8
  | 0, _ => []
  | count + 1, n => fixed count (n / 10) ++ [digit n]

/-- An offset, `Z` where there is none. -/
def offsetText (offset : Int) : List UInt8 :=
  if offset = 0 then [0x5A]
  else (if 0 < offset then 0x2B else 0x2D) ::
    (fixed 2 (offset.natAbs / 60) ++ 0x3A :: fixed 2 (offset.natAbs % 60))

namespace Timestamp

/-- A timestamp the grammar can give. -/
structure Valid (ts : Timestamp) : Prop where
  year : ts.year ≤ 9999
  month : 1 ≤ ts.month ∧ ts.month ≤ 12
  day : 1 ≤ ts.day ∧ ts.day ≤ 31
  hour : ts.hour ≤ 23
  minute : ts.minute ≤ 59
  second : ts.second ≤ 59
  microsecond : ts.microsecond ≤ 999999
  offset : ts.offset.natAbs < 24 * 60

/-- A timestamp with all six digits of its fraction. -/
def text (ts : Timestamp) : List UInt8 :=
  fixed 4 ts.year ++ 0x2D :: (fixed 2 ts.month ++ 0x2D :: (fixed 2 ts.day ++ 0x54 ::
    (fixed 2 ts.hour ++ 0x3A :: (fixed 2 ts.minute ++ 0x3A :: (fixed 2 ts.second ++ 0x2E ::
      (fixed 6 ts.microsecond ++ offsetText ts.offset))))))

end Timestamp

namespace Message

/-- A message the grammar can give. -/
structure Valid (m : Message) : Prop where
  prival : m.prival ≤ 191
  version : 0 < m.version ∧ m.version ≤ 999
  timestamp : ∀ ts ∈ m.timestamp, ts.Valid
  hostname : isToken 255 m.hostname = true
  appName : isToken 48 m.appName = true
  procId : isToken 128 m.procId = true
  msgId : isToken 32 m.msgId = true
  elements : ∀ element ∈ m.elements, element.Valid
  msg : ∀ msg ∈ m.msg, isMsg msg = true

def timestampText (m : Message) : List UInt8 :=
  match m.timestamp with
  | none => nil
  | some ts => ts.text

def structuredDataText (m : Message) : List UInt8 :=
  if m.elements = [] then nil else m.elements.flatMap Element.text

def msgText (m : Message) : List UInt8 :=
  match m.msg with
  | none => []
  | some msg => 0x20 :: msg

def text (m : Message) : List UInt8 :=
  0x3C :: (decimal m.prival ++ 0x3E :: (decimal m.version ++ 0x20 :: (m.timestampText ++ 0x20 ::
    (m.hostname ++ 0x20 :: (m.appName ++ 0x20 :: (m.procId ++ 0x20 :: (m.msgId ++ 0x20 ::
      (m.structuredDataText ++ m.msgText))))))))

end Message

/-! ## Numbers are read back -/

theorem numberOf_concat (digits : List UInt8) (n : Nat) :
    numberOf (digits ++ [digit n]) = 10 * numberOf digits + n % 10 := by
  have hdigit := OctetCounting.digit_toNat n
  rw [numberOf, List.foldl_append, List.foldl_cons, List.foldl_nil, hdigit]
  change 10 * numberOf digits + _ = _
  omega

theorem numberOf_decimal (n : Nat) : numberOf (decimal n) = n := by
  induction n using OctetCounting.decimal.induct with
  | case1 n hlt =>
    rw [decimal, if_pos hlt, ← List.nil_append [digit n], numberOf_concat]
    change 10 * 0 + n % 10 = n
    omega
  | case2 n hge ih =>
    rw [decimal, if_neg hge, numberOf_concat, ih]
    omega

theorem decimal_length_pos (n : Nat) : 0 < (decimal n).length := by
  rw [decimal]
  split
  · exact Nat.one_pos
  · rw [List.length_append, List.length_singleton]
    omega

theorem decimal_length_le {k n : Nat} (h : n < 10 ^ (k + 1)) : (decimal n).length ≤ k + 1 := by
  induction k generalizing n with
  | zero =>
    rw [decimal, if_pos (by omega)]
    exact le_rfl
  | succ k ih =>
    rw [decimal]
    split
    · rw [List.length_singleton]
      omega
    · have hdiv : n / 10 < 10 ^ (k + 1) := by
        rw [Nat.div_lt_iff_lt_mul (Nat.succ_pos 9), ← pow_succ]
        exact h
      have := ih hdiv
      rw [List.length_append, List.length_singleton]
      omega

theorem isNumber_decimal {k n : Nat} (h : n < 10 ^ (k + 1)) :
    isNumber (k + 1) (decimal n) = true := by
  have hpos := decimal_length_pos n
  have hle := decimal_length_le h
  have hzero : (decimal n).head? ≠ some 0x30 ∨ (decimal n).length = 1 := by
    by_cases hn : n = 0
    · right
      rw [hn, decimal]
      rfl
    · left
      obtain ⟨b, rest, heq, hb⟩ := OctetCounting.decimal_head hn
      rw [heq, List.head?_cons]
      simpa using hb
  simp only [isNumber, Bool.and_eq_true, Bool.or_eq_true, decide_eq_true_eq]
  exact ⟨⟨hpos, hle⟩, hzero⟩

theorem readNumber_decimal {k n : Nat} (h : n < 10 ^ (k + 1)) {b : UInt8} (hb : isDigit b = false)
    (rest : List UInt8) :
    readNumber (k + 1) (decimal n ++ b :: rest) = some (n, b :: rest) := by
  have hread := readWhile_append (isNumber_decimal h) (OctetCounting.isDigit_decimal n) hb rest
  rw [readNumber, hread]
  simp only [Option.bind_eq_bind, Option.bind_some, numberOf_decimal]
  rfl

theorem readFixed_add (count more sum : Nat) (text : List UInt8) :
    readFixed (count + more) sum text =
      (readFixed count sum text).bind fun read => readFixed more read.1 read.2 := by
  induction count generalizing sum text with
  | zero =>
    rw [Nat.zero_add]
    rfl
  | succ count ih =>
    rw [Nat.add_right_comm]
    cases text with
    | nil => rfl
    | cons b rest =>
      rw [readFixed, readFixed]
      split
      · exact ih _ _
      · rfl

theorem readFixed_fixed (count sum n : Nat) (rest : List UInt8) :
    readFixed count sum (fixed count n ++ rest) =
      some (sum * 10 ^ count + n % 10 ^ count, rest) := by
  induction count generalizing n rest with
  | zero => simp [readFixed, fixed, Nat.mod_one]
  | succ count ih =>
    have hdigit := OctetCounting.digit_toNat n
    have hmod : n % 10 ^ (count + 1) = n % 10 + 10 * (n / 10 % 10 ^ count) := by
      rw [pow_succ', Nat.mod_mul]
    have hsum : 10 * (sum * 10 ^ count + n / 10 % 10 ^ count) + ((digit n).toNat - 48) =
        sum * 10 ^ (count + 1) + n % 10 ^ (count + 1) := by
      rw [hdigit, hmod, pow_succ]
      ring_nf
      omega
    rw [fixed, List.append_assoc, readFixed_add, ih, Option.bind_some, List.singleton_append,
      readFixed, if_pos (OctetCounting.isDigit_digit n), readFixed, hsum]

theorem readBetween_fixed {count low high n : Nat} (hlow : low ≤ n) (hhigh : n ≤ high)
    (hfits : n < 10 ^ count) (rest : List UInt8) :
    readBetween count low high (fixed count n ++ rest) = some (n, rest) := by
  rw [readBetween, readFixed_fixed, Nat.mod_eq_of_lt hfits, Nat.zero_mul, Nat.zero_add]
  simp only [Option.bind_eq_bind, Option.bind_some]
  rw [if_pos ⟨hlow, hhigh⟩]

theorem length_fixed (count n : Nat) : (fixed count n).length = count := by
  induction count generalizing n with
  | zero => rfl
  | succ count ih => rw [fixed, List.length_append, ih, List.length_singleton]

theorem isDigit_fixed (count n : Nat) : ∀ b ∈ fixed count n, isDigit b = true := by
  induction count generalizing n with
  | zero => nofun
  | succ count ih =>
    intro b hb
    rcases List.mem_append.1 hb with hb | hb
    · exact ih _ b hb
    · rw [List.mem_singleton.1 hb]
      exact OctetCounting.isDigit_digit n

theorem numberOf_fixed (count n : Nat) : numberOf (fixed count n) = n % 10 ^ count := by
  induction count generalizing n with
  | zero => simp [fixed, numberOf, Nat.mod_one]
  | succ count ih =>
    rw [fixed, numberOf_concat, ih, pow_succ', Nat.mod_mul]
    omega

/-! ## Timestamps are read back -/

theorem readFraction_fixed {n : Nat} (h : n ≤ 999999) {b : UInt8} (hb : isDigit b = false)
    (rest : List UInt8) :
    readFraction (0x2E :: (fixed 6 n ++ b :: rest)) = some (n, b :: rest) := by
  have hlength : (decide (0 < (fixed 6 n).length) && decide ((fixed 6 n).length ≤ 6)) = true := by
    rw [length_fixed]
    rfl
  have hread : readWhile isDigit (fun digits => 0 < digits.length && digits.length ≤ 6)
      (fixed 6 n ++ b :: rest) = some (fixed 6 n, b :: rest) :=
    readWhile_append hlength (isDigit_fixed 6 n) hb rest
  have hmod : n % 10 ^ 6 = n := Nat.mod_eq_of_lt (by omega)
  rw [readFraction, List.head?_cons, if_pos rfl, List.tail_cons, hread]
  simp only [Option.bind_eq_bind, Option.bind_some, numberOf_fixed, length_fixed, hmod,
    Nat.sub_self, pow_zero, Nat.mul_one]
  rfl

theorem readOffset_text {offset : Int} (h : offset.natAbs < 24 * 60) (rest : List UInt8) :
    readOffset (offsetText offset ++ rest) = some (offset, rest) := by
  unfold offsetText
  by_cases hzero : offset = 0
  · rw [if_pos hzero, hzero]
    rfl
  · have hhour := readBetween_fixed (Nat.zero_le (offset.natAbs / 60)) (by omega : _ ≤ 23)
      (by omega : _ < 10 ^ 2) (0x3A :: (fixed 2 (offset.natAbs % 60) ++ rest))
    have hminute := readBetween_fixed (Nat.zero_le (offset.natAbs % 60)) (by omega : _ ≤ 59)
      (by omega : _ < 10 ^ 2) rest
    have hwhole : 60 * (offset.natAbs / 60) + offset.natAbs % 60 = offset.natAbs :=
      Nat.div_add_mod _ _
    rw [if_neg hzero, List.cons_append, List.append_assoc, List.cons_append]
    by_cases hpos : 0 < offset
    · rw [if_pos hpos, readOffset, if_neg (by decide), if_pos (by decide), hhour]
      simp only [Option.bind_eq_bind, Option.bind_some, expect_cons, hminute, hwhole, if_true]
      have hsame : ((offset.natAbs : Nat) : Int) = offset := by omega
      rw [hsame]
      rfl
    · rw [if_neg hpos, readOffset, if_neg (by decide), if_pos (by decide), hhour]
      have hminus : (0x2D : UInt8) ≠ 0x2B := by decide
      simp only [Option.bind_eq_bind, Option.bind_some, expect_cons, hminute, hwhole, hminus,
        if_false]
      have hsame : -((offset.natAbs : Nat) : Int) = offset := by omega
      rw [hsame]
      rfl

theorem offsetText_cons (offset : Int) : ∃ b rest, offsetText offset = b :: rest ∧
    isDigit b = false := by
  unfold offsetText
  split
  · exact ⟨0x5A, [], rfl, rfl⟩
  · split
    · exact ⟨0x2B, _, rfl, rfl⟩
    · exact ⟨0x2D, _, rfl, rfl⟩

theorem readTimestamp_text {ts : Timestamp} (h : ts.Valid) (rest : List UInt8) :
    readTimestamp (ts.text ++ rest) = some (some ts, rest) := by
  obtain ⟨b, more, hoffset, hb⟩ := offsetText_cons ts.offset
  have hread := readOffset_text h.offset rest
  rw [hoffset, List.cons_append] at hread
  have hyear := readFixed_fixed 4 0 ts.year
  have hmod : ts.year % 10 ^ 4 = ts.year := Nat.mod_eq_of_lt (by have := h.year; omega)
  simp only [Nat.zero_mul, Nat.zero_add, hmod] at hyear
  have hmonth := readBetween_fixed h.month.1 h.month.2 (by have := h.month; omega : _ < 10 ^ 2)
  have hday := readBetween_fixed h.day.1 h.day.2 (by have := h.day; omega : _ < 10 ^ 2)
  have hhour := readBetween_fixed (Nat.zero_le _) h.hour (by have := h.hour; omega : _ < 10 ^ 2)
  have hminute := readBetween_fixed (Nat.zero_le _) h.minute
    (by have := h.minute; omega : _ < 10 ^ 2)
  have hsecond := readBetween_fixed (Nat.zero_le _) h.second
    (by have := h.second; omega : _ < 10 ^ 2)
  have hdigits : ∃ first tail, fixed 4 ts.year = first :: tail ∧ first ≠ 0x2D := by
    refine ⟨_, _, rfl, fun heq => ?_⟩
    have hdigit := OctetCounting.isDigit_digit (ts.year / 10 / 10 / 10)
    rw [heq] at hdigit
    exact absurd hdigit (by decide)
  obtain ⟨first, tail, hfirst, hne⟩ := hdigits
  have hstart : (ts.text ++ rest).head? ≠ some 0x2D := by
    rw [Timestamp.text, hfirst]
    simpa using hne
  rw [readTimestamp, if_neg hstart, Timestamp.text, hoffset]
  simp only [List.append_assoc, List.cons_append, hyear, hmonth, hday, hhour, hminute, hsecond,
    Option.bind_eq_bind, Option.bind_some, expect_cons, readFraction_fixed h.microsecond hb, hread]
  rfl

/-! ## A message is read back -/

theorem isToken_all {most : Nat} {token : List UInt8} (h : isToken most token = true) :
    ∀ b ∈ token, isPrintUsAscii b = true := by
  rw [isToken, Bool.and_eq_true, List.all_eq_true] at h
  exact h.2

theorem readField_append {most : Nat} {token : List UInt8} (h : isToken most token = true)
    (rest : List UInt8) : readField most (0x20 :: (token ++ 0x20 :: rest)) =
      some (token, 0x20 :: rest) := by
  rw [readField, expect_cons]
  exact readWhile_append h (isToken_all h) rfl rest

namespace Message

variable {m : Message}

theorem msgText_head (m : Message) : m.msgText.head? ≠ some 0x5B := by
  unfold msgText
  cases m.msg with
  | none => nofun
  | some msg => exact fun heq => absurd (Option.some.inj heq) (by decide)

theorem readTimestamp_timestampText (h : m.Valid) (rest : List UInt8) :
    readTimestamp (m.timestampText ++ rest) = some (m.timestamp, rest) := by
  have hvalid := h.timestamp
  unfold timestampText
  cases hts : m.timestamp with
  | none => rfl
  | some ts => exact readTimestamp_text (hvalid ts (by rw [hts]; rfl)) rest

theorem readStructuredData_text (h : m.Valid) :
    readStructuredData (m.structuredDataText ++ m.msgText) = some (m.elements, m.msgText) := by
  have hvalid := h.elements
  have hmsg := m.msgText_head
  unfold structuredDataText
  cases helements : m.elements with
  | nil => rfl
  | cons element elements =>
    rw [helements] at hvalid
    have hlength := length_le_elements (element :: elements)
    have hfuel : (element :: elements).length ≤
        ((element :: elements).flatMap Element.text ++ m.msgText).length := by
      rw [List.length_append]
      omega
    have hread := readElements_text hvalid hmsg hfuel
    rw [if_neg (List.cons_ne_nil _ _), readStructuredData, if_neg (by simp [Element.text]),
      if_pos (by simp [Element.text]), hread]

theorem readPri_text (h : m.Valid) (rest : List UInt8) :
    readPri (0x3C :: (decimal m.prival ++ 0x3E :: rest)) = some (m.prival, rest) := by
  have hle := h.prival
  have hread : readNumber 3 (decimal m.prival ++ 0x3E :: rest) = some (m.prival, 0x3E :: rest) :=
    readNumber_decimal (by omega) rfl rest
  rw [readPri, expect_cons]
  simp only [Option.bind_eq_bind, Option.bind_some, hread, expect_cons, if_pos hle]

theorem readVersion_text (h : m.Valid) (rest : List UInt8) :
    readVersion (decimal m.version ++ 0x20 :: rest) = some (m.version, 0x20 :: rest) := by
  have hbounds := h.version
  have hread : readNumber 3 (decimal m.version ++ 0x20 :: rest) = some (m.version, 0x20 :: rest) :=
    readNumber_decimal (by omega) rfl rest
  rw [readVersion, hread]
  simp only [Option.bind_eq_bind, Option.bind_some, if_pos hbounds.1]

theorem readMsg_text (h : m.Valid) : readMsg m.msgText = some m.msg := by
  have hvalid := h.msg
  unfold msgText
  cases hmsg : m.msg with
  | none => rfl
  | some msg => exact if_pos ⟨rfl, hvalid msg (by rw [hmsg]; rfl)⟩

/-- **A message is read back from its text.** -/
theorem parse_text (h : m.Valid) : parse m.text = some m := by
  have hbind : ∀ {α β : Type} (a : α) (next : α → Option β), (some a >>= next) = next a :=
    fun _ _ => rfl
  rw [parse, text, readPri_text h, hbind]
  dsimp only
  rw [readVersion_text h, hbind, expect_cons, hbind, readTimestamp_timestampText h, hbind,
    readField_append h.hostname, hbind,
    readField_append h.appName, hbind, readField_append h.procId, hbind, readField_append h.msgId,
    hbind, expect_cons, hbind, readStructuredData_text h, hbind, readMsg_text h]
  rfl

end Message

end SolidSyslog.Lib.Rfc5424
