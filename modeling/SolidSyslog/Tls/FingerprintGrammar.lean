import SolidSyslog.Format.Reads
import SolidSyslog.Tls.Fingerprint
import Mathlib.Data.List.Forall2

/-!
# The grammar of a fingerprint

What texts `SolidSyslogTlsFingerprint_Parse` accepts: the label of a hash, then its digest in pairs
of hexadecimal digits, with a colon between any two. The parser is also followed read by read over a
memory, where a read past its end fails.
-/

namespace SolidSyslog.Tls

open Format

/-! ## The grammar -/

/-- The label of a hash. -/
def HashAlgorithm.label : HashAlgorithm → Bytes
  | .sha1 => "sha-1".toList.map fun c => UInt8.ofNat c.toNat
  | .sha256 => "sha-256".toList.map fun c => UInt8.ofNat c.toNat

/-- The bytes of a digest under a hash. -/
def HashAlgorithm.digestLength : HashAlgorithm → Nat
  | .sha1 => 20
  | .sha256 => 32

/-- The digit of a value below 16, in upper or in lower case. -/
def hexDigit (upper : Bool) (value : UInt8) : UInt8 :=
  if value < 10 then 0x30 + value else (if upper then 0x41 else 0x61) + (value - 10)

/-- A pair of digits, each in either case, for a byte. -/
def HexPair (pair : Bytes) (byte : UInt8) : Prop :=
  ∃ upper upper', pair = [hexDigit upper (byte / 16), hexDigit upper' (byte % 16)]

/-- A text in the form of a fingerprint, and the fingerprint it denotes. -/
def Denotes (text : Bytes) (fingerprint : Fingerprint) : Prop :=
  fingerprint.digest.length = fingerprint.algorithm.digestLength ∧
    ∃ pairs, List.Forall₂ HexPair pairs fingerprint.digest ∧
      text = fingerprint.algorithm.label ++ 0x3A :: [0x3A].intercalate pairs

/-- A fingerprint whose digest has the length of its hash. -/
structure FullFingerprint extends Fingerprint where
  full : digest.length = algorithm.digestLength

/-- The text of a fingerprint, with its digits in upper or in lower case. -/
def FullFingerprint.print (upper : Bool) (fingerprint : FullFingerprint) : Bytes :=
  fingerprint.algorithm.label ++ 0x3A :: [0x3A].intercalate
    (fingerprint.digest.map fun byte => [hexDigit upper (byte / 16), hexDigit upper (byte % 16)])

theorem FullFingerprint.print_denotes (upper : Bool) (fingerprint : FullFingerprint) :
    Denotes (fingerprint.print upper) fingerprint.toFingerprint := by
  refine ⟨fingerprint.full, _, ?_, rfl⟩
  rw [List.forall₂_map_left_iff, List.forall₂_same]
  exact fun byte _ => ⟨upper, upper, rfl⟩

/-! ## What is accepted -/

namespace Fingerprint

theorem parseHexDigit_hexDigit (upper : Bool) {value : UInt8} (hvalue : value < 16) :
    parseHexDigit (hexDigit upper value) = some value := by
  revert hvalue
  cases upper
  · apply byte_forall (P := fun value => value < 16 →
      parseHexDigit (hexDigit false value) = some value)
    decide +kernel
  · apply byte_forall (P := fun value => value < 16 →
      parseHexDigit (hexDigit true value) = some value)
    decide +kernel

theorem parseHexDigit_some {digit value : UInt8} (h : parseHexDigit digit = some value) :
    value < 16 ∧ ∃ upper, digit = hexDigit upper value := by
  have hall : ∀ value ∈ parseHexDigit digit, value < 16 ∧ ∃ upper, digit =
    hexDigit upper value := by
    apply byte_forall (P := fun digit => ∀ value ∈ parseHexDigit digit,
      value < 16 ∧ ∃ upper, digit = hexDigit upper value)
    decide +kernel
  exact hall value h

theorem halves_joined (byte : UInt8) :
    byte / 16 < 16 ∧ byte % 16 < 16 ∧ (byte / 16) <<< 4 ||| byte % 16 = byte := by
  apply byte_forall (P := fun byte =>
    byte / 16 < 16 ∧ byte % 16 < 16 ∧ (byte / 16) <<< 4 ||| byte % 16 = byte)
  decide +kernel

theorem joined_halves {high low : UInt8} (hhigh : high < 16) (hlow : low < 16) :
    (high <<< 4 ||| low) / 16 = high ∧ (high <<< 4 ||| low) % 16 = low := by
  have hall : ∀ i < 16, ∀ j < 16,
      (UInt8.ofNat i <<< 4 ||| UInt8.ofNat j) / 16 = UInt8.ofNat i ∧
        (UInt8.ofNat i <<< 4 ||| UInt8.ofNat j) % 16 = UInt8.ofNat j := by decide +kernel
  simpa using hall high.toNat hhigh low.toNat hlow

/-- A pair parses to the byte it stands for. -/
theorem parseHexPair_iff {first second byte : UInt8} :
    parseHexPair first second = some byte ↔ HexPair [first, second] byte := by
  unfold parseHexPair
  constructor
  · intro h
    cases hfirst : parseHexDigit first with
    | none => simp [hfirst] at h
    | some high =>
      cases hsecond : parseHexDigit second with
      | none => simp [hfirst, hsecond] at h
      | some low =>
        simp only [hfirst, hsecond, Option.some.injEq] at h
        obtain ⟨hhigh, upper, rfl⟩ := parseHexDigit_some hfirst
        obtain ⟨hlow, upper', rfl⟩ := parseHexDigit_some hsecond
        obtain ⟨hdiv, hmod⟩ := joined_halves hhigh hlow
        exact ⟨upper, upper', by rw [← h, hdiv, hmod]⟩
  · rintro ⟨upper, upper', hpair⟩
    obtain ⟨rfl, rfl⟩ : first = _ ∧ second = _ := by simpa using hpair
    obtain ⟨hhigh, hlow, hjoined⟩ := halves_joined byte
    rw [parseHexDigit_hexDigit upper hhigh, parseHexDigit_hexDigit upper' hlow]
    exact congrArg some hjoined

/-- The pairs a text was read into, with the colons put back. -/
theorem parseHexPairs_some {length : Nat} {text digest : Bytes}
    (h : parseHexPairs text length = some digest) :
    digest.length = length ∧ ∃ pairs, List.Forall₂ HexPair pairs digest ∧
      text = [0x3A].intercalate pairs := by
  induction length generalizing text digest with
  | zero =>
    rw [parseHexPairs] at h
    split_ifs at h with htext
    cases h
    exact ⟨rfl, [], .nil, htext⟩
  | succ length ih =>
    match text, h with
    | [], h => cases h
    | [first], h => cases h
    | first :: second :: rest, h =>
      rw [parseHexPairs] at h
      cases hpair : parseHexPair first second with
      | none => simp [hpair] at h
      | some value =>
        simp only [hpair] at h
        have hpair := parseHexPair_iff.1 hpair
        split_ifs at h with hmore hrest
        · split at h
          · next rest =>
            obtain ⟨digest, hdigest, rfl⟩ := Option.map_eq_some_iff.1 h
            obtain ⟨hlength, pairs, hpairs, htext⟩ := ih hdigest
            refine ⟨congrArg (· + 1) hlength, _, .cons hpair hpairs, ?_⟩
            have hne : pairs ≠ [] := by
              rintro rfl
              rw [← hlength, ← hpairs.length_eq] at hmore
              exact Nat.lt_irrefl 0 hmore
            rw [List.intercalate_cons_of_ne_nil hne, htext]
            rfl
          · cases h
        · cases h
          refine ⟨by simp; omega, [[first, second]], .cons hpair .nil, ?_⟩
          rw [hrest]
          rfl

/-- Pairs with colons between them are read. -/
theorem parseHexPairs_intercalate {pairs : List Bytes} {digest : Bytes}
    (h : List.Forall₂ HexPair pairs digest) :
    parseHexPairs ([0x3A].intercalate pairs) digest.length = some digest := by
  induction h with
  | nil => rfl
  | @cons pair value pairs digest hpair hpairs ih =>
    obtain ⟨first, second, rfl⟩ : ∃ first second, pair = [first, second] := by
      obtain ⟨upper, upper', hpair⟩ := hpair
      exact ⟨_, _, hpair⟩
    have hparse := parseHexPair_iff.2 hpair
    cases hpairs with
    | nil => simp [List.intercalate, parseHexPairs, hparse]
    | cons hnext hrest =>
      rw [List.intercalate_cons_cons, List.length_cons]
      simp only [List.cons_append, List.nil_append]
      rw [parseHexPairs, hparse]
      dsimp only
      rw [if_pos (List.length_pos_iff.2 (List.cons_ne_nil _ _))]
      change Option.map (value :: ·) (parseHexPairs _ _) = _
      rw [ih]
      rfl

/-- A label is found where it stands, with a colon behind it. -/
theorem labelMatches_iff {text label digestText : Bytes} :
    labelMatches text label = some digestText ↔ text = label ++ 0x3A :: digestText := by
  induction label generalizing text with
  | nil =>
    match text with
    | [] => simp [labelMatches]
    | t :: text =>
      by_cases ht : t = 0x3A
      · simp [ht, labelMatches]
      · simp [ht, labelMatches]
  | cons l label ih =>
    match text with
    | [] => simp [labelMatches]
    | t :: text =>
      rw [labelMatches, List.cons_append, List.cons.injEq]
      split_ifs with ht
      · rw [ih]
        exact ⟨fun h => ⟨ht, h⟩, fun h => h.2⟩
      · exact ⟨nofun, fun h => absurd h.1 ht⟩

theorem labels_eq : labels =
    [(HashAlgorithm.sha1.label, .sha1, HashAlgorithm.sha1.digestLength),
      (HashAlgorithm.sha256.label, .sha256, HashAlgorithm.sha256.digestLength)] := by
  decide

/-- A text that begins with one of the labels does not begin with the other. -/
theorem labelMatches_of_other {text digestText : Bytes}
    (h : labelMatches text HashAlgorithm.sha256.label = some digestText) :
    labelMatches text HashAlgorithm.sha1.label = none := by
  rw [labelMatches_iff.1 h]
  rfl

theorem parseLabel_iff {text digestText : Bytes} {algorithm : HashAlgorithm} {length : Nat} :
    parseLabel text = some (digestText, algorithm, length) ↔
      text = algorithm.label ++ 0x3A :: digestText ∧ length = algorithm.digestLength := by
  rw [← labelMatches_iff, parseLabel, labels_eq]
  simp only [List.findSome?_cons, List.findSome?_nil]
  cases algorithm with
  | sha1 =>
    cases hsha1 : labelMatches text HashAlgorithm.sha1.label with
    | some found => simp [eq_comm]
    | none =>
      cases hsha256 : labelMatches text HashAlgorithm.sha256.label <;> simp
  | sha256 =>
    cases hsha256 : labelMatches text HashAlgorithm.sha256.label with
    | some found => simp [labelMatches_of_other hsha256, eq_comm]
    | none =>
      cases hsha1 : labelMatches text HashAlgorithm.sha1.label <;> simp

/-- `SolidSyslogTlsFingerprint_Parse` accepts the texts of the grammar, for what they denote. -/
theorem parse_iff {text : Bytes} {fingerprint : Fingerprint} :
    parse (some text) = some fingerprint ↔ Denotes text fingerprint := by
  unfold parse Denotes
  constructor
  · intro h
    cases hlabel : parseLabel text with
    | none => simp [hlabel] at h
    | some found =>
      obtain ⟨digestText, algorithm, length⟩ := found
      simp only [hlabel] at h
      obtain ⟨digest, hdigest, rfl⟩ := Option.map_eq_some_iff.1 h
      obtain ⟨htext, rfl⟩ := parseLabel_iff.1 hlabel
      obtain ⟨hlength, pairs, hpairs, rfl⟩ := parseHexPairs_some hdigest
      exact ⟨hlength, pairs, hpairs, htext⟩
  · rintro ⟨hlength, pairs, hpairs, htext⟩
    have hlabel := parseLabel_iff.2 ⟨htext, rfl⟩
    simp only [hlabel]
    rw [← hlength, parseHexPairs_intercalate hpairs]
    rfl

/-! ## The parser with its reads -/

/-- `TlsFingerprint_LabelMatches`, read by read. -/
def readLabelMatches (memory : Bytes) : Bytes → Option (Option Bytes)
  | [] => memory[0]?.map fun t => if t = 0x3A then some (memory.drop 1) else none
  | l :: label => memory[0]?.bind fun t =>
    if t = l then readLabelMatches (memory.drop 1) label else some none

/-- The loop of `TlsFingerprint_ParseLabel`, read by read. -/
def readLabels (memory : Bytes) :
    List (Bytes × HashAlgorithm × Nat) → Option (Option (Bytes × HashAlgorithm × Nat))
  | [] => some none
  | (label, algorithm, length) :: rest => (readLabelMatches memory label).bind fun
    | some digestText => some (some (digestText, algorithm, length))
    | none => readLabels memory rest

/-- `TlsFingerprint_ParseHexPair`, read by read: the second digit only behind a first. -/
def readHexPair (memory : Bytes) : Option (Option UInt8) :=
  memory[0]?.bind fun first =>
  match parseHexDigit first with
  | some high =>
      memory[1]?.map fun second => (parseHexDigit second).map fun low => high <<< 4 ||| low
  | none => some none

/-- `TlsFingerprint_ParseHexPairs`, read by read. -/
def readHexPairs (memory : Bytes) : Nat → Option (Option Bytes)
  | 0 => memory[0]?.map fun t => if t = 0 then some [] else none
  | length + 1 => (readHexPair memory).bind fun
    | some value =>
      if 0 < length then memory[2]?.bind fun separator =>
        if separator = 0x3A then
          (readHexPairs (memory.drop 3) length).map fun digest => digest.map (value :: ·)
        else some none
      else (readHexPairs (memory.drop 2) length).map fun digest => digest.map (value :: ·)
    | none => some none

/-- `SolidSyslogTlsFingerprint_Parse`, read by read. -/
def readParse (memory : Bytes) : Option (Option Fingerprint) :=
  (readLabels memory labels).bind fun
    | some (digestText, algorithm, length) =>
      (readHexPairs digestText length).map fun digest => digest.map (⟨algorithm, ·⟩)
    | none => some none

/-! ## No read past the terminator -/

variable {text : Bytes} (after : Bytes)

/-- The label is compared up to the first difference, which the terminator is one of. -/
theorem readLabelMatches_eq {label : Bytes} (hlabel : ∀ l ∈ label, l ≠ 0) (text : Bytes) :
    readLabelMatches (text ++ 0 :: after) label =
      some ((labelMatches text label).map (· ++ 0 :: after)) := by
  induction label generalizing text with
  | nil =>
    match text with
    | [] => rfl
    | t :: text =>
      by_cases ht : t = 0x3A
      · simp [ht, readLabelMatches, labelMatches]
      · simp [ht, readLabelMatches, labelMatches]
  | cons l label ih =>
    obtain ⟨hl, hlabel⟩ := List.forall_mem_cons.1 hlabel
    match text with
    | [] => simp [readLabelMatches, labelMatches, hl.symm]
    | t :: text =>
      by_cases ht : t = l
      · simp [ht, readLabelMatches, labelMatches, ih hlabel]
      · simp [ht, readLabelMatches, labelMatches]

theorem labels_ne_zero : ∀ entry ∈ labels, ∀ l ∈ entry.1, l ≠ 0 := by
  simp [labels]

/-- The labels are tried one after another, each from the first character on. -/
theorem readLabels_eq {labels : List (Bytes × HashAlgorithm × Nat)}
    (hlabels : ∀ entry ∈ labels, ∀ l ∈ entry.1, l ≠ 0) (text : Bytes) :
    readLabels (text ++ 0 :: after) labels =
      some ((labels.findSome? fun (label, algorithm, length) =>
        (labelMatches text label).map fun digestText => (digestText, algorithm, length)).map
          fun (digestText, kind) => (digestText ++ 0 :: after, kind)) := by
  induction labels with
  | nil => rfl
  | cons entry labels ih =>
    obtain ⟨label, algorithm, length⟩ := entry
    obtain ⟨hlabel, hlabels⟩ := List.forall_mem_cons.1 hlabels
    rw [readLabels, readLabelMatches_eq after hlabel, List.findSome?_cons, ih hlabels]
    cases hmatches : labelMatches text label <;> simp [hmatches]

/-- A digit that is none ends the pair before its second is looked at, as a terminator does. -/
theorem readHexPair_eq (first second : UInt8) (rest : Bytes) :
    readHexPair (first :: second :: rest) = some (parseHexPair first second) := by
  unfold readHexPair parseHexPair
  cases hfirst : parseHexDigit first with
  | none => simp [hfirst]
  | some high => cases hsecond : parseHexDigit second <;> simp [hfirst, hsecond]

theorem parseHexDigit_zero : parseHexDigit 0 = none := by
  rfl

theorem readHexPairs_eq (htext : ∀ x ∈ text, x ≠ 0) (length : Nat) :
    readHexPairs (text ++ 0 :: after) length = some (parseHexPairs text length) := by
  induction length generalizing text with
  | zero =>
    cases text with
    | nil => rfl
    | cons t text => simp [readHexPairs, parseHexPairs, htext t List.mem_cons_self]
  | succ length ih =>
    match text, htext with
    | [], _ => rfl
    | [first], _ =>
      cases hfirst : parseHexDigit first with
      | none => simp [readHexPairs, readHexPair, parseHexPairs, hfirst]
      | some high => simp [readHexPairs, readHexPair, parseHexPairs, hfirst, parseHexDigit_zero]
    | first :: second :: rest, htext =>
      have hrest : ∀ x ∈ rest, x ≠ 0 := fun x hx => htext x (by simp [hx])
      rw [readHexPairs, parseHexPairs, List.cons_append, List.cons_append, readHexPair_eq]
      cases hpair : parseHexPair first second with
      | none => rfl
      | some value =>
        by_cases hmore : 0 < length
        · match rest, hrest with
          | [], _ => simp [hmore]
          | separator :: rest, hrest =>
            by_cases hseparator : separator = 0x3A
            · have hrest : ∀ x ∈ rest, x ≠ 0 := fun x hx => hrest x (List.mem_cons_of_mem _ hx)
              simp [hmore, hseparator, ih hrest]
            · simp [hmore, hseparator]
        · obtain rfl : length = 0 := Nat.eq_zero_of_not_pos hmore
          have hread := ih hrest
          simp only [parseHexPairs] at hread
          simp [hread]

/-- `SolidSyslogTlsFingerprint_Parse` reads nothing past the terminator. -/
theorem readParse_eq (htext : ∀ x ∈ text, x ≠ 0) :
    readParse (text ++ 0 :: after) = some (parse (some text)) := by
  have hread : readLabels (text ++ 0 :: after) labels = some ((parseLabel text).map
      fun (digestText, kind) => (digestText ++ 0 :: after, kind)) :=
    readLabels_eq after labels_ne_zero text
  rw [readParse, hread, Option.bind_some, parse]
  cases hlabel : parseLabel text with
  | none => rfl
  | some found =>
    obtain ⟨digestText, algorithm, length⟩ := found
    have hdigestText : ∀ x ∈ digestText, x ≠ 0 := by
      intro x hx
      apply htext
      rw [(parseLabel_iff.1 hlabel).1]
      exact List.mem_append_right _ (List.mem_cons_of_mem _ hx)
    rw [Option.map_some]
    dsimp only
    rw [readHexPairs_eq after hdigestText]
    rfl

theorem hexDigit_ne_zero (upper : Bool) {value : UInt8} (hvalue : value < 16) :
    hexDigit upper value ≠ 0 := by
  intro hzero
  have hparse := parseHexDigit_hexDigit upper hvalue
  rw [hzero, parseHexDigit_zero] at hparse
  cases hparse

theorem intercalate_ne_zero {pairs : List Bytes} (h : ∀ pair ∈ pairs, ∀ x ∈ pair, x ≠ 0) :
    ∀ x ∈ [0x3A].intercalate pairs, x ≠ 0 := by
  induction pairs with
  | nil => exact nofun
  | cons pair pairs ih =>
    obtain ⟨hpair, hpairs⟩ := List.forall_mem_cons.1 h
    cases pairs with
    | nil => simpa using hpair
    | cons next pairs =>
      rw [List.intercalate_cons_cons]
      intro x hx
      rcases List.mem_append.1 hx with hx | hx
      · rcases List.mem_append.1 hx with hx | hx
        · exact hpair x hx
        · rw [List.mem_singleton.1 hx]
          exact nofun
      · exact ih hpairs x hx

/-- What is printed holds no terminator. -/
theorem print_ne_zero (upper : Bool) (fingerprint : FullFingerprint) :
    ∀ x ∈ fingerprint.print upper, x ≠ 0 := by
  have hlabel : ∀ x ∈ fingerprint.algorithm.label, x ≠ 0 := by
    apply labels_ne_zero
      (fingerprint.algorithm.label, fingerprint.algorithm, fingerprint.algorithm.digestLength)
    rw [labels_eq]
    cases fingerprint.algorithm <;> simp
  have hpairs : ∀ pair ∈ fingerprint.digest.map fun byte =>
      [hexDigit upper (byte / 16), hexDigit upper (byte % 16)], ∀ x ∈ pair, x ≠ 0 := by
    rw [List.forall_mem_map]
    intro byte _ x hx
    obtain ⟨hhigh, hlow, -⟩ := halves_joined byte
    rcases List.mem_cons.1 hx with rfl | hx
    · exact hexDigit_ne_zero upper hhigh
    · rw [List.mem_singleton.1 hx]
      exact hexDigit_ne_zero upper hlow
  intro x hx
  rcases List.mem_append.1 hx with hx | hx
  · exact hlabel x hx
  · rcases List.mem_cons.1 hx with rfl | hx
    · exact nofun
    · exact intercalate_ne_zero hpairs x hx

/-- `SolidSyslogTlsFingerprint_Parse` looks at nothing behind the terminator, accepts exactly the
texts of the grammar, each for what it denotes, and reads every fingerprint back from its print. -/
theorem parse_accepts_grammar (source : Bytes) :
    (∀ after, readParse (terminated source ++ after) = some (parse (some (cString source)))) ∧
      (∀ fingerprint,
        parse (some (cString source)) = some fingerprint ↔ Denotes (cString source) fingerprint) ∧
      ∀ upper (fingerprint : FullFingerprint),
        readParse (terminated (fingerprint.print upper)) =
          some (some fingerprint.toFingerprint) := by
  refine ⟨fun after => ?_, fun fingerprint => parse_iff, fun upper fingerprint => ?_⟩
  · rw [terminated, List.append_assoc]
    exact readParse_eq after (cString_ne_zero source)
  · have hprint := cString_of_ne_zero (print_ne_zero upper fingerprint)
    have hread := readParse_eq [] (print_ne_zero upper fingerprint)
    rw [terminated, hprint, hread, parse_iff.2 (fingerprint.print_denotes upper)]

end Fingerprint

end SolidSyslog.Tls
