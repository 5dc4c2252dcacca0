import SolidSyslog.Basic

/-!
# Certificate fingerprints

`SolidSyslogTlsFingerprint.c`. A pin names a hash and the digest a peer's certificate must have
under it, in the form of RFC 5425 section 4.2.2. A text is its characters up to its NUL.
-/

namespace SolidSyslog.Tls

/-- `enum SolidSyslogTlsHashAlgorithm`. -/
inductive HashAlgorithm where
  | sha1
  | sha256
  deriving DecidableEq

/-- `struct SolidSyslogTlsFingerprint`. -/
structure Fingerprint where
  algorithm : HashAlgorithm
  digest : Bytes
  deriving DecidableEq

/-- A list of pins, or a NULL list with a count. -/
inductive PinList where
  | null (count : Nat)
  | list (pins : List (Option Bytes))
  deriving DecidableEq

/-- `enum SolidSyslogTlsFingerprintListState`, in order. -/
inductive PinListState where
  | wellFormed
  | usesSha1
  | malformed
  deriving DecidableEq

/-- `enum SolidSyslogTlsAuthorisation`. -/
inductive TlsAuthorisation where
  | matched
  | noMatch
  | malformed
  | digestUnavailable
  deriving DecidableEq

namespace Fingerprint

/-- `TlsFingerprint_LabelMatches`: the text of the digest behind the label. -/
def labelMatches : Bytes → Bytes → Option Bytes
  | 0x3A :: digestText, [] => some digestText
  | t :: text, l :: label => if t = l then labelMatches text label else none
  | _, _ => none

/-- `TLS_FINGERPRINT_LABELS`: "sha-1" and "sha-256", with the length of the digest. -/
def labels : List (Bytes × HashAlgorithm × Nat) :=
  [([0x73, 0x68, 0x61, 0x2D, 0x31], .sha1, 20),
    ([0x73, 0x68, 0x61, 0x2D, 0x32, 0x35, 0x36], .sha256, 32)]

/-- `TlsFingerprint_ParseLabel`. -/
def parseLabel (text : Bytes) : Option (Bytes × HashAlgorithm × Nat) :=
  labels.findSome? fun (label, algorithm, length) =>
    (labelMatches text label).map fun digestText => (digestText, algorithm, length)

/-- `TlsFingerprint_ParseHexDigit`. -/
def parseHexDigit (digit : UInt8) : Option UInt8 :=
  if 0x30 ≤ digit ∧ digit ≤ 0x39 then some (digit - 0x30)
  else if 0x41 ≤ digit ∧ digit ≤ 0x46 then some (digit - 0x41 + 10)
  else if 0x61 ≤ digit ∧ digit ≤ 0x66 then some (digit - 0x61 + 10)
  else none

/-- `TlsFingerprint_ParseHexPair`. -/
def parseHexPair (first second : UInt8) : Option UInt8 :=
  match parseHexDigit first, parseHexDigit second with
  | some high, some low => some (high <<< 4 ||| low)
  | _, _ => none

/-- `TlsFingerprint_ParseHexPairs`. -/
def parseHexPairs (text : Bytes) : Nat → Option Bytes
  | 0 => if text = [] then some [] else none
  | length + 1 =>
    match text with
    | first :: second :: rest =>
      match parseHexPair first second with
      | some value =>
        if 0 < length then
          match rest with
          | 0x3A :: rest => (parseHexPairs rest length).map (value :: ·)
          | _ => none
        else if rest = [] then some [value] else none
      | none => none
    | _ => none

/-- `SolidSyslogTlsFingerprint_Parse`. -/
def parse (text : Option Bytes) : Option Fingerprint :=
  match text with
  | some text =>
    match parseLabel text with
    | some (digestText, algorithm, length) => (parseHexPairs digestText length).map (⟨algorithm, ·⟩)
    | none => none
  | none => none

/-- `TlsFingerprint_DigestEquals`: every byte is compared. -/
def digestEquals (pin : Fingerprint) (digest : Bytes) : Bool :=
  digest.length = pin.digest.length &&
    (List.zipWith (· ^^^ ·) pin.digest digest).foldl (· ||| ·) 0 = 0

/-- `TlsFingerprint_AuthoriseOne`, with the peer's digest under each hash, where it can be had. -/
def authoriseOne (digest : HashAlgorithm → Option Bytes) (pin : Option Bytes) : TlsAuthorisation :=
  match parse pin with
  | some pin =>
    match digest pin.algorithm with
    | some peerDigest => if pin.digestEquals peerDigest then .matched else .noMatch
    | none => .digestUnavailable
  | none => .malformed

end Fingerprint

namespace PinList

/-- The count that goes with the list. -/
def count : PinList → Nat
  | .null count => count
  | .list pins => pins.length

/-- `TlsFingerprint_ListIsReadable`. -/
def isReadable : PinList → Bool
  | .null count => count = 0
  | .list _ => true

/-- The pins that are there to be read. -/
def pins : PinList → List (Option Bytes)
  | .null _ => []
  | .list pins => pins

/-- The later of two states. -/
def worse (state one : PinListState) : PinListState :=
  match state, one with
  | .malformed, _ | _, .malformed => .malformed
  | .usesSha1, _ | _, .usesSha1 => .usesSha1
  | .wellFormed, .wellFormed => .wellFormed

/-- `TlsFingerprint_InspectOne`. -/
def inspectOne (text : Option Bytes) : PinListState :=
  match Fingerprint.parse text with
  | some parsed => if parsed.algorithm = .sha1 then .usesSha1 else .wellFormed
  | none => .malformed

/-- `SolidSyslogTlsFingerprint_InspectList`. -/
def inspect (list : PinList) : PinListState :=
  if list.isReadable then list.pins.foldl (fun state pin =>
    worse state (inspectOne pin)) .wellFormed
  else .malformed

/-- The loop of `SolidSyslogTlsFingerprint_Authorise`, with whether a pin was skipped before. -/
def walk (digest : HashAlgorithm → Option Bytes) (anySkipped : Bool) :
    List (Option Bytes) → Bool × TlsAuthorisation
  | [] => (anySkipped, .noMatch)
  | pin :: pins =>
    match Fingerprint.authoriseOne digest pin with
    | .digestUnavailable => walk digest true pins
    | .noMatch => walk digest anySkipped pins
    | .matched => (anySkipped, .matched)
    | .malformed => (anySkipped, .malformed)

/-- `SolidSyslogTlsFingerprint_Authorise`. -/
def authorise (digest : HashAlgorithm → Option Bytes) (list : PinList) : TlsAuthorisation :=
  if list.isReadable then
    match walk digest false list.pins with
    | (true, .noMatch) => .digestUnavailable
    | (_, verdict) => verdict
  else .malformed

end PinList

/-! ## What the checks say -/

namespace Fingerprint

theorem or_foldl_eq_zero {bytes : Bytes} {b : UInt8} :
    bytes.foldl (· ||| ·) b = 0 ↔ b = 0 ∧ ∀ x ∈ bytes, x = 0 := by
  induction bytes generalizing b with
  | nil => simp
  | cons x bytes ih =>
    rw [List.foldl_cons, ih, UInt8.or_eq_zero_iff, List.forall_mem_cons, and_assoc]

/-- A digest equals a pin's in every byte. -/
theorem digestEquals_iff (pin : Fingerprint) (digest : Bytes) :
    pin.digestEquals digest = true ↔ digest = pin.digest := by
  unfold digestEquals
  rw [Bool.and_eq_true, decide_eq_true_eq, decide_eq_true_eq, or_foldl_eq_zero]
  generalize pin.digest = pinned
  constructor
  · rintro ⟨hlength, -, hzero⟩
    induction pinned generalizing digest with
    | nil => exact List.length_eq_zero_iff.1 hlength
    | cons p pinned ih =>
      cases digest with
      | nil => cases hlength
      | cons d digest =>
        rw [List.zipWith_cons_cons, List.forall_mem_cons] at hzero
        rw [UInt8.xor_eq_zero_iff.1 hzero.1, ih digest (Nat.succ.inj hlength) hzero.2]
  · rintro rfl
    refine ⟨rfl, rfl, ?_⟩
    induction digest with
    | nil => exact nofun
    | cons d digest ih =>
      rw [List.zipWith_cons_cons, List.forall_mem_cons]
      exact ⟨UInt8.xor_self, ih⟩

end Fingerprint

namespace PinList

/-- A peer with this digest is one the pin names. -/
def Names (digest : HashAlgorithm → Option Bytes) (pin : Option Bytes) : Prop :=
  ∃ fingerprint, Fingerprint.parse pin = some fingerprint ∧
    digest fingerprint.algorithm = some fingerprint.digest

theorem authoriseOne_matched {digest : HashAlgorithm → Option Bytes} {pin : Option Bytes} :
    Fingerprint.authoriseOne digest pin = .matched ↔ Names digest pin := by
  unfold Fingerprint.authoriseOne Names
  cases Fingerprint.parse pin with
  | none => simp
  | some fingerprint =>
    cases hdigest : digest fingerprint.algorithm with
    | none => simp [hdigest]
    | some peerDigest => simp [hdigest, Fingerprint.digestEquals_iff]

theorem walk_matched {digest : HashAlgorithm → Option Bytes} {pins : List (Option Bytes)}
    {anySkipped : Bool} (h : (walk digest anySkipped pins).2 = .matched) :
    ∃ pin ∈ pins, Names digest pin := by
  induction pins generalizing anySkipped with
  | nil => cases h
  | cons pin pins ih =>
    rw [walk] at h
    split at h
    · obtain ⟨other, hother, hnames⟩ := ih h
      exact ⟨other, List.mem_cons_of_mem _ hother, hnames⟩
    · obtain ⟨other, hother, hnames⟩ := ih h
      exact ⟨other, List.mem_cons_of_mem _ hother, hnames⟩
    · next hmatched => exact ⟨pin, List.mem_cons_self, authoriseOne_matched.1 hmatched⟩
    · cases h

/-- A peer that is authorised is named by a pin. -/
theorem authorise_matched {digest : HashAlgorithm → Option Bytes} {list : PinList}
    (h : list.authorise digest = .matched) : ∃ pin ∈ list.pins, Names digest pin := by
  unfold authorise at h
  split at h
  · split at h
    · cases h
    · next hwalk =>
      apply @walk_matched digest list.pins false
      rw [hwalk]
      exact h
  · cases h

theorem worse_ne_malformed {state one : PinListState} :
    worse state one ≠ .malformed ↔ state ≠ .malformed ∧ one ≠ .malformed := by
  cases state <;> cases one <;> decide

theorem foldl_worse {pins : List (Option Bytes)} {state : PinListState}
    (h : pins.foldl (fun state pin => worse state (inspectOne pin)) state ≠ .malformed) :
    state ≠ .malformed ∧ ∀ pin ∈ pins, inspectOne pin ≠ .malformed := by
  induction pins generalizing state with
  | nil => exact ⟨h, nofun⟩
  | cons pin pins ih =>
    obtain ⟨hworse, hrest⟩ := ih h
    obtain ⟨hstate, hpin⟩ := worse_ne_malformed.1 hworse
    exact ⟨hstate, List.forall_mem_cons.2 ⟨hpin, hrest⟩⟩

/-- A list that is not malformed can be read, and each of its pins parses. -/
theorem inspect_ne_malformed {list : PinList} (h : list.inspect ≠ .malformed) :
    list.isReadable = true ∧ ∀ pin ∈ list.pins, (Fingerprint.parse pin).isSome = true := by
  unfold inspect at h
  split at h
  · next hreadable =>
    refine ⟨hreadable, fun pin hpin => ?_⟩
    have hone := (foldl_worse h).2 pin hpin
    unfold inspectOne at hone
    cases hparse : Fingerprint.parse pin with
    | none =>
      rw [hparse] at hone
      exact absurd rfl hone
    | some parsed => rfl
  · exact absurd rfl h

end PinList

end SolidSyslog.Tls
