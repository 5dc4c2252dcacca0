import SolidSyslog.Format.Reads
import SolidSyslog.Format.StructuredData

/-!
# The text of a value

What the writes to a value decode to. A chunk that ends inside a character leaves its open part held
for the next one; what another write, the end of the value or a chunk that does not go on interrupts
becomes one U+FFFD.
-/

namespace SolidSyslog.Format

open Lib

/-! ## What a write decodes to -/

/-- What a chunk adds to the text, and what is held after it. -/
def streamed (held chunk : Bytes) : Bytes × Bytes :=
  match held with
  | [] => (Utf8.sanitise (Utf8.finished chunk), Utf8.unfinished chunk)
  | lead :: more =>
    let tails := (chunk.take (Utf8.leadLength lead - (lead :: more).length)).takeWhile Utf8.isTail
    let rest := chunk.drop tails.length
    let joined := lead :: more ++ tails
    if joined.length = Utf8.leadLength lead then
      (Utf8.sanitise joined ++ Utf8.sanitise (Utf8.finished rest), Utf8.unfinished rest)
    else if rest = [] then ([], joined)
    else (Utf8.replacement ++ Utf8.sanitise (Utf8.finished rest), Utf8.unfinished rest)

/-- What an interrupted part becomes. -/
def interrupted (held : Bytes) : Bytes :=
  if held = [] then [] else Utf8.replacement

/-- What a write adds to the text, and what is held after it. -/
def SdWrite.text (held : Bytes) : SdWrite → Bytes × Bytes
  | string source => streamed held (cString source)
  | boundedString source maxDecodedLength =>
    (interrupted held ++ sanitiseWithin (cString source) maxDecodedLength, [])
  | uint32 value => (interrupted held ++ uint32Bytes value.toNat, [])

/-- The text of a value that is closed after the writes. -/
def valueText (held : Bytes) : List SdWrite → Bytes
  | [] => interrupted held
  | write :: writes => (write.text held).1 ++ valueText (write.text held).2 writes

/-- What is written by the writes to a value and by its close. -/
def valueBytes (pending : Pending) : List SdWrite → Bytes
  | [] => (closeValue pending).written
  | write :: writes =>
    (write.perform pending).written ++ valueBytes (write.perform pending).state writes

/-- What a value holds: nothing, or the open part of a character. -/
def Held (held : Bytes) : Prop :=
  held = [] ∨ Utf8.IsOpen held

/-! ## Units -/

theorem expectedLength_eq (lead : UInt8) : expectedLength lead = Utf8.leadLength lead := by
  apply byte_forall (P := fun lead => expectedLength lead = Utf8.leadLength lead)
  decide +kernel

theorem ne_zero_of_isTail {x : UInt8} (h : Utf8.isTail x = true) : x ≠ 0 := by
  rintro rfl
  cases h

theorem ne_zero_of_isOpen {part : Bytes} (h : Utf8.IsOpen part) : ∀ x ∈ part, x ≠ 0 := by
  obtain ⟨lead, more, rfl, hlt, htails⟩ := h
  intro x hx
  rcases List.mem_cons.1 hx with rfl | hx
  · rintro rfl
    rw [show Utf8.leadLength 0 = 1 from rfl, List.length_cons] at hlt
    omega
  · exact ne_zero_of_isTail (htails x hx)

theorem continuations_eq (most : Nat) (source : Bytes) :
    continuations most source = (source.take most).takeWhile Utf8.isTail := by
  rw [continuations, funext isContinuationByte_eq]

/-- The tails a text begins with, as many as are asked for, and the rest. -/
theorem continuations_spec (most : Nat) (source : Bytes) : ∃ tails rest,
    (source.take most).takeWhile Utf8.isTail = tails ∧ source = tails ++ rest ∧
      (∀ x ∈ tails, Utf8.isTail x = true) ∧ tails.length ≤ most ∧
      (tails.length = most ∨ ∀ x more, rest = x :: more → Utf8.isTail x = false) := by
  induction source generalizing most with
  | nil =>
    refine ⟨[], [], by simp, rfl, nofun, Nat.zero_le _, .inr nofun⟩
  | cons b source ih =>
    cases most with
    | zero => exact ⟨[], b :: source, rfl, rfl, nofun, le_rfl, .inl rfl⟩
    | succ most =>
      by_cases hb : Utf8.isTail b = true
      · obtain ⟨tails, rest, htaken, rfl, htails, hle, hends⟩ := ih most
        refine ⟨b :: tails, rest, ?_, rfl, ?_, ?_, ?_⟩
        · rw [List.take_succ_cons, List.takeWhile_cons_of_pos hb, htaken]
        · simpa [hb] using htails
        · exact Nat.succ_le_succ hle
        · simpa using hends
      · refine ⟨[], b :: source, ?_, rfl, nofun, Nat.zero_le _, .inr ?_⟩
        · rw [List.take_succ_cons, List.takeWhile_cons_of_neg hb]
        · intro x more heq
          obtain ⟨rfl, -⟩ := List.cons.inj heq
          simpa using hb

/-- A unit has room: it is written whole. -/
theorem emitUnit_eq {unit : Bytes} (hnul : ∀ x ∈ unit, x ≠ 0) (hle : unit.length ≤ 4) :
    emitUnit unit = Escaping.escape needsEscape 0x5C (Utf8.sanitise unit) := by
  have hample : 3 * unit.length ≤ sizeMax := by
    change _ ≤ 4294967295
    omega
  rw [emitUnit, escapedBytes_eq, cString_of_ne_zero hnul, sanitiseWithin_eq_sanitise hample]

theorem escapedBytes_lone : escapedBytes [0x80] sizeMax = Utf8.replacement :=
  (emitUnit_eq (by simp) (by simp)).trans (by decide +kernel)

theorem flushPendingIfHeld_eq (pending : Pending) :
    flushPendingIfHeld pending =
      ⟨Escaping.escape needsEscape 0x5C (interrupted pending), []⟩ := by
  cases pending with
  | nil => rfl
  | cons b rest =>
    rw [flushPendingIfHeld, if_pos (by simp), flushPendingAsReplacement,
      escapedBytes_lone, interrupted, if_neg nofun]
    rfl

theorem cString_eq_nil {rest : Bytes} : cString rest = [] ↔ charAt rest 0 = 0 := by
  cases rest with
  | nil => simp [cString, charAt]
  | cons x rest =>
    by_cases hx : x = 0
    · simp [cString, charAt, hx]
    · simp [cString_cons hx, charAt, hx]

theorem writeBody_of_nil {rest : Bytes} (h : cString rest = []) (pending : Pending) :
    writeBody pending rest = ⟨[], pending⟩ := by
  cases rest with
  | nil => rw [writeBody]
  | cons x rest =>
    have hx : x = 0 := cString_eq_nil.1 h
    rw [writeBody, if_pos hx]

/-- The first unit of a text is held where it is open and nothing follows it. -/
theorem writeBody_cons {b : UInt8} (hb : b ≠ 0) (pending : Pending) {tails rest : Bytes}
    (htaken : ((tails ++ rest).take (Utf8.leadLength b - 1)).takeWhile Utf8.isTail = tails) :
    writeBody pending (b :: (tails ++ rest)) =
      if (b :: tails).length < Utf8.leadLength b ∧ cString rest = [] then ⟨[], b :: tails⟩
      else ⟨emitUnit (b :: tails) ++ (writeBody pending rest).written,
        (writeBody pending rest).state⟩ := by
  have havail : 1 + tails.length = (b :: tails).length := by
    rw [List.length_cons, Nat.add_comm]
  rw [writeBody, if_neg hb]
  simp only [expectedLength_eq, continuations_eq, htaken, havail]
  rw [← List.cons_append, List.take_left, List.drop_left]
  have hnext : charAt (b :: tails ++ rest) (b :: tails).length = charAt rest 0 := by
    rw [charAt, List.getD_eq_getElem?_getD, List.getElem?_append_right le_rfl, Nat.sub_self,
      charAt, List.getD_eq_getElem?_getD]
  rw [hnext]
  by_cases hheld : (b :: tails).length < Utf8.leadLength b ∧ cString rest = []
  · rw [if_pos hheld, if_pos, writeBody_of_nil hheld.2]
    rw [cString_eq_nil] at hheld
    rwa [Bool.and_eq_true, decide_eq_true_eq, decide_eq_true_eq]
  · rw [if_neg hheld, if_neg]
    rw [cString_eq_nil] at hheld
    rwa [Bool.and_eq_true, decide_eq_true_eq, decide_eq_true_eq]

/-- The body of a chunk is the escape of its finished part, and its open part is held. -/
theorem writeBody_eq (pending : Pending) (source : Bytes) :
    writeBody pending source =
      ⟨Escaping.escape needsEscape 0x5C (Utf8.sanitise (Utf8.finished (cString source))),
        if Utf8.unfinished (cString source) = [] then pending
        else Utf8.unfinished (cString source)⟩ := by
  induction hlength : source.length using Nat.strong_induction_on generalizing source with
  | _ n ih =>
    cases source with
    | nil =>
      rw [writeBody_of_nil rfl]
      simp [cString, Utf8.finished, Utf8.unfinished]
    | cons b source =>
      by_cases hb : b = 0
      · have hnil : cString (b :: source) = [] := by simp [cString, hb]
        rw [writeBody_of_nil hnil, hnil]
        simp [Utf8.finished, Utf8.unfinished]
      · obtain ⟨tails, rest, htaken, rfl, htails, hle, hends⟩ :=
          continuations_spec (Utf8.leadLength b - 1) source
        have hpos := Utf8.leadLength_pos b
        have hmost := Utf8.leadLength_le b
        have hlong : (b :: tails).length ≤ Utf8.leadLength b := by
          rw [List.length_cons]
          omega
        have hnul : ∀ x ∈ b :: tails, x ≠ 0 := by
          intro x hx
          rcases List.mem_cons.1 hx with rfl | hx
          · exact hb
          · exact ne_zero_of_isTail (htails x hx)
        rw [writeBody_cons hb pending htaken, ← List.cons_append, cString_append hnul]
        by_cases hheld : (b :: tails).length < Utf8.leadLength b ∧ cString rest = []
        · have hopen : Utf8.IsOpen (b :: tails) := ⟨b, tails, rfl, hheld.1, htails⟩
          rw [if_pos hheld, hheld.2, List.append_nil, hopen.finished_eq, hopen.unfinished_eq,
            Utf8.sanitise_nil, Escaping.escape_nil, if_neg (by rintro ⟨⟩)]
        · rw [if_neg hheld]
          have hunit : Utf8.IsUnit (b :: tails) := ⟨b, tails, rfl, hlong, htails⟩
          have hnext : (∃ b' more, b :: tails = b' :: more ∧
              (b :: tails).length = Utf8.leadLength b') ∨
              ∃ x more, cString rest = x :: more ∧ Utf8.isTail x = false := by
            rw [List.length_cons] at *
            rcases hends with hwhole | hhead
            · exact .inl ⟨b, tails, rfl, by omega⟩
            · cases hrest : cString rest with
              | nil => exact .inl ⟨b, tails, rfl, by by_contra hne; exact hheld ⟨by omega, hrest⟩⟩
              | cons x more =>
                obtain ⟨more', hmore'⟩ := hrest ▸ cString_isPrefix rest
                exact .inr ⟨x, more, rfl, hhead x (more ++ more') hmore'.symm⟩
          have hsame := Utf8.unfinished_unit_append hunit (cString rest) hnext
          have hsanitise := Utf8.sanitise_unit_append hunit (Utf8.finished (cString rest)) (by
            rcases hnext with hwhole | ⟨x, more, hrest, hx⟩
            · exact .inl hwhole
            · right
              intro y more' hy
              have hwhole := Utf8.finished_append_unfinished (cString rest)
              rw [hy, hrest] at hwhole
              obtain ⟨rfl, -⟩ := List.cons.inj hwhole
              exact hx)
          rw [List.length_cons, List.length_append] at hlength
          rw [ih rest.length (by omega) rest rfl, hsame, Utf8.finished_unit_append hsame, hsanitise,
            Escaping.escape_append, emitUnit_eq hnul (by omega)]

/-! ## A write is the escape of its text -/

/-- A chunk after an open part: its tails go to the part first. -/
theorem drainPending_eq {lead : UInt8} {more source tails rest : Bytes}
    (htaken : (source.take (Utf8.leadLength lead - (lead :: more).length)).takeWhile Utf8.isTail =
      tails) (hsource : source = tails ++ rest) :
    drainPending (lead :: more) source =
      (if (lead :: more ++ tails).length = Utf8.leadLength lead then
          ⟨emitUnit (lead :: more ++ tails), []⟩
        else if cString rest = [] then ⟨[], lead :: more ++ tails⟩
        else ⟨Utf8.replacement, []⟩, tails.length) := by
  have hlone : flushPendingAsReplacement = ⟨Utf8.replacement, []⟩ := by
    rw [flushPendingAsReplacement, escapedBytes_lone]
  have hnext : charAt source tails.length = charAt rest 0 := by
    rw [hsource, charAt, List.getD_eq_getElem?_getD, List.getElem?_append_right le_rfl,
      Nat.sub_self, charAt, List.getD_eq_getElem?_getD]
  have hlead : charAt (lead :: more) 0 = lead := rfl
  rw [drainPending, if_pos (by simp), hlead]
  simp only [expectedLength_eq, continuations_eq, htaken, hnext, hlone, ne_eq, ← cString_eq_nil]
  split_ifs <;> rfl

theorem ite_eq_unfinished (text : Bytes) :
    (if Utf8.unfinished text = [] then [] else Utf8.unfinished text) = Utf8.unfinished text := by
  split
  · next hnone => exact hnone.symm
  · rfl

theorem tails_cString (most : Nat) (source : Bytes) :
    ((cString source).take most).takeWhile Utf8.isTail =
      (source.take most).takeWhile Utf8.isTail := by
  induction source generalizing most with
  | nil => rfl
  | cons b source ih =>
    cases most with
    | zero => rfl
    | succ most =>
      by_cases hb : b = 0
      · subst hb
        rw [List.take_succ_cons, List.takeWhile_cons_of_neg (by decide)]
        simp [cString]
      · rw [cString_cons hb, List.take_succ_cons, List.take_succ_cons, List.takeWhile_cons,
          List.takeWhile_cons, ih]

theorem not_special_uint32Bytes (value : Nat) : ∀ x ∈ uint32Bytes value, needsEscape x = false := by
  intro x hx
  have hdigit := isDigit_uint32Bytes value x hx
  rw [OctetCounting.isDigit, Bool.and_eq_true, decide_eq_true_eq, decide_eq_true_eq,
    UInt8.le_iff_toNat_le, UInt8.le_iff_toNat_le] at hdigit
  simp only [needsEscape, Bool.or_eq_false_iff, decide_eq_false_iff_not, ← UInt8.toNat_inj]
  simp only [UInt8.reduceToNat] at *
  omega

/-- Any write is the escape of its text, and holds what that leaves. -/
theorem perform_eq {pending : Pending} (h : Held pending) (write : SdWrite) :
    write.perform pending =
        ⟨Escaping.escape needsEscape 0x5C (write.text pending).1, (write.text pending).2⟩ ∧
      Held (write.text pending).2 := by
  cases write with
  | boundedString source maxDecodedLength =>
    refine ⟨?_, .inl rfl⟩
    rw [SdWrite.perform, flushPendingIfHeld_eq, escapedBytes_eq, SdWrite.text,
      Escaping.escape_append]
  | uint32 value =>
    refine ⟨?_, .inl rfl⟩
    have hplain : Escaping.escape needsEscape 0x5C (uint32Bytes value.toNat) = _ :=
      Escaping.escape_of_plain (not_special_uint32Bytes value.toNat)
    rw [SdWrite.perform, flushPendingIfHeld_eq, SdWrite.text, Escaping.escape_append, hplain]
  | string source =>
    rw [SdWrite.perform, SdWrite.text]
    rcases h with rfl | ⟨lead, more, rfl, hopen, htails⟩
    · have hnone : drainPending [] source = (⟨[], []⟩, 0) := rfl
      rw [hnone, List.drop_zero, writeBody_eq, ite_eq_unfinished, List.nil_append, streamed]
      exact ⟨rfl, Utf8.unfinished_cases _⟩
    · obtain ⟨tails, rest, htaken, hsource, htails', hle, -⟩ :=
        continuations_spec (Utf8.leadLength lead - (lead :: more).length) source
      have hmost := Utf8.leadLength_le lead
      have hjoined : (lead :: more ++ tails).length ≤ Utf8.leadLength lead := by
        rw [List.length_append]
        omega
      have hall : ∀ x ∈ more ++ tails, Utf8.isTail x = true := by
        intro x hx
        exact (List.mem_append.1 hx).elim (htails x) (htails' x)
      have hnul : ∀ x ∈ lead :: more ++ tails, x ≠ 0 := by
        intro x hx
        rcases List.mem_append.1 hx with hx | hx
        · exact ne_zero_of_isOpen ⟨lead, more, rfl, hopen, htails⟩ x hx
        · exact ne_zero_of_isTail (htails' x hx)
      have hchunk : cString source = tails ++ cString rest := by
        rw [hsource, cString_append fun x hx => ne_zero_of_isTail (htails' x hx)]
      have htext : streamed (lead :: more) (cString source) =
          if (lead :: more ++ tails).length = Utf8.leadLength lead then
            (Utf8.sanitise (lead :: more ++ tails) ++ Utf8.sanitise (Utf8.finished (cString rest)),
              Utf8.unfinished (cString rest))
          else if cString rest = [] then ([], lead :: more ++ tails)
          else (Utf8.replacement ++ Utf8.sanitise (Utf8.finished (cString rest)),
            Utf8.unfinished (cString rest)) := by
        rw [streamed]
        simp only [tails_cString, htaken]
        rw [hchunk, List.drop_left]
      rw [drainPending_eq htaken hsource, htext]
      dsimp only
      rw [hsource, List.drop_left]
      by_cases hwhole : (lead :: more ++ tails).length = Utf8.leadLength lead
      · rw [if_pos hwhole, if_pos hwhole, emitUnit_eq hnul (by omega), writeBody_eq,
          ite_eq_unfinished, Escaping.escape_append]
        exact ⟨rfl, Utf8.unfinished_cases _⟩
      · rw [if_neg hwhole, if_neg hwhole]
        by_cases hrest : cString rest = []
        · rw [if_pos hrest, if_pos hrest, writeBody_of_nil hrest]
          exact ⟨rfl, .inr ⟨lead, more ++ tails, rfl, hjoined.lt_of_ne hwhole, hall⟩⟩
        · rw [if_neg hrest, if_neg hrest, writeBody_eq, ite_eq_unfinished, Escaping.escape_append]
          exact ⟨rfl, Utf8.unfinished_cases _⟩

/-- So are all writes to a value and its close. -/
theorem valueBytes_eq {pending : Pending} (h : Held pending) (writes : List SdWrite) :
    valueBytes pending writes = Escaping.escape needsEscape 0x5C (valueText pending writes) := by
  induction writes generalizing pending with
  | nil =>
    rw [valueBytes, closeValue, flushPendingIfHeld_eq, valueText]
  | cons write writes ih =>
    obtain ⟨hperform, hheld⟩ := perform_eq h write
    rw [valueBytes, hperform, ih hheld, valueText, Escaping.escape_append]

/-! ## The text is well-formed -/

theorem wellFormed_interrupted (held : Bytes) : Utf8.WellFormed (interrupted held) := by
  unfold interrupted
  split
  · exact Utf8.wellFormed_nil
  · exact Utf8.wellFormed_char Utf8.isChar_replacement

theorem wellFormed_streamed (held chunk : Bytes) : Utf8.WellFormed (streamed held chunk).1 := by
  have hreplacement := Utf8.wellFormed_char Utf8.isChar_replacement
  unfold streamed
  split
  · exact Utf8.wellFormed_sanitise _
  · dsimp only
    split_ifs
    · exact (Utf8.wellFormed_sanitise _).append (Utf8.wellFormed_sanitise _)
    · exact Utf8.wellFormed_nil
    · exact hreplacement.append (Utf8.wellFormed_sanitise _)

theorem wellFormed_text (held : Bytes) (write : SdWrite) :
    Utf8.WellFormed (write.text held).1 := by
  cases write with
  | string source => exact wellFormed_streamed held _
  | boundedString source maxDecodedLength =>
    exact (wellFormed_interrupted held).append (wellFormed_sanitiseWithin _ _)
  | uint32 value =>
    refine (wellFormed_interrupted held).append (Utf8.wellFormed_of_ascii ?_)
    intro x hx
    have hdigit := isDigit_uint32Bytes value.toNat x hx
    rw [OctetCounting.isDigit, Bool.and_eq_true, decide_eq_true_eq, decide_eq_true_eq] at hdigit
    exact UInt8.le_trans hdigit.2 (by decide)

theorem wellFormed_valueText (held : Bytes) (writes : List SdWrite) :
    Utf8.WellFormed (valueText held writes) := by
  induction writes generalizing held with
  | nil => exact wellFormed_interrupted held
  | cons write writes ih => exact (wellFormed_text held write).append (ih _)

/-! ## The special characters -/

/-- The special characters of a text. -/
def specials (text : Bytes) : Bytes :=
  text.filter needsEscape

/-- The special characters a write is given and has room for. -/
def SdWrite.specials : SdWrite → Bytes
  | string source => Format.specials (cString source)
  | boundedString source maxDecodedLength =>
    Format.specials (sanitiseWithin (cString source) maxDecodedLength)
  | uint32 _ => []

theorem specials_append (text text' : Bytes) :
    specials (text ++ text') = specials text ++ specials text' :=
  List.filter_append _ _

theorem specials_of_plain {text : Bytes} (h : ∀ x ∈ text, needsEscape x = false) :
    specials text = [] := by
  rw [specials, List.filter_eq_nil_iff]
  intro x hx
  simp [h x hx]

theorem not_special_of_high {x : UInt8} (h : 0x80 ≤ x.toNat) : needsEscape x = false := by
  simp only [needsEscape, Bool.or_eq_false_iff, decide_eq_false_iff_not, ← UInt8.toNat_inj,
    UInt8.reduceToNat]
  omega

theorem not_special_of_isOpen {part : Bytes} (h : Utf8.IsOpen part) :
    ∀ x ∈ part, needsEscape x = false := by
  obtain ⟨lead, more, rfl, hlt, htails⟩ := h
  intro x hx
  apply not_special_of_high
  rcases List.mem_cons.1 hx with rfl | hx
  · by_contra hlow
    have hone := Utf8.leadLength_of_ascii (b := x) (by
      rw [UInt8.le_iff_toNat_le]
      change x.toNat ≤ 0x7F
      omega)
    rw [List.length_cons] at hlt
    omega
  · exact (Utf8.isTail_iff.1 (htails x hx)).1

/-- A byte that belongs to no character is not special. -/
theorem not_special_of_none {b : UInt8} {rest : Bytes} (h : Utf8.charLength (b :: rest) = 0) :
    needsEscape b = false := by
  by_contra hspecial
  rw [Bool.not_eq_false] at hspecial
  rw [charLength_of_needsEscape hspecial] at h
  cases h

theorem specials_sanitise (text : Bytes) : specials (Utf8.sanitise text) = specials text := by
  induction hlength : text.length using Nat.strong_induction_on generalizing text with
  | _ n ih =>
    cases text with
    | nil => rw [Utf8.sanitise_nil]
    | cons b rest =>
      rcases Utf8.head_cases b rest with ⟨c, more, hc, htext⟩ | hnone
      · rw [htext] at hlength ⊢
        have hpos := (Utf8.isChar_length hc).1
        rw [List.length_append] at hlength
        rw [Utf8.sanitise_char_append hc, specials_append, specials_append,
          ih more.length (by omega) more rfl]
      · rw [List.length_cons] at hlength
        rw [Utf8.sanitise_cons_of_none hnone, specials_append, ih rest.length (by omega) rest rfl]
        change specials rest = (b :: rest).filter needsEscape
        rw [List.filter_cons_of_neg (by simp [not_special_of_none hnone])]
        rfl

theorem specials_finished (text : Bytes) :
    specials (Utf8.finished text) = specials text := by
  have hopen : specials (Utf8.unfinished text) = [] := by
    rcases Utf8.unfinished_cases text with hnone | hopen
    · rw [hnone]
      rfl
    · exact specials_of_plain (not_special_of_isOpen hopen)
  conv_rhs => rw [← Utf8.finished_append_unfinished text]
  rw [specials_append, hopen, List.append_nil]

theorem specials_interrupted (held : Bytes) : specials (interrupted held) = [] := by
  unfold interrupted
  split
  · rfl
  · rfl

/-- No special character is lost or added, however the chunks are cut. -/
theorem specials_text {held : Bytes} (h : Held held) (write : SdWrite) :
    specials (write.text held).1 = write.specials := by
  cases write with
  | boundedString source maxDecodedLength =>
    rw [SdWrite.text, specials_append, specials_interrupted]
    rfl
  | uint32 value =>
    rw [SdWrite.text, specials_append, specials_interrupted,
      specials_of_plain (not_special_uint32Bytes _)]
    rfl
  | string source =>
    rw [SdWrite.text, SdWrite.specials]
    rcases h with rfl | ⟨lead, more, rfl, hopen, htails⟩
    · rw [streamed, specials_sanitise, specials_finished]
    · obtain ⟨tails, rest, htaken, hchunk, htails', -⟩ :=
        continuations_spec (Utf8.leadLength lead - (lead :: more).length) (cString source)
      have hheld : specials (lead :: more) = [] :=
        specials_of_plain (not_special_of_isOpen ⟨lead, more, rfl, hopen, htails⟩)
      have htailsPlain : specials tails = [] :=
        specials_of_plain fun x hx => not_special_of_high (Utf8.isTail_iff.1 (htails' x hx)).1
      have hreplacement : specials Utf8.replacement = [] := rfl
      rw [streamed]
      simp only [htaken]
      rw [hchunk, List.drop_left, specials_append, htailsPlain, List.nil_append]
      split_ifs with hwhole hrest
      · rw [specials_append, specials_sanitise, specials_sanitise, specials_finished,
          specials_append, hheld, htailsPlain]
        rfl
      · rw [hrest]
      · rw [specials_append, specials_sanitise, specials_finished, hreplacement, List.nil_append]

theorem specials_valueText {held : Bytes} (h : Held held) (writes : List SdWrite) :
    specials (valueText held writes) = writes.flatMap SdWrite.specials := by
  induction writes generalizing held with
  | nil => exact specials_interrupted held
  | cons write writes ih =>
    rw [valueText, specials_append, specials_text h, ih (perform_eq h write).2, List.flatMap_cons]

/-! ## Chunks of one text -/

/-- A chunk of a well-formed text is added to it, but for the open part at its end. -/
theorem streamed_of_wellFormed {held chunk rest : Bytes} (h : Held held)
    (hwell : Utf8.WellFormed (held ++ (chunk ++ rest))) :
    (streamed held chunk).1 ++ (streamed held chunk).2 = held ++ chunk ∧
      Utf8.WellFormed ((streamed held chunk).2 ++ rest) := by
  rcases h with rfl | ⟨lead, more, rfl, hopen, htails⟩
  · rw [List.nil_append] at hwell
    obtain ⟨hfinished, hunfinished⟩ := hwell.finished_append
    rw [streamed, Utf8.sanitise_of_wellFormed hfinished, Utf8.finished_append_unfinished]
    exact ⟨rfl, hunfinished⟩
  · obtain ⟨tails, after, htaken, rfl, htails', hle, hends⟩ :=
      continuations_spec (Utf8.leadLength lead - (lead :: more).length) chunk
    obtain ⟨c, later, hc, htext, hclength⟩ := hwell.head
    have hjoinedPre : lead :: more ++ tails <+: lead :: more ++ (tails ++ after ++ rest) := by
      rw [List.prefix_append_right_inj, List.append_assoc]
      exact List.prefix_append _ _
    rw [streamed]
    simp only [htaken]
    rw [List.drop_left]
    by_cases hwhole : (lead :: more ++ tails).length = Utf8.leadLength lead
    · -- the part is completed: it is the character the text begins with
      have hsame : lead :: more ++ tails = c :=
        (List.prefix_of_prefix_length_le hjoinedPre ⟨_, htext.symm⟩ (by omega)).eq_of_length
          (by omega)
      have hsanitise := Utf8.sanitise_of_wellFormed (Utf8.wellFormed_char hc)
      have hafter : Utf8.WellFormed (after ++ rest) := by
        apply Utf8.WellFormed.cancel hc
        rw [← hsame]
        simpa using hwell
      obtain ⟨hfinished, hunfinished⟩ := hafter.finished_append
      rw [if_pos hwhole, hsame, hsanitise, Utf8.sanitise_of_wellFormed hfinished,
        List.append_assoc, Utf8.finished_append_unfinished, ← hsame, List.append_assoc]
      exact ⟨rfl, hunfinished⟩
    · rw [if_neg hwhole]
      have hshort : (lead :: more ++ tails).length < c.length := by
        rw [List.length_append] at *
        omega
      cases after with
      | nil =>
        rw [if_pos rfl, List.nil_append, List.append_nil]
        exact ⟨rfl, by simpa using hwell⟩
      | cons x after =>
        -- it is not, although a byte follows: that byte belongs to the same character
        exfalso
        have hnext : lead :: more ++ tails ++ [x] <+: c ++ later := by
          rw [← htext]
          exact ⟨after ++ rest, by simp⟩
        have hinside : lead :: more ++ tails ++ [x] <+: c := by
          apply List.prefix_of_prefix_length_le hnext (List.prefix_append _ _)
          rw [List.length_append, List.length_singleton]
          omega
        have hx : Utf8.isTail x = true := by
          obtain ⟨z, hz⟩ := hinside
          have hchar : Utf8.isChar (lead :: (more ++ tails ++ [x] ++ z)) = true := by
            rw [← hc, ← hz]
            simp
          exact (Utf8.isChar_cons hchar).2 x (by simp)
        rcases hends with hmost | hhead
        · rw [List.length_append] at hwhole
          omega
        · rw [hhead x after rfl] at hx
          cases hx

/-- The chunks of a well-formed text add up to it. -/
theorem valueText_chunks {held : Bytes} {chunks : List Bytes} (h : Held held)
    (hwell : Utf8.WellFormed (held ++ chunks.flatten)) (hnul : ∀ x ∈ chunks.flatten, x ≠ 0) :
    valueText held (chunks.map .string) = held ++ chunks.flatten := by
  induction chunks generalizing held with
  | nil =>
    rw [List.flatten_nil, List.append_nil] at hwell
    rcases h with rfl | hopen
    · rfl
    · exact absurd hwell hopen.not_wellFormed
  | cons chunk chunks ih =>
    rw [List.flatten_cons] at *
    have hrest : ∀ x ∈ chunks.flatten, x ≠ 0 := fun x hx => hnul x (List.mem_append_right _ hx)
    have hchunk : cString chunk = chunk :=
      cString_of_ne_zero fun x hx => hnul x (List.mem_append_left _ hx)
    obtain ⟨hsum, hrestWell⟩ := streamed_of_wellFormed h hwell
    have hheld := (perform_eq h (.string chunk)).2
    rw [SdWrite.text, hchunk] at hheld
    rw [List.map_cons, valueText, SdWrite.text, hchunk, ih hheld hrestWell hrest,
      ← List.append_assoc, hsum, List.append_assoc]

/-- Where the chunks of a text are cut does not show, and whatever is written to a value, it is the
escape of well-formed text with the special characters it was given. -/
theorem value_writes :
    (∀ chunks : List Bytes, Utf8.WellFormed chunks.flatten → (∀ x ∈ chunks.flatten, x ≠ 0) →
      valueBytes [] (chunks.map .string) = valueBytes [] [.string chunks.flatten]) ∧
    ∀ writes : List SdWrite, ∃ text,
      valueBytes [] writes = Escaping.escape needsEscape 0x5C text ∧
      Utf8.WellFormed text ∧ Utf8.WellFormed (valueBytes [] writes) ∧
      text.filter needsEscape = writes.flatMap SdWrite.specials := by
  have hnone : Held [] := .inl rfl
  constructor
  · intro chunks hwell hnul
    have hone : valueText [] ([chunks.flatten].map .string) = [] ++ [chunks.flatten].flatten :=
      valueText_chunks hnone (by simpa using hwell) (by simpa using hnul)
    rw [List.map_singleton] at hone
    rw [valueBytes_eq hnone, valueBytes_eq hnone, valueText_chunks hnone hwell hnul, hone]
    simp
  · intro writes
    have hwell := wellFormed_valueText [] writes
    refine ⟨_, valueBytes_eq hnone writes, hwell, ?_, specials_valueText hnone writes⟩
    rw [valueBytes_eq hnone]
    exact wellFormed_escape hwell

end SolidSyslog.Format
