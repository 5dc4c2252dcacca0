import SolidSyslog.Format.Reads
import SolidSyslog.Format.StructuredData

/-!
# Bounded values

What a bounded value decodes to is the longest whole text its bound allows, unless a character of
four bytes begins three bytes before the bound: U+FFFD fits there, and takes its place.
-/

namespace SolidSyslog.Format

open Lib

variable {source whole rest c : Bytes} {maxDecodedLength : Nat}

/-- The longest text of whole characters that a text begins with and that has no more than that many
bytes. -/
structure LongestWhole (source : Bytes) (most : Nat) (text : Bytes) : Prop where
  isPrefix : text <+: source
  whole : Utf8.WellFormed text
  fits : text.length ≤ most
  longest : ∀ text', text' <+: source → Utf8.WellFormed text' → text'.length ≤ most →
    text'.length ≤ text.length

/-- No character of four bytes begins three bytes before the bound. -/
def NoneCutAfterThree (source : Bytes) (maxDecodedLength : Nat) : Prop :=
  ∀ whole c rest, source = whole ++ c ++ rest → Utf8.WellFormed whole → Utf8.isChar c = true →
    c.length = 4 → whole.length + 3 ≠ maxDecodedLength

/-- A whole text that begins like another one, and is not empty, has its first character. -/
theorem first_char_isPrefix {text : Bytes} (hc : Utf8.isChar c = true)
    (htext : Utf8.WellFormed text) (hsome : text ≠ []) (hpre : text <+: c ++ rest) :
    ∃ text', text = c ++ text' ∧ Utf8.WellFormed text' ∧ text' <+: rest := by
  obtain ⟨chars, hchars, rfl⟩ := htext
  cases chars with
  | nil => exact absurd rfl hsome
  | cons c' chars =>
    have hc' := hchars c' List.mem_cons_self
    rw [List.flatten_cons] at hpre
    have hboth := (List.prefix_append c' chars.flatten).trans hpre
    have hlength := Utf8.charLength_of_isPrefix hc' hboth
    rw [Utf8.charLength_append hc] at hlength
    have hsame : c' = c :=
      (List.prefix_of_prefix_length_le hboth (List.prefix_append _ _) hlength.ge).eq_of_length
        hlength.symm
    subst hsame
    rw [List.prefix_append_right_inj] at hpre
    exact ⟨chars.flatten, rfl, ⟨chars, fun d hd => hchars d (List.mem_cons_of_mem _ hd), rfl⟩, hpre⟩

theorem longestWhole_char {most : Nat} {text : Bytes} (hc : Utf8.isChar c = true)
    (hle : c.length ≤ most) (h : LongestWhole rest (most - c.length) text) :
    LongestWhole (c ++ rest) most (c ++ text) := by
  refine ⟨?_, (Utf8.wellFormed_char hc).append h.whole, ?_, ?_⟩
  · rw [List.prefix_append_right_inj]
    exact h.isPrefix
  · have hfits := h.fits
    rw [List.length_append]
    omega
  · intro text' hpre htext' hfits'
    by_cases hsome : text' = []
    · rw [hsome]
      exact Nat.zero_le _
    · obtain ⟨more, rfl, hmore, hmorePre⟩ := first_char_isPrefix hc htext' hsome hpre
      rw [List.length_append] at *
      have hlongest := h.longest more hmorePre hmore (by omega)
      rw [List.length_append]
      omega

/-- Where the first character does not fit, nothing whole does. -/
theorem longestWhole_nil {most : Nat} (hc : Utf8.isChar c = true) (hlt : most < c.length) :
    LongestWhole (c ++ rest) most [] := by
  refine ⟨List.nil_prefix, Utf8.wellFormed_nil, Nat.zero_le _, ?_⟩
  intro text' hpre htext' hfits'
  by_cases hsome : text' = []
  · rw [hsome]
  · obtain ⟨more, rfl, -, -⟩ := first_char_isPrefix hc htext' hsome hpre
    rw [List.length_append] at hfits'
    omega

theorem sanitiseWithin_too_long {budget : Nat} (hc : Utf8.isChar c = true)
    (hlt : budget < c.length) : sanitiseWithin (c ++ rest) budget =
      if 3 ≤ budget then Utf8.replacement ++ sanitiseWithin ((c ++ rest).tail) (budget - 3)
      else [] := by
  match c, hc with
  | b :: more, hc =>
    have hlength := Utf8.charLength_append hc rest
    rw [List.cons_append] at *
    apply sanitiseWithin_of_not_fits
    rw [codepointFits_iff, hlength]
    omega

/-- Whole characters come first, as far as they fit. -/
theorem sanitiseWithin_whole {budget : Nat} (h : Utf8.WellFormed whole)
    (hle : whole.length ≤ budget) (rest : Bytes) :
    sanitiseWithin (whole ++ rest) budget =
      whole ++ sanitiseWithin rest (budget - whole.length) := by
  obtain ⟨chars, hchars, rfl⟩ := h
  induction chars generalizing budget with
  | nil => rfl
  | cons c chars ih =>
    rw [List.flatten_cons, List.length_append] at *
    rw [List.append_assoc, sanitiseWithin_char (hchars c List.mem_cons_self) (by omega),
      ih (fun d hd => hchars d (List.mem_cons_of_mem _ hd)) (by omega), List.append_assoc,
      Nat.sub_sub]

/-- Where no character is cut after three bytes, what is kept is the longest whole text. -/
theorem longestWhole_sanitiseWithin (hsource : Utf8.WellFormed source)
    (h : NoneCutAfterThree source maxDecodedLength) :
    LongestWhole source maxDecodedLength (sanitiseWithin source maxDecodedLength) := by
  obtain ⟨chars, hchars, rfl⟩ := hsource
  induction chars generalizing maxDecodedLength with
  | nil =>
    rw [List.flatten_nil, sanitiseWithin]
    refine ⟨List.prefix_rfl, Utf8.wellFormed_nil, Nat.zero_le _, ?_⟩
    intro text' hpre
    rw [List.prefix_nil.1 hpre]
    exact fun _ _ => le_rfl
  | cons c chars ih =>
    have hc := hchars c List.mem_cons_self
    have hlength := Utf8.isChar_length hc
    rw [List.flatten_cons] at *
    by_cases hle : c.length ≤ maxDecodedLength
    · rw [sanitiseWithin_char hc hle]
      apply longestWhole_char hc hle
      apply ih fun d hd => hchars d (List.mem_cons_of_mem _ hd)
      intro whole d rest hrest hwhole hd hfour
      have hlater := h (c ++ whole) d rest (by rw [hrest]; simp)
        ((Utf8.wellFormed_char hc).append hwhole) hd hfour
      rw [List.length_append] at hlater
      omega
    · have hfirst := h [] c chars.flatten rfl Utf8.wellFormed_nil hc
      rw [List.length_nil] at hfirst
      rw [sanitiseWithin_too_long hc (by omega), if_neg (by omega)]
      exact longestWhole_nil hc (by omega)

/-- Where one is, U+FFFD stands where it began. -/
theorem sanitiseWithin_cut (hwhole : Utf8.WellFormed whole) (hc : Utf8.isChar c = true)
    (hfour : c.length = 4) :
    sanitiseWithin (whole ++ c ++ rest) (whole.length + 3) = whole ++ Utf8.replacement := by
  have hnone : ∀ text, sanitiseWithin text 0 = [] := by
    intro text
    exact List.length_eq_zero_iff.1 (Nat.le_zero.1 (sanitiseWithin_length text 0))
  rw [List.append_assoc, sanitiseWithin_whole hwhole (by omega), Nat.add_sub_cancel_left,
    sanitiseWithin_too_long hc (by omega), if_pos le_rfl, hnone, List.append_nil]

/-- No character of four bytes begins like U+FFFD. -/
theorem not_replacement_isPrefix (hc : Utf8.isChar c = true) (hfour : c.length = 4) :
    ¬ Utf8.replacement <+: c ++ rest := by
  intro hpre
  have hlength := Utf8.charLength_of_isPrefix Utf8.isChar_replacement hpre
  rw [Utf8.charLength_append hc, hfour] at hlength
  cases hlength

/-- A bounded value decodes to the longest whole text within its bound just where no character of
four bytes begins three bytes before it. -/
theorem bounded_value_longest_iff (f : Formatter) (hsource : Utf8.WellFormed source)
    (hnul : ∀ x ∈ source, x ≠ 0) :
    let written := escapedBytes source maxDecodedLength
    f.escapedString source maxDecodedLength = f.writeBytes written ∧
      (SdWrite.perform [] (.boundedString source maxDecodedLength)).written = written ∧
      ((∃ text, Escaping.readQuoted needsEscape 0x5C 0x22 (written ++ [0x22]) = some (text, []) ∧
          LongestWhole source maxDecodedLength text) ↔
        NoneCutAfterThree source maxDecodedLength) := by
  intro written
  have hwritten : written =
      Escaping.escape needsEscape 0x5C (sanitiseWithin source maxDecodedLength) := by
    have htext := escapedBytes_eq source maxDecodedLength
    rwa [cString_of_ne_zero hnul] at htext
  refine ⟨rfl, rfl, ?_⟩
  rw [hwritten, readQuoted_escaped]
  constructor
  · rintro ⟨text, htext, hlongest⟩ whole c rest rfl hwhole hc hfour rfl
    obtain ⟨rfl, -⟩ := Prod.mk.inj (Option.some.inj htext)
    have hpre := hlongest.isPrefix
    rw [sanitiseWithin_cut hwhole hc hfour, List.append_assoc, List.prefix_append_right_inj] at hpre
    exact not_replacement_isPrefix hc hfour hpre
  · intro h
    exact ⟨_, rfl, longestWhole_sanitiseWithin hsource h⟩

/-- The accented letter fits, and the face behind it is cut before its first byte. -/
theorem bounded_value_longest_face : ∃ text,
    Escaping.readQuoted needsEscape 0x5C 0x22
      (escapedBytes [0xC3, 0xA9, 0xF0, 0x9F, 0x98, 0x80] 4 ++ [0x22]) = some (text, []) ∧
    LongestWhole [0xC3, 0xA9, 0xF0, 0x9F, 0x98, 0x80] 4 text := by
  refine (bounded_value_longest_iff (.create 64) (by decide +kernel) (by simp)).2.2.2 ?_
  intro whole c rest hsource hwhole hc hfour hthree
  have hlength := congrArg List.length hsource
  simp only [List.length_append, List.length_cons, List.length_nil, hfour] at hlength
  have hone : whole = [0xC3] := by
    have htake := congrArg (List.take 1) hsource
    rw [List.append_assoc, List.take_append_of_le_length (by omega),
      List.take_of_length_le (l := whole) (by omega)] at htake
    exact htake.symm
  rw [hone] at hwhole
  exact absurd hwhole (by decide +kernel)

/-- With three bytes for it, the face becomes U+FFFD. -/
theorem bounded_value_replaced :
    ¬ ∀ source maxDecodedLength, Utf8.WellFormed source → (∀ x ∈ source, x ≠ 0) →
      ∃ text, Escaping.readQuoted needsEscape 0x5C 0x22
          ((SdWrite.perform [] (.boundedString source maxDecodedLength)).written ++ [0x22]) =
            some (text, []) ∧
        LongestWhole source maxDecodedLength text := by
  intro h
  obtain ⟨text, htext, hlongest⟩ :=
    h [0xF0, 0x9F, 0x98, 0x80] 3 (by decide +kernel) (by simp)
  have hread : Escaping.readQuoted needsEscape 0x5C 0x22
      ((SdWrite.perform [] (.boundedString [0xF0, 0x9F, 0x98, 0x80] 3)).written ++ [0x22]) =
        some (Utf8.replacement, []) := by
    decide +kernel
  rw [hread] at htext
  obtain ⟨rfl, -⟩ := Prod.mk.inj (Option.some.inj htext)
  exact absurd hlongest.isPrefix (by decide)

end SolidSyslog.Format
