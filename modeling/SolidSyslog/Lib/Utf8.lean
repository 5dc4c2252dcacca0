import Mathlib.Data.List.Induction
import Mathlib.Data.List.TakeDrop
import Mathlib.Tactic.Common
import Mathlib.Tactic.IntervalCases

/-!
# UTF-8

The octet sequences of RFC 3629 section 4, the text of any byte string with each byte that belongs
to no character replaced by U+FFFD (`sanitise`), and what a cut leaves of a well-formed text.
-/

namespace SolidSyslog.Lib.Utf8

/-! ## Characters -/

/-- `UTF8-tail`. -/
def isTail (b : UInt8) : Bool :=
  0x80 ≤ b && b ≤ 0xBF

/-- `UTF8-char`. -/
def isChar : List UInt8 → Bool
  | [a] => a ≤ 0x7F
  | [a, b] => 0xC2 ≤ a && a ≤ 0xDF && isTail b
  | [a, b, c] =>
    (a = 0xE0 && 0xA0 ≤ b && b ≤ 0xBF || 0xE1 ≤ a && a ≤ 0xEC && isTail b ||
      a = 0xED && 0x80 ≤ b && b ≤ 0x9F || 0xEE ≤ a && a ≤ 0xEF && isTail b) && isTail c
  | [a, b, c, d] =>
    (a = 0xF0 && 0x90 ≤ b && b ≤ 0xBF || 0xF1 ≤ a && a ≤ 0xF3 && isTail b ||
      a = 0xF4 && 0x80 ≤ b && b ≤ 0x8F) && isTail c && isTail d
  | _ => false

/-- The bytes a character has, to judge by its first. -/
def leadLength (b : UInt8) : Nat :=
  if 0xC0 ≤ b && b ≤ 0xDF then 2
  else if 0xE0 ≤ b && b ≤ 0xEF then 3
  else if 0xF0 ≤ b && b ≤ 0xF7 then 4
  else 1

variable {c text rest whole part : List UInt8} {b : UInt8} {k : Nat}

theorem leadLength_pos (b : UInt8) : 0 < leadLength b := by
  unfold leadLength
  split_ifs <;> decide

theorem leadLength_le (b : UInt8) : leadLength b ≤ 4 := by
  unfold leadLength
  split_ifs <;> decide

/-- Bounds on a byte, as bounds on its value. -/
theorem le_and_le {low high : UInt8} :
    (low ≤ b && b ≤ high) = true ↔ low.toNat ≤ b.toNat ∧ b.toNat ≤ high.toNat := by
  simp only [Bool.and_eq_true, decide_eq_true_eq, UInt8.le_iff_toNat_le]

theorem isTail_iff : isTail b = true ↔ 0x80 ≤ b.toNat ∧ b.toNat ≤ 0xBF :=
  le_and_le

theorem leadLength_eq (b : UInt8) : leadLength b =
    if 0xC0 ≤ b.toNat ∧ b.toNat ≤ 0xDF then 2
    else if 0xE0 ≤ b.toNat ∧ b.toNat ≤ 0xEF then 3
    else if 0xF0 ≤ b.toNat ∧ b.toNat ≤ 0xF7 then 4
    else 1 := by
  simp only [leadLength, le_and_le]
  rfl

theorem leadLength_of_tail (h : isTail b = true) : leadLength b = 1 := by
  rw [isTail_iff] at h
  rw [leadLength_eq, if_neg (by omega), if_neg (by omega), if_neg (by omega)]

theorem leadLength_of_ascii (h : b ≤ 0x7F) : leadLength b = 1 := by
  rw [UInt8.le_iff_toNat_le] at h
  change b.toNat ≤ 0x7F at h
  rw [leadLength_eq, if_neg (by omega), if_neg (by omega), if_neg (by omega)]

theorem isChar_one {a : UInt8} : isChar [a] = true ↔ a.toNat ≤ 0x7F := by
  simp only [isChar, decide_eq_true_eq, UInt8.le_iff_toNat_le]
  rfl

theorem isChar_two {a b : UInt8} :
    isChar [a, b] = true ↔ (0xC2 ≤ a.toNat ∧ a.toNat ≤ 0xDF) ∧ isTail b = true := by
  rw [isChar, Bool.and_eq_true, le_and_le]
  rfl

theorem isChar_three {a b c : UInt8} : isChar [a, b, c] = true ↔
    (0xE0 ≤ a.toNat ∧ a.toNat ≤ 0xEF) ∧ isTail b = true ∧ isTail c = true ∧
      (a.toNat = 0xE0 → 0xA0 ≤ b.toNat) ∧ (a.toNat = 0xED → b.toNat ≤ 0x9F) := by
  simp only [isChar, isTail_iff, Bool.and_eq_true, Bool.or_eq_true, decide_eq_true_eq,
    UInt8.le_iff_toNat_le, ← UInt8.toNat_inj, UInt8.reduceToNat]
  omega

theorem isChar_four {a b c d : UInt8} : isChar [a, b, c, d] = true ↔
    (0xF0 ≤ a.toNat ∧ a.toNat ≤ 0xF4) ∧ isTail b = true ∧ isTail c = true ∧ isTail d = true ∧
      (a.toNat = 0xF0 → 0x90 ≤ b.toNat) ∧ (a.toNat = 0xF4 → b.toNat ≤ 0x8F) := by
  simp only [isChar, isTail_iff, Bool.and_eq_true, Bool.or_eq_true, decide_eq_true_eq,
    UInt8.le_iff_toNat_le, ← UInt8.toNat_inj, UInt8.reduceToNat]
  omega

/-- A character is a byte that says how many follow, and they do. -/
theorem isChar_cons (h : isChar (b :: rest) = true) :
    rest.length + 1 = leadLength b ∧ ∀ x ∈ rest, isTail x = true := by
  match rest, h with
  | [], h =>
    rw [isChar_one] at h
    refine ⟨?_, nofun⟩
    rw [leadLength_eq, if_neg (by omega), if_neg (by omega), if_neg (by omega)]
    rfl
  | [x], h =>
    obtain ⟨hb, hx⟩ := isChar_two.1 h
    refine ⟨?_, by simpa using hx⟩
    rw [leadLength_eq, if_pos (by omega)]
    rfl
  | [x, y], h =>
    obtain ⟨hb, hx, hy, -⟩ := isChar_three.1 h
    refine ⟨?_, by simp [hx, hy]⟩
    rw [leadLength_eq, if_neg (by omega), if_pos (by omega)]
    rfl
  | [x, y, z], h =>
    obtain ⟨hb, hx, hy, hz, -⟩ := isChar_four.1 h
    refine ⟨?_, by simp [hx, hy, hz]⟩
    rw [leadLength_eq, if_neg (by omega), if_neg (by omega), if_pos (by omega)]
    rfl
  | _ :: _ :: _ :: _ :: _, h => cases h

theorem isChar_length (h : isChar c = true) : 0 < c.length ∧ c.length ≤ 4 := by
  match c, h with
  | b :: rest, h =>
    have hlength := (isChar_cons h).1
    have hle := leadLength_le b
    simp only [List.length_cons]
    omega

/-- No character is the beginning of another. -/
theorem isChar_take (h : isChar c = true) {k : Nat} (hk : k < c.length) :
    isChar (c.take k) = false := by
  match c, k, h with
  | _, 0, _ => rfl
  | b :: rest, k + 1, h =>
    by_contra hchar
    have hcut := (isChar_cons (Bool.eq_true_of_not_eq_false hchar)).1
    have hwhole := (isChar_cons h).1
    rw [List.length_cons] at hk
    rw [List.length_take_of_le (by omega)] at hcut
    omega

/-! ## The character at the head -/

/-- The length of the character a byte string starts with, zero if it starts with none. -/
def charLength (text : List UInt8) : Nat :=
  if isChar (text.take 1) then 1
  else if isChar (text.take 2) then 2
  else if isChar (text.take 3) then 3
  else if isChar (text.take 4) then 4
  else 0

@[simp] theorem charLength_nil : charLength [] = 0 :=
  rfl

/-- The character at the head, if there is one. -/
theorem charLength_spec (h : 0 < charLength text) : isChar (text.take (charLength text)) = true ∧
    (text.take (charLength text)).length = charLength text := by
  have hshort : ∀ k, (∀ j < k, isChar (text.take j) = false) → isChar (text.take k) = true →
      isChar (text.take k) = true ∧ (text.take k).length = k := by
    intro k hbefore hchar
    refine ⟨hchar, List.length_take_of_le ?_⟩
    by_contra hlong
    have hwhole := hbefore text.length (by omega)
    rw [List.take_of_length_le (by omega)] at hchar
    rw [List.take_length, hchar] at hwhole
    cases hwhole
  have hzero : isChar (text.take 0) = false := rfl
  unfold charLength at *
  split_ifs at * with h₁ h₂ h₃ h₄
  · apply hshort 1 _ h₁
    intro j hj
    interval_cases j
    exact hzero
  · apply hshort 2 _ h₂
    intro j hj
    interval_cases j <;> simp_all
  · apply hshort 3 _ h₃
    intro j hj
    interval_cases j <;> simp_all
  · apply hshort 4 _ h₄
    intro j hj
    interval_cases j <;> simp_all
  · exact absurd h (lt_irrefl 0)

theorem charLength_append (h : isChar c = true) (rest : List UInt8) :
    charLength (c ++ rest) = c.length := by
  have hbefore : ∀ k < c.length, isChar ((c ++ rest).take k) = false := by
    intro k hk
    rw [List.take_append_of_le_length hk.le]
    exact isChar_take h hk
  have hat : isChar ((c ++ rest).take c.length) = true := by
    rw [List.take_left]
    exact h
  obtain ⟨hpos, hle⟩ := isChar_length h
  unfold charLength
  generalize c.length = n at *
  interval_cases n <;> simp_all

theorem charLength_le (text : List UInt8) : charLength text ≤ text.length := by
  by_cases h : 0 < charLength text
  · have hlength := (charLength_spec h).2
    rw [List.length_take] at hlength
    omega
  · omega

/-- Where no character is a prefix there is none at the head. -/
theorem charLength_eq_zero (h : ∀ c, isChar c = true → ¬ c <+: text) : charLength text = 0 := by
  by_contra hpos
  exact h _ (charLength_spec (by omega)).1 (List.take_prefix _ _)

theorem charLength_of_isPrefix (h : isChar c = true) (hpre : c <+: text) :
    charLength text = c.length := by
  obtain ⟨more, rfl⟩ := hpre
  exact charLength_append h more

/-! ## Well-formed text -/

/-- `UTF8-octets`. -/
def WellFormed (text : List UInt8) : Prop :=
  ∃ chars : List (List UInt8), (∀ c ∈ chars, isChar c = true) ∧ chars.flatten = text

theorem wellFormed_nil : WellFormed [] :=
  ⟨[], nofun, rfl⟩

theorem wellFormed_char (h : isChar c = true) : WellFormed c :=
  ⟨[c], by simpa using h, by simp⟩

theorem WellFormed.append {t t' : List UInt8} (h : WellFormed t) (h' : WellFormed t') :
    WellFormed (t ++ t') := by
  obtain ⟨chars, hchars, rfl⟩ := h
  obtain ⟨chars', hchars', rfl⟩ := h'
  refine ⟨chars ++ chars', ?_, List.flatten_append⟩
  intro c hc
  rcases List.mem_append.1 hc with hc | hc
  · exact hchars c hc
  · exact hchars' c hc

theorem wellFormed_of_ascii (h : ∀ x ∈ text, x ≤ 0x7F) : WellFormed text := by
  induction text with
  | nil => exact wellFormed_nil
  | cons b rest ih =>
    have hb : isChar [b] = true := by
      simpa [isChar] using h b List.mem_cons_self
    exact (wellFormed_char hb).append (ih fun x hx => h x (List.mem_cons_of_mem _ hx))

/-! ## Sanitising -/

/-- U+FFFD. -/
def replacement : List UInt8 :=
  [0xEF, 0xBF, 0xBD]

theorem isChar_replacement : isChar replacement = true := by
  decide

/-- A text with each byte that belongs to no character replaced. -/
def sanitise : List UInt8 → List UInt8
  | [] => []
  | b :: rest =>
    if 0 < charLength (b :: rest) then
      (b :: rest).take (charLength (b :: rest)) ++
        sanitise ((b :: rest).drop (charLength (b :: rest)))
    else replacement ++ sanitise rest
termination_by text => text.length
decreasing_by
  · simp only [List.length_drop, List.length_cons]
    omega
  · simp

@[simp] theorem sanitise_nil : sanitise [] = [] := by
  rw [sanitise]

theorem sanitise_char_append (h : isChar c = true) (rest : List UInt8) :
    sanitise (c ++ rest) = c ++ sanitise rest := by
  match c, h with
  | b :: more, h =>
    have hlength := charLength_append h rest
    rw [List.cons_append] at *
    rw [sanitise, if_pos (by rw [hlength]; exact (isChar_length h).1), hlength,
      ← List.cons_append, List.take_left, List.drop_left]

theorem sanitise_cons_of_none (h : charLength (b :: rest) = 0) :
    sanitise (b :: rest) = replacement ++ sanitise rest := by
  rw [sanitise, if_neg (by omega)]

/-- A text begins with a character, or its first byte belongs to none. -/
theorem head_cases (b : UInt8) (rest : List UInt8) :
    (∃ c more, isChar c = true ∧ b :: rest = c ++ more) ∨ charLength (b :: rest) = 0 := by
  by_cases h : 0 < charLength (b :: rest)
  · obtain ⟨hchar, -⟩ := charLength_spec h
    exact .inl ⟨_, _, hchar, (List.take_append_drop _ _).symm⟩
  · exact .inr (by omega)

theorem wellFormed_sanitise (text : List UInt8) : WellFormed (sanitise text) := by
  induction hlength : text.length using Nat.strong_induction_on generalizing text with
  | _ n ih =>
    cases text with
    | nil =>
      rw [sanitise_nil]
      exact wellFormed_nil
    | cons b rest =>
      rcases head_cases b rest with ⟨c, more, hc, htext⟩ | hnone
      · rw [htext] at hlength ⊢
        rw [sanitise_char_append hc]
        have hpos := (isChar_length hc).1
        rw [List.length_append] at hlength
        exact (wellFormed_char hc).append (ih more.length (by omega) more rfl)
      · rw [sanitise_cons_of_none hnone]
        rw [List.length_cons] at hlength
        exact (wellFormed_char isChar_replacement).append (ih rest.length (by omega) rest rfl)

/-- Well-formed text is left as it is. -/
theorem sanitise_of_wellFormed (h : WellFormed text) : sanitise text = text := by
  obtain ⟨chars, hchars, rfl⟩ := h
  induction chars with
  | nil => exact sanitise_nil
  | cons c chars ih =>
    rw [List.flatten_cons, sanitise_char_append (hchars c List.mem_cons_self),
      ih fun c' hc' => hchars c' (List.mem_cons_of_mem _ hc')]

/-- A byte of the sanitised text is one of the text, or of a replacement. -/
theorem mem_sanitise {x : UInt8} (h : x ∈ sanitise text) : x ∈ text ∨ x ∈ replacement := by
  induction text using sanitise.induct with
  | case1 =>
    rw [sanitise_nil] at h
    cases h
  | case2 b rest hchar ih =>
    rw [sanitise, if_pos hchar] at h
    rcases List.mem_append.1 h with h | h
    · exact .inl (List.mem_of_mem_take h)
    · exact (ih h).imp_left List.mem_of_mem_drop
  | case3 b rest hnone ih =>
    rw [sanitise, if_neg hnone] at h
    rcases List.mem_append.1 h with h | h
    · exact .inr h
    · exact (ih h).imp_left (List.mem_cons_of_mem b)

/-- How many bytes of a text belong to no character. -/
def illFormed : List UInt8 → Nat
  | [] => 0
  | b :: rest =>
    if 0 < charLength (b :: rest) then illFormed ((b :: rest).drop (charLength (b :: rest)))
    else illFormed rest + 1
termination_by text => text.length
decreasing_by
  · simp only [List.length_drop, List.length_cons]
    omega
  · simp

/-- Each of those becomes three. -/
theorem sanitise_length (text : List UInt8) :
    (sanitise text).length = text.length + 2 * illFormed text := by
  induction text using sanitise.induct with
  | case1 => rw [sanitise_nil, illFormed, List.length_nil]
  | case2 b rest hchar ih =>
    have hle := charLength_le (b :: rest)
    rw [sanitise, if_pos hchar, illFormed, if_pos hchar, List.length_append, ih,
      List.length_take_of_le hle, List.length_drop]
    omega
  | case3 b rest hnone ih =>
    have hthree : replacement.length = 3 := rfl
    rw [sanitise, if_neg hnone, illFormed, if_neg hnone, List.length_append, ih, hthree,
      List.length_cons]
    omega

theorem wellFormed_iff : WellFormed text ↔ sanitise text = text :=
  ⟨sanitise_of_wellFormed, fun h => h ▸ wellFormed_sanitise text⟩

instance : Decidable (WellFormed text) :=
  decidable_of_iff _ wellFormed_iff.symm

/-! ## Cuts -/

/-- The bytes a character begins with, fewer than it has. -/
def Partial (part : List UInt8) : Prop :=
  ∃ c, isChar c = true ∧ 0 < part.length ∧ part.length < c.length ∧ part = c.take part.length

/-- A cut after `k` bytes: the whole characters before it, and the first bytes of the character it
falls inside, if it falls inside one. -/
structure CutAt (text : List UInt8) (k : Nat) (whole part : List UInt8) : Prop where
  taken : text.take k = whole ++ part
  wellFormed : WellFormed whole
  inside : part = [] ∨ ∃ c rest, isChar c = true ∧ text = whole ++ c ++ rest ∧
    0 < part.length ∧ part.length < c.length ∧ part = c.take part.length

theorem CutAt.partial_of (h : CutAt text k whole part) : part = [] ∨ Partial part := by
  rcases h.inside with hnone | ⟨c, -, hc, -, hpos, hlt, hpart⟩
  · exact .inl hnone
  · exact .inr ⟨c, hc, hpos, hlt, hpart⟩

/-- Well-formed text can be cut anywhere. -/
theorem WellFormed.cutAt (h : WellFormed text) (k : Nat) :
    ∃ whole part, CutAt text k whole part := by
  obtain ⟨chars, hchars, rfl⟩ := h
  induction chars generalizing k with
  | nil => exact ⟨[], [], by simp, wellFormed_nil, .inl rfl⟩
  | cons c chars ih =>
    have hc := hchars c List.mem_cons_self
    rw [List.flatten_cons]
    by_cases hk : c.length ≤ k
    · obtain ⟨whole, part, htake, hwhole, hinside⟩ :=
        ih (k - c.length) fun c' hc' => hchars c' (List.mem_cons_of_mem _ hc')
      refine ⟨c ++ whole, part, ?_, (wellFormed_char hc).append hwhole, ?_⟩
      · rw [List.take_append, List.take_of_length_le hk, htake, List.append_assoc]
      · rcases hinside with hnone | ⟨c', rest, hc', htext, hpart⟩
        · exact .inl hnone
        · exact .inr ⟨c', rest, hc', by rw [htext]; simp, hpart⟩
    · have hcut : (c.take k).length = k := List.length_take_of_le (by omega)
      refine ⟨[], c.take k, ?_, wellFormed_nil, ?_⟩
      · rw [List.take_append_of_le_length (by omega), List.nil_append]
      · by_cases hzero : k = 0
        · left
          rw [hzero, List.take_zero]
        · right
          refine ⟨c, chars.flatten, hc, rfl, by omega, by omega, ?_⟩
          rw [hcut]

/-- The byte that many places from the end starts no longer character. -/
def EndsWhole (text : List UInt8) : Prop :=
  ∀ before b after, text = before ++ b :: after → leadLength b ≤ after.length + 1

theorem WellFormed.endsWhole (h : WellFormed text) : EndsWhole text := by
  obtain ⟨chars, hchars, rfl⟩ := h
  intro before b after htext
  induction chars generalizing before with
  | nil => simp at htext
  | cons c chars ih =>
    have hc := hchars c List.mem_cons_self
    rw [List.flatten_cons] at htext
    rcases List.append_eq_append_iff.1 htext with ⟨more, hbefore, hrest⟩ | ⟨more, hbefore, hrest⟩
    · exact ih (fun c' hc' => hchars c' (List.mem_cons_of_mem _ hc')) more hrest
    · cases more with
      | nil => exact ih (fun c' hc' => hchars c' (List.mem_cons_of_mem _ hc')) [] hrest.symm
      | cons x more =>
        obtain ⟨rfl, hafter⟩ := List.cons.inj hrest
        have hlong : after.length = more.length + chars.flatten.length := by
          rw [hafter]
          exact List.length_append
        cases before with
        | nil =>
          rw [List.nil_append] at hbefore
          rw [hbefore] at hc
          have hlength := (isChar_cons hc).1
          omega
        | cons y before =>
          rw [hbefore, List.cons_append] at hc
          rw [leadLength_of_tail ((isChar_cons hc).2 b (by simp))]
          omega

/-- The beginning of a character is a byte that says more follow than do, and some that follow. -/
theorem Partial.lead (h : Partial part) : ∃ b rest, part = b :: rest ∧
    part.length < leadLength b ∧ ∀ x ∈ rest, isTail x = true := by
  obtain ⟨c, hc, hpos, hlt, hpart⟩ := h
  match c, hc with
  | b :: more, hc =>
    obtain ⟨hlength, htails⟩ := isChar_cons hc
    obtain ⟨k, hk⟩ := Nat.exists_eq_succ_of_ne_zero (Nat.pos_iff_ne_zero.1 hpos)
    rw [List.length_cons] at hlt
    refine ⟨b, more.take k, ?_, by omega, ?_⟩
    · rw [hpart, hk, List.take_succ_cons]
    · exact fun x hx => htails x (List.mem_of_mem_take hx)

theorem Partial.length_le (h : Partial part) : part.length ≤ 3 := by
  obtain ⟨c, hc, -, hlt, -⟩ := h
  have hle := (isChar_length hc).2
  omega

/-! ## Text in chunks -/

/-- The lead at the end of a text with fewer bytes after it than it announces, all of them tails. -/
def unfinished : List UInt8 → List UInt8
  | [] => []
  | b :: rest => if rest.length + 1 < leadLength b ∧ rest.all isTail then b :: rest
      else unfinished rest

/-- The text before it. -/
def finished (text : List UInt8) : List UInt8 :=
  text.take (text.length - (unfinished text).length)

/-- A lead and some of its tails. -/
def IsUnit (unit : List UInt8) : Prop :=
  ∃ b more, unit = b :: more ∧ unit.length ≤ leadLength b ∧ ∀ x ∈ more, isTail x = true

theorem charLength_tail (h : isTail b = true) (rest : List UInt8) : charLength (b :: rest) = 0 := by
  apply charLength_eq_zero
  intro c hc hpre
  match c, hc with
  | a :: more, hc =>
    obtain ⟨rfl, -⟩ := List.cons_prefix_cons.1 hpre
    cases more with
    | nil =>
      rw [isChar_one] at hc
      rw [isTail_iff] at h
      omega
    | cons x more =>
      have hlength := (isChar_cons hc).1
      rw [leadLength_of_tail h, List.length_cons] at hlength
      omega

theorem sanitise_tails_append {tails : List UInt8} (h : ∀ x ∈ tails, isTail x = true)
    (rest : List UInt8) : sanitise (tails ++ rest) = sanitise tails ++ sanitise rest := by
  induction tails with
  | nil => rw [sanitise_nil, List.nil_append, List.nil_append]
  | cons x tails ih =>
    have hx := h x List.mem_cons_self
    rw [List.cons_append, sanitise_cons_of_none (charLength_tail hx _),
      sanitise_cons_of_none (charLength_tail hx _), ih fun y hy => h y (List.mem_cons_of_mem _ hy),
      List.append_assoc]

/-- A unit is sanitised on its own, where it is whole or no tail follows it. -/
theorem sanitise_unit_append {unit : List UInt8} (h : IsUnit unit) (rest : List UInt8)
    (hends : (∃ b more, unit = b :: more ∧ unit.length = leadLength b) ∨
      ∀ x more, rest = x :: more → isTail x = false) :
    sanitise (unit ++ rest) = sanitise unit ++ sanitise rest := by
  obtain ⟨b, more, rfl, hle, htails⟩ := h
  by_cases hchar : isChar (b :: more) = true
  · rw [sanitise_char_append hchar]
    have halone := sanitise_char_append hchar []
    rw [List.append_nil, sanitise_nil, List.append_nil] at halone
    rw [halone]
  · have hnone : ∀ rest', (rest' = [] ∨ rest' = rest) → charLength (b :: (more ++ rest')) = 0 := by
      intro rest' hrest'
      apply charLength_eq_zero
      intro c hc hpre
      match c, hc with
      | a :: tail, hc =>
        obtain ⟨rfl, htail⟩ := List.cons_prefix_cons.1 hpre
        obtain ⟨hlength, htailAll⟩ := isChar_cons hc
        rw [List.length_cons] at hle
        have hlonger : more.length < tail.length := by
          by_contra hshort
          have hequal : tail = more := by
            have hsame : tail.length = more.length := by omega
            have hboth := List.prefix_of_prefix_length_le htail (List.prefix_append _ _) hsame.le
            exact hboth.eq_of_length hsame
          exact hchar (hequal ▸ hc)
        rcases hrest' with rfl | rfl
        · have hshort := htail.length_le
          rw [List.append_nil] at hshort
          omega
        · rcases hends with ⟨b', more', heq, hwhole⟩ | hhead
          · obtain ⟨rfl, rfl⟩ := List.cons.inj heq
            rw [List.length_cons] at hwhole
            omega
          · obtain ⟨z, rfl⟩ := List.prefix_of_prefix_length_le (List.prefix_append more rest') htail
              hlonger.le
            cases z with
            | nil =>
              rw [List.append_nil] at hlonger
              omega
            | cons x z =>
              have hx := htailAll x (by simp)
              rw [List.prefix_append_right_inj] at htail
              obtain ⟨y, hy⟩ := htail
              have hnot := hhead x (z ++ y) hy.symm
              rw [hx] at hnot
              cases hnot
    have halone := hnone [] (.inl rfl)
    rw [List.append_nil] at halone
    rw [List.cons_append, sanitise_cons_of_none (hnone rest (.inr rfl)),
      sanitise_cons_of_none halone, sanitise_tails_append htails, List.append_assoc]

/-- A lead with fewer bytes after it than it announces, all of them tails. -/
def IsOpen (part : List UInt8) : Prop :=
  ∃ b more, part = b :: more ∧ part.length < leadLength b ∧ ∀ x ∈ more, isTail x = true

theorem isUnit_of_isChar (h : isChar c = true) : IsUnit c ∧
    ∃ b more, c = b :: more ∧ c.length = leadLength b := by
  match c, h with
  | b :: more, h =>
    obtain ⟨hlength, htails⟩ := isChar_cons h
    exact ⟨⟨b, more, rfl, hlength.le, htails⟩, b, more, rfl, hlength⟩

theorem Partial.isOpen (h : Partial part) : IsOpen part := by
  obtain ⟨b, rest, rfl, hlt, htails⟩ := h.lead
  exact ⟨b, rest, rfl, hlt, htails⟩

theorem unfinished_tails_append {tails : List UInt8} (h : ∀ x ∈ tails, isTail x = true)
    (rest : List UInt8) : unfinished (tails ++ rest) = unfinished rest := by
  induction tails with
  | nil => rfl
  | cons x tails ih =>
    have hlead := leadLength_of_tail (h x List.mem_cons_self)
    rw [List.cons_append, unfinished, if_neg (by omega),
      ih fun y hy => h y (List.mem_cons_of_mem _ hy)]

/-- A unit leaves nothing unfinished, where it is whole or a byte follows that is no tail. -/
theorem unfinished_unit_append {unit : List UInt8} (h : IsUnit unit) (rest : List UInt8)
    (hends : (∃ b more, unit = b :: more ∧ unit.length = leadLength b) ∨
      ∃ x more, rest = x :: more ∧ isTail x = false) :
    unfinished (unit ++ rest) = unfinished rest := by
  obtain ⟨b, more, rfl, hle, htails⟩ := h
  rw [List.cons_append, unfinished, if_neg, unfinished_tails_append htails]
  rintro ⟨hlt, hall⟩
  rw [List.length_append] at hlt
  rcases hends with ⟨b', more', heq, hwhole⟩ | ⟨x, more', rfl, hx⟩
  · obtain ⟨rfl, rfl⟩ := List.cons.inj heq
    rw [List.length_cons] at hwhole
    omega
  · simp [hx] at hall

theorem IsOpen.unfinished_eq (h : IsOpen part) : unfinished part = part := by
  obtain ⟨b, more, rfl, hlt, htails⟩ := h
  rw [List.length_cons] at hlt
  rw [unfinished, if_pos ⟨hlt, List.all_eq_true.2 htails⟩]

theorem unfinished_isSuffix (text : List UInt8) : unfinished text <:+ text := by
  induction text with
  | nil => exact List.suffix_rfl
  | cons b rest ih =>
    rw [unfinished]
    split
    · exact List.suffix_rfl
    · exact ih.trans (List.suffix_cons b rest)

theorem unfinished_cases (text : List UInt8) : unfinished text = [] ∨ IsOpen (unfinished text) := by
  induction text with
  | nil => exact .inl rfl
  | cons b rest ih =>
    rw [unfinished]
    split
    · next hopen => exact .inr ⟨b, rest, rfl, hopen.1, List.all_eq_true.1 hopen.2⟩
    · exact ih

@[simp] theorem finished_append_unfinished (text : List UInt8) :
    finished text ++ unfinished text = text := by
  obtain ⟨before, hbefore⟩ := unfinished_isSuffix text
  have hfinished : finished text = before := by
    have hlength := congrArg List.length hbefore
    rw [List.length_append] at hlength
    rw [finished, show text.length - (unfinished text).length = before.length by omega,
      ← List.prefix_iff_eq_take.1 ⟨_, hbefore⟩]
  rw [hfinished, hbefore]

theorem finished_unit_append {unit rest : List UInt8}
    (h : unfinished (unit ++ rest) = unfinished rest) :
    finished (unit ++ rest) = unit ++ finished rest := by
  have hwhole := finished_append_unfinished (unit ++ rest)
  nth_rewrite 3 [← finished_append_unfinished rest] at hwhole
  rw [h, ← List.append_assoc] at hwhole
  exact List.append_cancel_right hwhole

theorem IsOpen.finished_eq (h : IsOpen part) : finished part = [] := by
  rw [finished, h.unfinished_eq, Nat.sub_self, List.take_zero]

/-- An open part is no well-formed text. -/
theorem IsOpen.not_wellFormed (h : IsOpen part) : ¬ WellFormed part := by
  obtain ⟨b, more, rfl, hlt, -⟩ := h
  intro hwell
  have hle := hwell.endsWhole [] b more rfl
  rw [List.length_cons] at hlt
  omega

theorem WellFormed.cancel (h : isChar c = true) (hwell : WellFormed (c ++ text)) :
    WellFormed text := by
  rw [wellFormed_iff, sanitise_char_append h, List.append_cancel_left_eq] at hwell
  exact wellFormed_iff.2 hwell

/-- A text that is not empty begins with a character as long as its lead says. -/
theorem WellFormed.head (h : WellFormed (b :: rest)) :
    ∃ c later, isChar c = true ∧ b :: rest = c ++ later ∧ c.length = leadLength b := by
  obtain ⟨chars, hchars, htext⟩ := h
  match chars, hchars with
  | c :: chars, hchars =>
    have hc := hchars c List.mem_cons_self
    match c, hc with
    | a :: more, hc =>
      rw [List.flatten_cons, List.cons_append] at htext
      obtain ⟨rfl, rfl⟩ := List.cons.inj htext
      exact ⟨a :: more, chars.flatten, hc, rfl, (isChar_cons hc).1⟩

/-- A beginning of a well-formed text is whole characters and the open part after them. -/
theorem WellFormed.finished_append (h : WellFormed (text ++ rest)) :
    WellFormed (finished text) ∧ WellFormed (unfinished text ++ rest) := by
  obtain ⟨chars, hchars, htext⟩ := h
  induction chars generalizing text with
  | nil =>
    obtain ⟨rfl, rfl⟩ := List.append_eq_nil_iff.1 htext.symm
    exact ⟨wellFormed_nil, wellFormed_nil⟩
  | cons c chars ih =>
    have hc := hchars c List.mem_cons_self
    have hothers := fun d hd => hchars d (List.mem_cons_of_mem c hd)
    rw [List.flatten_cons] at htext
    by_cases hle : c.length ≤ text.length
    · obtain ⟨more, rfl⟩ : c <+: text :=
        List.prefix_of_prefix_length_le ⟨_, htext⟩ (List.prefix_append text rest) hle
      rw [List.append_assoc, List.append_cancel_left_eq] at htext
      obtain ⟨hfinished, hunfinished⟩ := ih hothers htext
      obtain ⟨hunit, hwhole⟩ := isUnit_of_isChar hc
      have hsame := unfinished_unit_append hunit more (.inl hwhole)
      rw [hsame, finished_unit_append hsame]
      exact ⟨(wellFormed_char hc).append hfinished, hunfinished⟩
    · have hpre : text <+: c :=
        List.prefix_of_prefix_length_le (List.prefix_append text rest)
          ⟨_, htext⟩ (by omega)
      by_cases hempty : text = []
      · rw [hempty]
        exact ⟨wellFormed_nil, c :: chars, hchars, by rw [List.flatten_cons, htext, hempty]; rfl⟩
      · have hpart : Partial text :=
          ⟨c, hc, List.length_pos_iff.2 hempty, by omega, List.prefix_iff_eq_take.1 hpre⟩
        rw [hpart.isOpen.finished_eq, hpart.isOpen.unfinished_eq, ← htext]
        exact ⟨wellFormed_nil, c :: chars, hchars, List.flatten_cons⟩

/-! ## Boundaries -/

/-- Between two characters of a text, before the first or after the last. -/
def IsBoundary (text : List UInt8) (k : Nat) : Prop :=
  k ≤ text.length ∧ WellFormed (text.take k) ∧ WellFormed (text.drop k)

theorem WellFormed.cancel_wellFormed {front : List UInt8} (h : WellFormed front)
    (hwell : WellFormed (front ++ text)) : WellFormed text := by
  obtain ⟨chars, hchars, rfl⟩ := h
  induction chars with
  | nil => exact hwell
  | cons c chars ih =>
    rw [List.flatten_cons, List.append_assoc] at hwell
    exact ih (fun c' hc' => hchars c' (List.mem_cons_of_mem _ hc'))
      (hwell.cancel (hchars c List.mem_cons_self))

theorem WellFormed.isBoundary (h : WellFormed text) {k : Nat} (hk : k ≤ text.length)
    (hfront : WellFormed (text.take k)) : IsBoundary text k :=
  ⟨hk, hfront, hfront.cancel_wellFormed (by rwa [List.take_append_drop])⟩

/-- The whole characters before a cut end at the last boundary there is up to it. -/
theorem CutAt.isGreatest {k : Nat} {whole part : List UInt8} (hcut : CutAt text k whole part)
    (h : WellFormed text) (hk : k ≤ text.length) :
    IsGreatest {j | j ≤ k ∧ IsBoundary text j} whole.length := by
  have hlength : k = whole.length + part.length := by
    rw [← List.length_append, ← hcut.taken, List.length_take_of_le hk]
  have htake : ∀ j ≤ k, text.take j = (whole ++ part).take j := by
    intro j hj
    rw [← hcut.taken, List.take_take, Nat.min_eq_left hj]
  constructor
  · refine ⟨by omega, h.isBoundary (by omega) ?_⟩
    rw [htake _ (by omega), List.take_left]
    exact hcut.wellFormed
  · rintro j ⟨hj, -, hfront, -⟩
    rcases hcut.inside with rfl | ⟨c, rest, hc, -, hpos, hlt, hpart⟩
    · rw [List.length_nil] at hlength
      omega
    · by_contra hlater
      -- the bytes between would begin a character and be whole ones
      rw [htake j hj, List.take_append, List.take_of_length_le (by omega)] at hfront
      have hwell := hcut.wellFormed.cancel_wellFormed hfront
      have hsome : (part.take (j - whole.length)).length = j - whole.length :=
        List.length_take_of_le (by omega)
      have hpartial : Partial (part.take (j - whole.length)) := by
        refine ⟨c, hc, by omega, by omega, ?_⟩
        rw [hsome]
        conv_lhs => rw [hpart]
        rw [List.take_take, Nat.min_eq_left (by omega)]
      exact hpartial.isOpen.not_wellFormed hwell

end SolidSyslog.Lib.Utf8
