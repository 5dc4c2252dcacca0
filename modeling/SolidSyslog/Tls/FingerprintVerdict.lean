import SolidSyslog.Tls.Fingerprint

/-!
# The verdict on a peer

What `SolidSyslogTlsFingerprint_Authorise` answers, in terms of the pins: the walk stops at the
first one that names the peer or does not parse, and steps over those whose hash cannot be computed.
-/

namespace SolidSyslog.Tls.PinList

/-- A list is walked to an entry `P` holds of, over entries `Q` holds of. -/
def Reaches {α : Type} (Q P : α → Prop) (l : List α) : Prop :=
  ∃ before a after, l = before ++ a :: after ∧ P a ∧ ∀ b ∈ before, Q b

/-- A pin that is well formed. -/
def Parses (pin : Option Bytes) : Prop :=
  Fingerprint.parse pin ≠ none

/-- A pin whose hash the peer's digest cannot be had under. -/
def Skipped (digest : HashAlgorithm → Option Bytes) (pin : Option Bytes) : Prop :=
  ∃ fingerprint, Fingerprint.parse pin = some fingerprint ∧ digest fingerprint.algorithm = none

/-- A list that is not there, with a count that says it is. -/
def Missing (list : PinList) : Prop :=
  ∃ count, list = .null count ∧ count ≠ 0

section Reaches

variable {α : Type} {Q P : α → Prop} {a : α} {l : List α}

theorem not_reaches_nil : ¬ Reaches Q P ([] : List α) := by
  rintro ⟨before, a, after, hl, -⟩
  simp at hl

theorem reaches_cons : Reaches Q P (a :: l) ↔ P a ∨ Q a ∧ Reaches Q P l := by
  constructor
  · rintro ⟨before, b, after, hl, hb, hbefore⟩
    cases before with
    | nil =>
      obtain ⟨rfl, -⟩ := List.cons.inj hl
      exact .inl hb
    | cons c before =>
      obtain ⟨rfl, hrest⟩ := List.cons.inj hl
      obtain ⟨hc, hbefore⟩ := List.forall_mem_cons.1 hbefore
      exact .inr ⟨hc, before, b, after, hrest, hb, hbefore⟩
  · rintro (ha | ⟨ha, before, b, after, rfl, hb, hbefore⟩)
    · exact ⟨[], a, l, rfl, ha, nofun⟩
    · exact ⟨a :: before, b, after, rfl, hb, List.forall_mem_cons.2 ⟨ha, hbefore⟩⟩

theorem reaches_of_forall (h : ∀ b ∈ l, Q b) : Reaches Q P l ↔ ∃ b ∈ l, P b := by
  constructor
  · rintro ⟨before, b, after, rfl, hb, -⟩
    exact ⟨b, by simp, hb⟩
  · rintro ⟨b, hmem, hb⟩
    obtain ⟨before, after, rfl⟩ := List.append_of_mem hmem
    exact ⟨before, b, after, rfl, hb, fun c hc => h c (List.mem_append_left _ hc)⟩

end Reaches

variable {digest : HashAlgorithm → Option Bytes} {pin : Option Bytes} {pins : List (Option Bytes)}
  {anySkipped : Bool}

/-! ## One pin -/

/-- The four answers on a pin, and when each is given. -/
theorem authoriseOne_cases (digest : HashAlgorithm → Option Bytes) (pin : Option Bytes) :
    (Fingerprint.authoriseOne digest pin = .matched ∧ Names digest pin ∧ Parses pin ∧
        ¬ Skipped digest pin) ∨
      (Fingerprint.authoriseOne digest pin = .noMatch ∧ ¬ Names digest pin ∧ Parses pin ∧
        ¬ Skipped digest pin) ∨
      (Fingerprint.authoriseOne digest pin = .malformed ∧ ¬ Names digest pin ∧ ¬ Parses pin ∧
        ¬ Skipped digest pin) ∨
      (Fingerprint.authoriseOne digest pin = .digestUnavailable ∧ ¬ Names digest pin ∧
        Parses pin ∧ Skipped digest pin) := by
  unfold Fingerprint.authoriseOne Names Parses Skipped
  cases Fingerprint.parse pin with
  | none => simp
  | some fingerprint =>
    cases hdigest : digest fingerprint.algorithm with
    | none => simp [hdigest]
    | some peerDigest =>
      by_cases hequal : fingerprint.digestEquals peerDigest = true
      · obtain rfl := (Fingerprint.digestEquals_iff _ _).1 hequal
        simp [hdigest, hequal]
      · have hdifferent := mt (Fingerprint.digestEquals_iff _ _).2 hequal
        simp [hdigest, hequal, hdifferent]

/-! ## The walk -/

theorem walk_matched_iff : (walk digest anySkipped pins).2 = .matched ↔
    Reaches Parses (Names digest) pins := by
  induction pins generalizing anySkipped with
  | nil => simp [walk, not_reaches_nil]
  | cons pin pins ih =>
    rw [walk, reaches_cons]
    rcases authoriseOne_cases digest pin with h | h | h | h
    · simp [h.1, h.2]
    · simp [h.1, h.2, ih]
    · simp [h.1, h.2]
    · simp [h.1, h.2, ih]

theorem walk_malformed_iff : (walk digest anySkipped pins).2 = .malformed ↔
    Reaches (fun pin => ¬ Names digest pin) (fun pin => ¬ Parses pin) pins := by
  induction pins generalizing anySkipped with
  | nil => simp [walk, not_reaches_nil]
  | cons pin pins ih =>
    rw [walk, reaches_cons]
    rcases authoriseOne_cases digest pin with h | h | h | h
    · simp [h.1, h.2]
    · simp [h.1, h.2, ih]
    · simp [h.1, h.2]
    · simp [h.1, h.2, ih]

/-- The walk itself never says that a digest cannot be had. -/
theorem walk_ne_digestUnavailable : (walk digest anySkipped pins).2 ≠ .digestUnavailable := by
  induction pins generalizing anySkipped with
  | nil => exact nofun
  | cons pin pins ih =>
    rw [walk]
    rcases authoriseOne_cases digest pin with h | h | h | h
    · simp [h.1]
    · simp [h.1, ih]
    · simp [h.1]
    · simp [h.1, ih]

/-- A walk to the end has skipped a pin just if there is one to skip. -/
theorem walk_skipped_iff (h : (walk digest anySkipped pins).2 = .noMatch) :
    (walk digest anySkipped pins).1 = true ↔
      anySkipped = true ∨ ∃ pin ∈ pins, Skipped digest pin := by
  induction pins generalizing anySkipped with
  | nil => simp [walk]
  | cons pin pins ih =>
    rw [walk] at *
    rcases authoriseOne_cases digest pin with hpin | hpin | hpin | hpin
    · simp [hpin.1] at h
    · simp only [hpin.1] at h ⊢
      simp [ih h, hpin.2]
    · simp [hpin.1] at h
    · simp only [hpin.1] at h ⊢
      simp [ih h, hpin.2]

/-! ## The verdict -/

theorem isReadable_iff {list : PinList} : list.isReadable = true ↔ ¬ Missing list := by
  cases list with
  | null count => simp [isReadable, Missing]
  | list pins => simp [isReadable, Missing]

theorem authorise_of_missing {list : PinList} (h : Missing list) :
    list.authorise digest = .malformed := by
  rw [authorise, if_neg (mt isReadable_iff.1 (not_not_intro h))]

/-- The verdict is that of the walk, which says that nothing matched where a pin was skipped. -/
theorem authorise_of_readable {list : PinList} (h : ¬ Missing list) : list.authorise digest =
    if (walk digest false list.pins).2 = .noMatch ∧ (walk digest false list.pins).1 = true then
      .digestUnavailable
    else (walk digest false list.pins).2 := by
  rw [authorise, if_pos (isReadable_iff.2 h)]
  rcases walk digest false list.pins with ⟨anySkipped, verdict⟩
  cases anySkipped <;> cases verdict <;> rfl

theorem pins_of_missing {list : PinList} (h : Missing list) : list.pins = [] := by
  obtain ⟨count, rfl, -⟩ := h
  rfl

theorem authorise_matched_iff {list : PinList} :
    list.authorise digest = .matched ↔ Reaches Parses (Names digest) list.pins := by
  by_cases h : Missing list
  · rw [authorise_of_missing h, pins_of_missing h]
    simp [not_reaches_nil]
  · rw [authorise_of_readable h, ← @walk_matched_iff digest list.pins false]
    split
    · next hnone => simp [hnone.1]
    · rfl

theorem authorise_malformed_iff {list : PinList} : list.authorise digest = .malformed ↔
    Missing list ∨
      Reaches (fun pin => ¬ Names digest pin) (fun pin => ¬ Parses pin) list.pins := by
  by_cases h : Missing list
  · simp [authorise_of_missing h, h]
  · rw [authorise_of_readable h, ← @walk_malformed_iff digest list.pins false]
    split
    · next hnone => simp [hnone.1, h]
    · simp [h]

/-- Otherwise it tells whether a pin was skipped. -/
theorem authorise_otherwise {list : PinList} (hmatched : list.authorise digest ≠ .matched)
    (hmalformed : list.authorise digest ≠ .malformed) :
    (list.authorise digest = .digestUnavailable ∧ ∃ pin ∈ list.pins, Skipped digest pin) ∨
      (list.authorise digest = .noMatch ∧ ¬ ∃ pin ∈ list.pins, Skipped digest pin) := by
  have h : ¬ Missing list := fun hmissing => hmalformed (authorise_of_missing hmissing)
  rw [authorise_of_readable h] at *
  have hnone : (walk digest false list.pins).2 = .noMatch := by
    have hnever := @walk_ne_digestUnavailable digest list.pins false
    cases hwalk : (walk digest false list.pins).2 with
    | noMatch => rfl
    | matched => simp [hwalk] at hmatched
    | malformed => simp [hwalk] at hmalformed
    | digestUnavailable => exact absurd hwalk hnever
  have hskips := walk_skipped_iff hnone
  rw [or_iff_right Bool.false_ne_true] at hskips
  rw [← hskips, hnone]
  by_cases hskipped : (walk digest false list.pins).1 = true
  · exact .inl ⟨if_pos ⟨rfl, hskipped⟩, hskipped⟩
  · exact .inr ⟨if_neg fun hboth => hskipped hboth.2, hskipped⟩

theorem readable_of_inspect {list : PinList} (h : list.inspect ≠ .malformed) :
    ¬ Missing list ∧ ∀ pin ∈ list.pins, Parses pin := by
  obtain ⟨hreadable, hparses⟩ := inspect_ne_malformed h
  refine ⟨isReadable_iff.1 hreadable, ?_⟩
  intro pin hpin hnone
  have hsome := hparses pin hpin
  rw [hnone] at hsome
  cases hsome

/-- The verdict on a peer, and what follows for a list that was not malformed when it was inspected:
neither is it now, and the order of its pins decides nothing. -/
theorem authorise_verdict (digest : HashAlgorithm → Option Bytes) (list : PinList) :
    (list.authorise digest = .matched ↔ Reaches Parses (Names digest) list.pins) ∧
      (list.authorise digest = .malformed ↔ Missing list ∨
        Reaches (fun pin => ¬ Names digest pin) (fun pin => ¬ Parses pin) list.pins) ∧
      (list.authorise digest ≠ .matched → list.authorise digest ≠ .malformed →
        (list.authorise digest = .digestUnavailable ↔ ∃ pin ∈ list.pins, Skipped digest pin) ∧
        (list.authorise digest = .noMatch ↔ ∀ pin ∈ list.pins, ¬ Skipped digest pin)) ∧
      (list.inspect ≠ .malformed → list.authorise digest ≠ .malformed ∧
        ∀ pins : List (Option Bytes), pins.Perm list.pins →
          ((PinList.list pins).authorise digest = .matched ↔
            list.authorise digest = .matched)) := by
  refine ⟨authorise_matched_iff, authorise_malformed_iff, ?_, ?_⟩
  · intro hmatched hmalformed
    rcases authorise_otherwise hmatched hmalformed with ⟨hverdict, hsome⟩ | ⟨hverdict, hnone⟩
    · rw [hverdict]
      obtain ⟨pin, hpin, hskipped⟩ := hsome
      exact ⟨⟨fun _ => ⟨pin, hpin, hskipped⟩, fun _ => rfl⟩, nofun,
        fun hall => absurd hskipped (hall pin hpin)⟩
    · rw [hverdict]
      exact ⟨⟨nofun, fun hsome => absurd hsome hnone⟩,
        fun _ pin hpin hskipped => hnone ⟨pin, hpin, hskipped⟩, fun _ => rfl⟩
  · intro hinspect
    obtain ⟨hthere, hparses⟩ := readable_of_inspect hinspect
    constructor
    · rw [Ne, authorise_malformed_iff]
      rintro (hmissing | ⟨before, pin, after, hpins, hbad, -⟩)
      · exact hthere hmissing
      · exact hbad (hparses pin (by rw [hpins]; simp))
    · intro pins hperm
      have hpins : ∀ pin ∈ pins, Parses pin := fun pin hpin => hparses pin (hperm.mem_iff.1 hpin)
      rw [authorise_matched_iff, authorise_matched_iff, reaches_of_forall hparses]
      change Reaches Parses (Names digest) pins ↔ _
      rw [reaches_of_forall hpins]
      simp only [hperm.mem_iff]

end SolidSyslog.Tls.PinList
