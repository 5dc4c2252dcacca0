import SolidSyslog.Store.MainTrace

/-!
# The record store on a faithful device

Where a block's bytes are what the media has, what the record store finds in it is a function of
these bytes and of the security policy's verdict.
-/

namespace SolidSyslog.Store

open Lib

variable {σ : Type} {P : Platform σ} {C : Config} {media : σ → Media} {m₀ m : Media}
  {t : List Event} {content : Bytes} {block : Sequence} {offset length : Nat}

/-! ## Records in a block's bytes -/

/-- `RecordStore_ReadRecordExtent` of a block's bytes. -/
def Config.extentAt (C : Config) (content : Bytes) (offset : Nat) : Except ReadResult Nat :=
  if offset < content.length then
    if offset + contentHeaderSize ≤ content.length then
      match C.validateHeader (span content offset contentHeaderSize) with
      | some length =>
        if offset + C.recordSize length ≤ content.length then .ok length else .error .corrupt
      | none => .error .corrupt
    else .error .corrupt
  else .error .endOfData

/-- The flag of the record at an offset. -/
def Config.flagAt (C : Config) (content : Bytes) (offset length : Nat) : UInt8 :=
  content.getD (C.sentFlagOffset offset length) sentFlagUnsent

/-- The content span of the record at an offset, as it is given to the policy. -/
def contentAt (content : Bytes) (offset length : Nat) : Bytes :=
  header length ++ span content (offset + contentHeaderSize) length

/-- The trailer of the record at an offset. -/
def Config.trailerAt (C : Config) (content : Bytes) (offset length : Nat) : Bytes :=
  span content (trailerOffset offset length) C.trailerSize

/-- What a read at an offset may find. -/
inductive ReadAt (P : Platform σ) (C : Config) (content : Bytes) (offset maxSize : Nat) :
    RecordStore.Found → Prop
  | endOfData (extent : C.extentAt content offset = .error .endOfData) :
      ReadAt P C content offset maxSize ⟨.endOfData, 0, []⟩
  | corrupt (extent : C.extentAt content offset = .error .corrupt) :
      ReadAt P C content offset maxSize ⟨.corrupt, 0, []⟩
  | finishedWith {length : Nat} (extent : C.extentAt content offset = .ok length)
      (flag : flagMarksSentOrDiscarded (C.flagAt content offset length) = true) :
      ReadAt P C content offset maxSize ⟨.finishedWith, length, []⟩
  | opened {length : Nat} {env : σ} (extent : C.extentAt content offset = .ok length)
      (flag : flagMarksSentOrDiscarded (C.flagAt content offset length) = false)
      (verdict : (P.answer (.openRecord (contentAt content offset length)
        (C.trailerAt content offset length)) env).1.1 = .opened) :
      ReadAt P C content offset maxSize ⟨.succeeded, length,
        ((fit (contentAt content offset length).length
          (P.answer (.openRecord (contentAt content offset length)
            (C.trailerAt content offset length)) env).1.2).drop contentHeaderSize).take maxSize⟩
  | rejected {length : Nat} {env : σ} (extent : C.extentAt content offset = .ok length)
      (flag : flagMarksSentOrDiscarded (C.flagAt content offset length) = false)
      (verdict : (P.answer (.openRecord (contentAt content offset length)
        (C.trailerAt content offset length)) env).1.1 = .rejected) :
      ReadAt P C content offset maxSize ⟨.rejected, length, []⟩
  | couldNotOpen {length : Nat} {env : σ} (extent : C.extentAt content offset = .ok length)
      (flag : flagMarksSentOrDiscarded (C.flagAt content offset length) = false)
      (verdict : (P.answer (.openRecord (contentAt content offset length)
        (C.trailerAt content offset length)) env).1.1 = .couldNotRun) :
      ReadAt P C content offset maxSize ⟨.couldNotOpen, length, []⟩

/-- The walk of `SolidSyslogRecordStore_FindFirstUnsent` over a block's bytes. -/
def Config.firstUnsent (C : Config) (content : Bytes) (cursor : Nat) : Nat → Nat × ScanResult
  | 0 => (cursor, .clean)
  | fuel + 1 =>
    match C.extentAt content cursor with
    | .error .corrupt => (content.length, .corrupt)
    | .error _ => (cursor, .clean)
    | .ok length =>
      if flagMarksSentOrDiscarded (C.flagAt content cursor length) then
        C.firstUnsent content (cursor + C.recordSize length) fuel
      else (cursor, .clean)

/-- The walk of `SolidSyslogRecordStore_ScanToEnd` over a block's bytes. -/
def Config.scanEnd (C : Config) (content : Bytes) (position : Nat) : Nat → ScanResult
  | 0 => .clean
  | fuel + 1 =>
    match C.extentAt content position with
    | .ok length => C.scanEnd content (position + C.recordSize length) fuel
    | .error .corrupt => .corrupt
    | .error _ => .clean

theorem Config.extentAt_ok (h : C.extentAt content offset = .ok length) :
    offset < content.length ∧ offset + C.recordSize length ≤ content.length ∧
      C.validateHeader (span content offset contentHeaderSize) = some length := by
  unfold extentAt at h
  split at h
  · next hoffset =>
    split at h
    · split at h
      · next length' hheader =>
        split at h
        · next hfits =>
          cases h
          exact ⟨hoffset, hfits, hheader⟩
        · cases h
      · cases h
    · cases h
  · cases h

/-- A record's extent can only be missing in two ways. -/
theorem Config.extentAt_error {result : ReadResult}
    (h : C.extentAt content offset = .error result) :
    (result = .endOfData ∧ content.length ≤ offset) ∨
      (result = .corrupt ∧ offset < content.length) := by
  unfold extentAt at h
  split at h
  · next hoffset =>
    refine .inr ⟨?_, hoffset⟩
    split at h
    · split at h
      · split at h
        · cases h
        · cases h
          rfl
      · cases h
        rfl
    · cases h
      rfl
  · next hend =>
    cases h
    exact .inl ⟨rfl, Nat.le_of_not_lt hend⟩

theorem Config.recordSize_pos (length : Nat) : 0 < C.recordSize length := by
  unfold recordSize
  omega

/-- The flag is the last byte of its record. -/
theorem Config.sentFlagOffset_succ (offset length : Nat) :
    C.sentFlagOffset offset length + 1 = offset + C.recordSize length := by
  unfold sentFlagOffset trailerOffset contentHeaderSize recordSize
  omega

theorem getD_span {l : Bytes} {a n i : Nat} {d : UInt8} (hi : i < n) :
    (span l a n).getD i d = l.getD (a + i) d := by
  simp [span, List.getD_eq_getElem?_getD, hi, List.getElem?_drop]

/-! ## Operations -/

namespace RecordStore

variable {s : RecordState σ}

theorem readSpan_shows (hP : Faithful P media) (hw : s.world.Shows media m₀ m t)
    (hcontent : m block = some content) {count : Nat} :
    Ensures (readSpan P block offset count content.length) (fun bytes s' =>
      bytes = (if offset + count ≤ content.length then .ok (span content offset count)
        else .error .corrupt) ∧
      s'.records = s.records ∧ s'.world.Shows media m₀ m t) s := by
  unfold readSpan
  by_cases hle : offset + count ≤ content.length
  · rw [if_pos hle, if_pos hle]
    apply ensures_ask
    have hanswer : (P.answer (.read block offset count) s.world.env).1 =
        some (span content offset count) := by
      apply hP.read _ hle
      rw [hw.media_eq, hcontent]
    rw [hanswer]
    dsimp only
    rw [ensures_pure, fit_of_length_eq (length_span hle)]
    exact ⟨rfl, rfl, hw.quiet hP _ rfl ⟨content, hcontent, hle⟩⟩
  · rw [if_neg hle, if_neg hle, ensures_pure]
    exact ⟨rfl, rfl, hw⟩

theorem readRecordExtent_shows (hP : Faithful P media) (hw : s.world.Shows media m₀ m t)
    (hcontent : m block = some content) :
    Ensures (readRecordExtent P C block offset content.length) (fun extent s' =>
      extent = C.extentAt content offset ∧ s'.records = s.records ∧
      s'.world.Shows media m₀ m t) s := by
  unfold readRecordExtent readHeader Config.extentAt
  rw [ensures_bind]
  by_cases hoffset : offset < content.length
  · rw [if_pos hoffset, if_pos hoffset]
    apply (readSpan_shows hP hw hcontent).bind
    rintro _ s₁ ⟨rfl, hrecords, hw₁⟩
    by_cases hle : offset + contentHeaderSize ≤ content.length
    · rw [if_pos hle, if_pos hle]
      dsimp only
      cases C.validateHeader (span content offset contentHeaderSize) with
      | none => exact ⟨rfl, hrecords, hw₁⟩
      | some length => exact ⟨rfl, hrecords, hw₁⟩
    · rw [if_neg hle, if_neg hle]
      exact ⟨rfl, hrecords, hw₁⟩
  · rw [if_neg hoffset, if_neg hoffset]
    exact ⟨rfl, rfl, hw⟩

/-- The record is remembered unless the policy could not run. -/
def remembered (C : Config) (block : Sequence) (offset : Nat) (found : Found)
    (records : RecordStore) : RecordStore :=
  if recordExtentIsKnown found.result then ⟨true, block, C.sentFlagOffset offset found.length⟩
  else records

theorem openRecord_shows (hP : Faithful P media) (hw : s.world.Shows media m₀ m t)
    (recordContent trailer : Bytes) :
    Ensures (openRecord P recordContent trailer) (fun outcome s' =>
      s'.records = s.records ∧ s'.world.Shows media m₀ m t ∧ ∃ env,
      outcome.1 = (match (P.answer (.openRecord recordContent trailer) env).1.1 with
        | .opened => .succeeded
        | .rejected => .rejected
        | .couldNotRun => .couldNotOpen) ∧
      outcome.2 = (fit recordContent.length
        (P.answer (.openRecord recordContent trailer) env).1.2).drop contentHeaderSize) s := by
  unfold openRecord
  apply ensures_ask
  have hquiet := hw.quiet hP (.openRecord recordContent trailer) rfl trivial
  cases hverdict : (P.answer (.openRecord recordContent trailer) s.world.env).1.1 <;>
    exact ⟨rfl, hquiet, s.world.env, by rw [hverdict]; rfl, rfl⟩

theorem validateRecord_shows (hP : Faithful P media) (hw : s.world.Shows media m₀ m t)
    (hcontent : m block = some content) (hfits : offset + C.recordSize length ≤ content.length) :
    Ensures (validateRecord P C block offset content.length length) (fun outcome s' =>
      s'.records = s.records ∧ s'.world.Shows media m₀ m t ∧
      if flagMarksSentOrDiscarded (C.flagAt content offset length) = true then
        outcome = (.finishedWith, [])
      else ∃ env,
        outcome.1 = (match (P.answer (.openRecord (contentAt content offset length)
          (C.trailerAt content offset length)) env).1.1 with
          | .opened => .succeeded
          | .rejected => .rejected
          | .couldNotRun => .couldNotOpen) ∧
        outcome.2 = (fit (contentAt content offset length).length
          (P.answer (.openRecord (contentAt content offset length)
            (C.trailerAt content offset length)) env).1.2).drop contentHeaderSize) s := by
  have hmessage : offset + contentHeaderSize + length ≤ content.length := by
    unfold contentHeaderSize
    unfold Config.recordSize at hfits
    omega
  have htail : trailerOffset offset length + (C.trailerSize + 1) ≤ content.length := by
    unfold trailerOffset contentHeaderSize
    unfold Config.recordSize at hfits
    omega
  unfold validateRecord
  apply (readSpan_shows hP hw hcontent).bind
  rintro _ s₁ ⟨rfl, hrecords₁, hw₁⟩
  rw [if_pos hmessage]
  dsimp only
  apply (readSpan_shows hP hw₁ hcontent).bind
  rintro _ s₂ ⟨rfl, hrecords₂, hw₂⟩
  rw [if_pos htail]
  dsimp only
  have hflag : (span content (trailerOffset offset length) (C.trailerSize + 1)).getD C.trailerSize
      sentFlagUnsent = C.flagAt content offset length :=
    getD_span (Nat.lt_succ_self _)
  have htrailer : (span content (trailerOffset offset length) (C.trailerSize + 1)).take
      C.trailerSize = C.trailerAt content offset length := by
    rw [span, List.take_take, Nat.min_eq_left (Nat.le_succ _)]
    rfl
  rw [hflag, htrailer]
  by_cases hmarked : flagMarksSentOrDiscarded (C.flagAt content offset length) = true
  · rw [if_pos hmarked, ensures_pure]
    exact ⟨hrecords₂.trans hrecords₁, hw₂, by rw [if_pos hmarked]⟩
  · rw [if_neg hmarked]
    apply (openRecord_shows hP hw₂ _ _).mono
    rintro outcome s' ⟨hrecords', hw', hverdict⟩
    refine ⟨hrecords'.trans (hrecords₂.trans hrecords₁), hw', ?_⟩
    rw [if_neg hmarked]
    exact hverdict

theorem read_shows (hP : Faithful P media) (hw : s.world.Shows media m₀ m t)
    (hcontent : m block = some content) {maxSize : Nat} :
    Ensures (read P C block offset content.length maxSize) (fun found s' =>
      ReadAt P C content offset maxSize found ∧
      s'.records = remembered C block offset found s.records ∧ s'.world.Shows media m₀ m t) s := by
  unfold read
  apply (readRecordExtent_shows hP hw hcontent).bind
  rintro _ s₁ ⟨rfl, hrecords₁, hw₁⟩
  cases hextent : C.extentAt content offset with
  | error result =>
    dsimp only
    rw [ensures_pure]
    rcases C.extentAt_error hextent with ⟨rfl, -⟩ | ⟨rfl, -⟩
    · exact ⟨.endOfData hextent, hrecords₁, hw₁⟩
    · exact ⟨.corrupt hextent, hrecords₁, hw₁⟩
  | ok length =>
    dsimp only
    apply (validateRecord_shows hP hw₁ hcontent (C.extentAt_ok hextent).2.1).bind
    rintro ⟨result, message⟩ s₂ ⟨hrecords₂, hw₂, hverdict⟩
    split at hverdict
    · next hmarked =>
      cases hverdict
      exact ⟨.finishedWith hextent hmarked, rfl, hw₂⟩
    · next hmarked =>
      obtain ⟨env, hresult, hbytes⟩ := hverdict
      have hunmarked : flagMarksSentOrDiscarded (C.flagAt content offset length) = false := by
        simpa using hmarked
      dsimp only at hresult hbytes
      generalize hopen : (P.answer (.openRecord (contentAt content offset length)
          (C.trailerAt content offset length)) env).1.1 = verdict at hresult
      cases verdict with
      | opened =>
        subst hresult
        rw [hbytes]
        exact ⟨.opened hextent hunmarked hopen, rfl, hw₂⟩
      | rejected =>
        subst hresult
        exact ⟨.rejected hextent hunmarked hopen, rfl, hw₂⟩
      | couldNotRun =>
        subst hresult
        exact ⟨.couldNotOpen hextent hunmarked hopen, hrecords₂.trans hrecords₁, hw₂⟩

/-! ## Appending and marking -/

/-- The bytes of a record whose content and trailer the policy has sealed. -/
def recordBytes (C : Config) (data sealedContent trailer : Bytes) : Bytes :=
  fit (header (toUint16 data.length) ++ data).length sealedContent ++ fit C.trailerSize trailer ++
    [sentFlagUnsent]

theorem append_shows (hP : Faithful P media) (hw : s.world.Shows media m₀ m t)
    (hpresent : (m block).isSome = true) (data : Bytes) :
    Ensures (append P C block data) (fun result s' => s'.records = s.records ∧
      ((result = .sealFailed ∧ s'.world.Shows media m₀ m
          (t ++ [.call (.sealRecord (header (toUint16 data.length) ++ data)) none])) ∨
        (result = .succeeded ∧ ∃ sealedContent trailer env,
          (P.answer (.sealRecord (header (toUint16 data.length) ++ data)) env).1 =
            some (sealedContent, trailer) ∧
          s'.world.Shows media m₀
            (m.after (.append block (recordBytes C data sealedContent trailer)))
            (t ++ [.call (.sealRecord (header (toUint16 data.length) ++ data))
                (some (sealedContent, trailer)),
              .call (.append block (recordBytes C data sealedContent trailer)) true])))) s := by
  unfold append assembleRecord
  rw [ensures_bind]
  apply ensures_ask
  have hseal := hw.call hP (.sealRecord (header (toUint16 data.length) ++ data)) rfl trivial
    (by rintro _ _ _ ⟨⟩)
  cases houtcome : (P.answer (.sealRecord (header (toUint16 data.length) ++ data))
      s.world.env).1 with
  | none =>
    rw [houtcome] at hseal
    exact ⟨rfl, .inl ⟨rfl, hseal, by simp [settled]⟩⟩
  | some outcome =>
    obtain ⟨sealedContent, trailer⟩ := outcome
    rw [houtcome] at hseal
    have hsealed : World.Shows media m₀ m
        (t ++ [.call (.sealRecord (header (toUint16 data.length) ++ data))
          (some (sealedContent, trailer))])
        (s.world.asked P (.sealRecord (header (toUint16 data.length) ++ data))) :=
      ⟨hseal, by simp [settled]⟩
    dsimp only
    rw [ensures_pure]
    apply ensures_ask
    have happend := hsealed.call hP (.append block (recordBytes C data sealedContent trailer)) rfl
      hpresent (by rintro _ _ _ ⟨⟩)
    have hanswer : (P.answer (.append block (recordBytes C data sealedContent trailer))
        (s.world.asked P (.sealRecord (header (toUint16 data.length) ++ data))).env).1 = true := by
      apply hP.append
      rw [hsealed.media_eq]
      exact hpresent
    rw [hanswer, List.append_assoc] at happend
    rw [ensures_pure]
    refine ⟨rfl, .inr ⟨if_pos hanswer, sealedContent, trailer, _, houtcome, happend, ?_⟩⟩
    rw [List.append_cons]
    simp [settled]

theorem markLastReadAsSent_shows (hP : Faithful P media) (hw : s.world.Shows media m₀ m t)
    (hcovers : s.records.hasReadRecord = true → m.Covers
      (.writeAt s.records.lastReadBlockIndex s.records.lastSentFlagOffset [sentFlagSent])) :
    Ensures (markLastReadAsSent P) (fun result s' =>
      (s.records.hasReadRecord = false ∧ result = .nothingRead ∧ s'.records = s.records ∧
        s'.world.Shows media m₀ m t) ∨
      (s.records.hasReadRecord = true ∧ result = .succeeded (s.records.lastSentFlagOffset + 1) ∧
        s'.records = { s.records with hasReadRecord := false } ∧
        s'.world.Shows media m₀
          (m.after (.writeAt s.records.lastReadBlockIndex s.records.lastSentFlagOffset
            [sentFlagSent]))
          (t ++ [.call (.writeAt s.records.lastReadBlockIndex s.records.lastSentFlagOffset
            [sentFlagSent]) true]))) s := by
  unfold markLastReadAsSent
  rw [ensures_bind, ensures_records]
  apply Ensures.ite
  · intro hread
    apply ensures_ask
    have hcall := hw.call hP (.writeAt s.records.lastReadBlockIndex s.records.lastSentFlagOffset
      [sentFlagSent]) rfl (hcovers hread) nofun
    have hanswer : (P.answer (.writeAt s.records.lastReadBlockIndex s.records.lastSentFlagOffset
        [sentFlagSent]) s.world.env).1 = true := by
      apply hP.writeAt
      rw [hw.media_eq]
      exact hcovers hread
    rw [hanswer] at hcall ⊢
    exact .inr ⟨hread, rfl, rfl, hcall, by simp [settled]⟩
  · intro hunread
    rw [ensures_pure]
    exact .inl ⟨by simpa using hunread, rfl, rfl, hw⟩

/-! ## The walks -/

theorem findFirstUnsentLoop_shows (hP : Faithful P media) (hcontent : m block = some content)
    {cursor fuel : Nat} (hw : s.world.Shows media m₀ m t) :
    Ensures (findFirstUnsentLoop P C block content.length cursor fuel) (fun outcome s' =>
      outcome = C.firstUnsent content cursor fuel ∧ s'.records = s.records ∧
      s'.world.Shows media m₀ m t) s := by
  induction fuel generalizing cursor s with
  | zero => exact ⟨rfl, rfl, hw⟩
  | succ fuel ih =>
    unfold findFirstUnsentLoop Config.firstUnsent
    apply Ensures.ite
    · intro hinside
      apply (readRecordExtent_shows hP hw hcontent).bind
      rintro _ s₁ ⟨rfl, hrecords₁, hw₁⟩
      cases hextent : C.extentAt content cursor with
      | error result =>
        rcases C.extentAt_error hextent with ⟨rfl, -⟩ | ⟨rfl, -⟩
        · exact ⟨rfl, hrecords₁, hw₁⟩
        · exact ⟨rfl, hrecords₁, hw₁⟩
      | ok length =>
        have hfits := (C.extentAt_ok hextent).2.1
        have hflag : C.sentFlagOffset cursor length + 1 ≤ content.length := by
          rwa [C.sentFlagOffset_succ]
        dsimp only
        apply (readSpan_shows hP hw₁ hcontent).bind
        rintro _ s₂ ⟨rfl, hrecords₂, hw₂⟩
        rw [if_pos hflag]
        dsimp only
        rw [getD_span Nat.zero_lt_one, Nat.add_zero]
        change Ensures (if flagMarksSentOrDiscarded (C.flagAt content cursor length) = true then _
          else _) _ _
        split
        · apply (ih hw₂).mono
          rintro outcome s' ⟨rfl, hrecords', hw'⟩
          exact ⟨rfl, hrecords'.trans (hrecords₂.trans hrecords₁), hw'⟩
        · exact ⟨rfl, hrecords₂.trans hrecords₁, hw₂⟩
    · intro hend
      rw [ensures_pure]
      have hextent : C.extentAt content cursor = .error .endOfData := by
        rw [Config.extentAt, if_neg hend]
      rw [hextent]
      exact ⟨rfl, rfl, hw⟩

theorem scanToEndLoop_shows (hP : Faithful P media) (hcontent : m block = some content)
    {position fuel : Nat} (hw : s.world.Shows media m₀ m t) :
    Ensures (scanToEndLoop P C block content.length position fuel) (fun outcome s' =>
      outcome = C.scanEnd content position fuel ∧ s'.records = s.records ∧
      s'.world.Shows media m₀ m t) s := by
  induction fuel generalizing position s with
  | zero => exact ⟨rfl, rfl, hw⟩
  | succ fuel ih =>
    unfold scanToEndLoop Config.scanEnd
    apply Ensures.ite
    · intro hinside
      apply (readRecordExtent_shows hP hw hcontent).bind
      rintro _ s₁ ⟨rfl, hrecords₁, hw₁⟩
      cases hextent : C.extentAt content position with
      | error result =>
        rcases C.extentAt_error hextent with ⟨rfl, hend⟩ | ⟨rfl, -⟩
        · omega
        · exact ⟨rfl, hrecords₁, hw₁⟩
      | ok length =>
        dsimp only
        apply (ih hw₁).mono
        rintro outcome s' ⟨rfl, hrecords', hw'⟩
        exact ⟨rfl, hrecords'.trans hrecords₁, hw'⟩
    · intro hend
      rw [ensures_pure]
      have hextent : C.extentAt content position = .error .endOfData := by
        rw [Config.extentAt, if_neg hend]
      rw [hextent]
      exact ⟨rfl, rfl, hw⟩

end RecordStore

end SolidSyslog.Store
