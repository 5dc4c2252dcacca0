import SolidSyslog.Store.Bounds.Reading

/-!
# The operations of the store within bounds

Every call of the store, and `SolidSyslogBlockStore_Create`, leaves nothing out of bounds behind it;
a read ends, and when it hands nothing out there is nothing more to hand out or the policy would
not say.
-/

namespace SolidSyslog.Store

open Lib

variable {σ : Type} {P : Platform σ} {C : Config} {G : Prop}

namespace RecordStore

variable {s : RecordState σ}

/-- What an append leaves: a record that fits the buffer was shown to the policy, and the block is
longer by its size if the device took it. -/
theorem append_bounds (h : Always (WithinBounds P G C) s.world.trace) {block : Sequence}
    {data : Bytes} (hdata : data.length ≤ C.tunables.maxMessageSize) {size : Nat}
    (hsize : sizesKnown s.world.trace block = some size)
    (hroom : size + C.recordSize data.length ≤ C.maxBlockSize) :
    Ensures (append P C block data) (fun result s' => s'.records = s.records ∧
      Always (WithinBounds P G C) s'.world.trace ∧
      (result = .sealFailed → sizesKnown s'.world.trace = sizesKnown s.world.trace) ∧
      (result = .succeeded → sizesKnown s'.world.trace =
        Function.update (sizesKnown s.world.trace) block
          ((sizesKnown s.world.trace block).map (· + C.recordSize data.length)))) s := by
  unfold append assembleRecord
  rw [ensures_bind]
  apply ensures_ask
  have hseal : Always (WithinBounds P G C)
      (s.world.asked P (.sealRecord (header (toUint16 data.length) ++ data))).trace :=
    h.concat (C.fitsBuffer_of_length hdata)
  have hsizes : sizesKnown (s.world.asked P
      (.sealRecord (header (toUint16 data.length) ++ data))).trace =
      sizesKnown s.world.trace := by
    rw [World.asked_trace, sizesKnown_concat]
    rfl
  cases (P.answer (.sealRecord (header (toUint16 data.length) ++ data)) s.world.env).1 with
  | none => exact ⟨rfl, hseal, fun _ => hsizes, (by rintro ⟨⟩)⟩
  | some outcome =>
    obtain ⟨content, trailer⟩ := outcome
    dsimp only
    rw [ensures_pure]
    apply ensures_ask
    have hlength : (fit (header (toUint16 data.length) ++ data).length content ++
        fit C.trailerSize trailer ++ [sentFlagUnsent]).length = C.recordSize data.length := by
      simp [contentHeaderSize, Config.recordSize, Nat.add_assoc]
    generalize fit (header (toUint16 data.length) ++ data).length content ++
      fit C.trailerSize trailer ++ [sentFlagUnsent] = bytes at hlength ⊢
    rw [ensures_pure]
    refine ⟨rfl, hseal.concat ⟨size, ?_, hlength ▸ hroom⟩, ?_, ?_⟩
    · rw [hsizes, hsize]
    · split <;> rintro ⟨⟩
    · split
      · next htrue =>
        intro _
        dsimp only
        rw [World.asked_trace, sizesKnown_concat, htrue, hsizes, ← hlength]
        rfl
      · rintro ⟨⟩

end RecordStore

namespace BlockStore

variable {s s' : BlockStore σ}

/-! ## Reading -/

theorem settleRead_kept {maxSize : Nat} {found : RecordStore.Found} {s₁ : BlockStore σ}
    (h : Stopped P G C maxSize s found s₁) :
    Ensures (settleRead P found) (fun _ s' => Kept P G C s' ∧
      (found.result ≠ .succeeded → s'.hasUnsent = false ∨ Unsettled C s s')) s₁ := by
  have hother : ∀ result, found.result = result → result ≠ .deviceFailed → result ≠ .succeeded →
      Kept P G C s₁ ∧ (found.result ≠ .succeeded → s₁.hasUnsent = false ∨ Unsettled C s s₁) := by
    rintro _ rfl hfine hnone
    exact ⟨⟨h.calls, h.stands hfine⟩, fun _ => h.empty hfine hnone⟩
  unfold settleRead
  cases hresult : found.result with
  | succeeded =>
    have hkept : Kept P G C s₁ := ⟨h.calls, h.stands (by rw [hresult]; nofun)⟩
    dsimp only
    rw [ensures_bind, ensures_seqOf, ensures_bind, ensures_seqOf, ensures_bind, ensures_note,
      ensures_modify]
    refine ⟨⟨hkept.calls.concat trivial, fun hlive => ?_⟩, fun hnone => absurd rfl hnone⟩
    exact (hkept.stands hlive).plain rfl rfl ((Extends.refl _).concat rfl)
  | deviceFailed =>
    dsimp only
    rw [ensures_bind]
    apply ensures_freezeIfDeviceFailed
    · intro _
      rw [ensures_freeze]
      exact ⟨⟨h.calls.concat trivial, nofun⟩, fun _ => .inl (hasUnsent_of_frozen rfl)⟩
    · intro _
      exact ⟨⟨h.calls.concat trivial, nofun⟩, fun _ => .inl (hasUnsent_of_frozen rfl)⟩
  | endOfData => simpa [hresult] using hother _ hresult
  | corrupt => simpa [hresult] using hother _ hresult
  | rejected => simpa [hresult] using hother _ hresult
  | finishedWith => simpa [hresult] using hother _ hresult
  | couldNotOpen => simpa [hresult] using hother _ hresult

/-- What a read may answer: bytes within both bounds, or nothing where nothing is left or the policy
would not say. -/
structure ReadAnswer (C : Config) (maxSize : Nat) (s : BlockStore σ) (bytes : Option Bytes)
    (s' : BlockStore σ) : Prop where
  within : ∀ b, bytes = some b → b.length ≤ min maxSize C.tunables.maxMessageSize
  empty : bytes = none → 0 < maxSize → s'.hasUnsent = false ∨ Unsettled C s s'

theorem readNextUnsent_kept (h : Stands P G C s) (fuel maxSize : Nat) :
    Ensures (readNextUnsent P C fuel maxSize) (fun answer s' => Kept P G C s' ∧
      ∀ bytes, answer = some bytes → ReadAnswer C maxSize s bytes s') s := by
  unfold readNextUnsent
  rw [ensures_bind, ensures_get, h.live, if_neg Bool.false_ne_true, ensures_bind, ensures_seqOf]
  apply Ensures.ite
  · intro _
    apply (readLoop_stopped h maxSize fuel).bind
    rintro outcome s₁ ⟨hnone, hsome⟩
    cases outcome with
    | none => exact ⟨(hnone rfl).kept, nofun⟩
    | some found =>
      have hstopped := hsome found rfl
      apply (settleRead_kept hstopped).bind
      rintro _ s' ⟨hkept, hempty⟩
      rw [ensures_pure]
      refine ⟨hkept, fun bytes hbytes => ?_⟩
      rw [Option.some.injEq] at hbytes
      subst hbytes
      constructor
      · intro b hb
        split at hb
        · cases hb
          exact hstopped.copied.within
        · cases hb
      · intro hno hmax
        apply hempty
        intro hfound
        rw [if_pos (hstopped.copied.nonempty hfound hmax)] at hno
        cases hno
  · intro hnothing
    rw [ensures_pure]
    refine ⟨h.kept, fun bytes hbytes => ?_⟩
    cases hbytes
    exact ⟨nofun, fun _ _ => .inl (hasUnsent_of_seq (by simpa using hnothing))⟩

/-- A read ends. -/
theorem readNextUnsent_ends (h : Stands P G C s) (maxSize : Nat) :
    ∃ turns bytes s', ∀ fuel, turns ≤ fuel →
      readNextUnsent P C fuel maxSize s = (some bytes, s') := by
  obtain ⟨turns, found, s₁, hloop⟩ := readLoop_ends (P := P) h maxSize
  cases hunsent : s.seq.hasUnsent with
  | true =>
    refine ⟨turns, if 0 < found.bytes.length then some found.bytes else none,
      (settleRead P found s₁).2, fun fuel hfuel => ?_⟩
    apply Ensures.eq_mk
    unfold readNextUnsent
    rw [ensures_bind, ensures_get, h.live, if_neg Bool.false_ne_true, ensures_bind, ensures_seqOf,
      hunsent, if_pos rfl, ensures_bind]
    unfold Ensures
    rw [hloop fuel hfuel]
    exact ⟨rfl, rfl⟩
  | false =>
    refine ⟨0, none, s, fun fuel _ => ?_⟩
    apply Ensures.eq_mk
    unfold readNextUnsent
    rw [ensures_bind, ensures_get, h.live, if_neg Bool.false_ne_true, ensures_bind, ensures_seqOf,
      hunsent, if_neg Bool.false_ne_true, ensures_pure]
    exact ⟨rfl, rfl⟩

/-! ## Writing -/

theorem appendRecord_kept (h : Stands P G C s) {data : Bytes}
    (hdata : data.length ≤ C.tunables.maxMessageSize)
    (hroom : s.seq.writePosition + C.recordSize data.length ≤ C.maxBlockSize) :
    Ensures (appendRecord P C (C.recordSize data.length) data) (fun _ s' => Kept P G C s') s := by
  unfold appendRecord
  rw [ensures_bind, ensures_seqOf, ensures_bind, ensures_onRecords]
  apply (RecordStore.append_bounds h.seq.calls hdata h.seq.position hroom).mono
  rintro result ⟨records₁, world₁⟩ ⟨-, hcalls, hsealFailed, hsucceeded⟩
  unfold settleAppend
  cases result with
  | succeeded =>
    have hsizes : sizesKnown world₁.trace =
        Function.update (sizesKnown s.world.trace) s.seq.writeSequence
          (some (s.seq.writePosition + C.recordSize data.length)) := by
      have hposition : sizesKnown s.world.trace s.seq.writeSequence = some s.seq.writePosition :=
        h.seq.position
      have happended := hsucceeded rfl
      dsimp only at happended
      rw [hposition] at happended
      exact happended
    dsimp only
    rw [ensures_bind, ensures_onSeq]
    apply (BlockSequence.noteRecordWritten_grounded h.seq (C.recordSize data.length) hsizes
      hcalls).mono
    rintro _ ⟨seq₂, world₂⟩ ⟨h₂, hfine⟩
    exact Stands.kept ⟨h₂, hfine.trans h.fine, h.live⟩
  | deviceFailed =>
    dsimp only
    apply (kept_freeze (P := P) hcalls .appendFailed).bind
    rintro _ s' ⟨hkept, -⟩
    exact hkept
  | sealFailed =>
    have hstands : Stands P G C { s with records := records₁, world := world₁ } := by
      have hsizes := hsealFailed rfl
      dsimp only at hsizes
      refine ⟨⟨h.seq.readsOldest, h.seq.present, ?_, ?_, hcalls⟩, h.fine, h.live⟩
      · dsimp only
        rw [hsizes]
        exact h.seq.position
      · dsimp only
        rw [hsizes]
        exact h.seq.size
    dsimp only
    apply Ensures.bind ((plainly_unreported _).reportSealFailed (.refl _))
    intro _ s' hplain
    exact (hstands.plainly hplain).kept

theorem storeRecord_kept (h : Stands P G C s) {data : Bytes}
    (hdata : data.length ≤ C.tunables.maxMessageSize)
    (hother : G → ¬ BlockSequence.StartsOver P C ⟨s.seq, s.world⟩
      (C.recordSize (toUint16 data.length))) :
    Ensures (storeRecord P C data) (fun _ s' => Kept P G C s') s := by
  have hlength : toUint16 data.length = data.length :=
    toUint16_of_le (hdata.trans (C.tunables.maxMessageSize_le.trans (by decide)))
  unfold storeRecord
  dsimp only
  rw [ensures_bind, ensures_onSeq]
  have hfits : C.recordSize (toUint16 data.length) ≤ C.maxBlockSize := by
    rw [hlength]
    exact Config.recordSize_le_maxBlockSize hdata
  apply (BlockSequence.prepareForWrite_grounded h.seq hfits hother).mono
  rintro ⟨prepared, changed⟩ ⟨seq₁, world₁⟩ ⟨h₁, hroom⟩
  dsimp only
  refine Ensures.bind (freezeIfDeviceFailed_kept (G := G) (C := C) ?_ ?_) ?_
  · exact h₁
  · exact h.live
  rintro failed s₂ ⟨hkept, -, hfine⟩
  cases failed with
  | true => exact hkept
  | false =>
    obtain ⟨rfl, h₂⟩ := hfine rfl
    rw [if_neg Bool.false_ne_true]
    apply Ensures.ite
    · intro _
      apply Ensures.bind ((plainly_unreported _).reportRefusal (.refl _))
      intro _ s' hplain
      exact (h₂.plainly hplain).kept
    · intro hprepared
      apply Ensures.bind ((plainly_unreported _).reportEviction (.refl _))
      intro _ s₃ hplain
      have h₃ := h₂.plainly hplain
      have hroom₃ : s₃.seq.writePosition + C.recordSize data.length ≤ C.maxBlockSize := by
        rw [hplain.seq, ← hlength]
        exact hroom (by simpa using hprepared)
      rw [hlength]
      apply Ensures.ite
      · intro _
        rw [ensures_bind, ensures_forgetLastRead]
        refine appendRecord_kept ?_ hdata hroom₃
        exact ⟨h₃.seq, h₃.fine, h₃.live⟩
      · intro _
        exact appendRecord_kept h₃ hdata hroom₃

theorem write_kept (h : Stands P G C s) (message : Message C)
    (hother : G → ¬ TakesReadBlock P s (.write message)) :
    Ensures (write P C message.bytes) (fun _ s' => Kept P G C s') s := by
  unfold write
  rw [ensures_bind, ensures_get, h.live, if_neg Bool.false_ne_true]
  apply Ensures.ite
  · intro hpos
    apply storeRecord_kept h message.fits
    intro hG hstarts
    exact hother hG ⟨message, rfl, h.live, hpos, hstarts⟩
  · intro _
    exact h.kept

/-! ## Marking -/

/-- A flag was written in place and the cursor moved. -/
theorem Stands.flagWritten (h : Stands P G C s) (block : Sequence) (offset cursor : Nat)
    (bytes : Bytes) :
    BlockSequence.Grounded P G C
      ⟨s.seq.setReadCursor cursor, s.world.asked P (.writeAt block offset bytes)⟩ := by
  have hsizes : sizesKnown (s.world.asked P (.writeAt block offset bytes)).trace =
      sizesKnown s.world.trace := by
    rw [World.asked_trace, sizesKnown_concat]
    rfl
  refine ⟨h.seq.readsOldest, h.seq.present, ?_, ?_, h.seq.calls.concat trivial⟩
  · dsimp only
    rw [hsizes]
    exact h.seq.position
  · dsimp only
    rw [hsizes]
    exact h.seq.size

theorem markSent_kept (h : Stands P G C s) :
    Ensures (markSent P C) (fun _ s' => Kept P G C s') s := by
  unfold markSent
  rw [ensures_bind, ensures_get, h.live, if_neg Bool.false_ne_true, ensures_bind,
    ensures_onRecords]
  unfold RecordStore.markLastReadAsSent
  rw [ensures_bind, RecordStore.ensures_records]
  apply Ensures.ite
  · intro _
    apply RecordStore.ensures_ask
    cases (P.answer (.writeAt s.records.lastReadBlockIndex s.records.lastSentFlagOffset
        [sentFlagSent]) s.world.env).1 with
    | true =>
      rw [if_pos rfl, ensures_bind, RecordStore.ensures_setRecords, ensures_pure]
      dsimp only
      rw [ensures_bind, ensures_modify, ensures_bind, ensures_onSeq]
      have hgrounded := h.flagWritten s.records.lastReadBlockIndex s.records.lastSentFlagOffset
        (s.records.lastSentFlagOffset + 1) [sentFlagSent]
      apply (BlockSequence.disposeReadBlockIfDrained_grounded hgrounded).mono
      rintro changed ⟨seq₂, world₂⟩ ⟨h₂, -⟩
      refine Ensures.bind (freezeIfDeviceFailed_kept (G := G) (C := C) ?_ ?_) ?_
      · exact h₂
      · exact h.live
      rintro failed s₃ ⟨hkept, -, -⟩
      apply Ensures.ite
      · intro _
        exact ⟨hkept.calls, fun hlive =>
          ⟨(hkept.stands hlive).seq, (hkept.stands hlive).fine, hlive⟩⟩
      · intro _
        exact hkept
    | false =>
      rw [if_neg Bool.false_ne_true, ensures_pure]
      refine ⟨Always.concat (h.seq.calls.concat ?_) trivial, nofun⟩
      trivial
  · intro _
    exact h.kept

/-! ## Starting -/

theorem scanReadBlock_kept (h : Stands P G C s) :
    Ensures (scanReadBlock P C) (fun result s' => Kept P G C s' ∧
      (result ≠ .deviceFailed → Stands P G C s' ∧ BlockSequence.Stays
        (s.seq.setReadCursor s'.seq.readCursor) s'.seq)) s := by
  unfold scanReadBlock
  rw [ensures_bind, ensures_onSeq]
  apply (BlockSequence.readBlockSizeOf_grounded h.seq).mono
  rintro size ⟨seq₁, world₁⟩ ⟨h₁, hasked⟩
  cases size with
  | none =>
    dsimp only
    apply (kept_freeze (P := P) h₁.calls .sizeFailed).bind
    rintro _ s' ⟨hkept, -⟩
    exact ⟨hkept, fun hfine => absurd rfl hfine⟩
  | some size =>
    have hstays := hasked.stays nofun
    have hreadable : seq₁.readable = some size := hasked.readable nofun
    dsimp only
    rw [ensures_bind, ensures_seqOf, ensures_bind, ensures_onRecords]
    unfold RecordStore.findFirstUnsent
    apply RecordStore.findFirstUnsentLoop_looks.mono
    rintro ⟨cursor, scanned⟩ ⟨records₂, world₂⟩ ⟨-, hlooks⟩
    have hlooks' : Extends (Event.LooksAt C seq₁.readSequence size) world₁.trace world₂.trace :=
      hlooks
    have hcalls : Always (WithinBounds P G C) world₂.trace :=
      always_of_looks hlooks' h₁.calls fun hG => h₁.readable_known hreadable hG
    have hsizes := sizesKnown_of_looks hlooks'
    have hgrounded : BlockSequence.Grounded P G C ⟨seq₁.setReadCursor cursor, world₂⟩ := by
      refine ⟨h₁.readsOldest, h₁.present, ?_, ?_, hcalls⟩
      · dsimp only
        rw [hsizes]
        exact h₁.position
      · dsimp only
        rw [hsizes]
        exact h₁.size
    dsimp only
    rw [ensures_bind, ensures_modify]
    apply Ensures.ite
    · intro hfailed
      apply Ensures.bind (kept_freeze (P := P) hcalls .readFailed)
      rintro _ s' ⟨hkept, -⟩
      have hscanned : scanned = .deviceFailed := by simpa using hfailed
      exact ⟨hkept, fun hfine => absurd hscanned hfine⟩
    · intro _
      rw [ensures_pure]
      have hstands : Stands P G C { s with
          seq := seq₁.setReadCursor cursor
          records := records₂
          world := world₂ } :=
        ⟨hgrounded, hstays.deviceFailed.trans h.fine, h.live⟩
      refine ⟨hstands.kept, fun _ => ⟨hstands, hstays.oldestSequence, hstays.readSequence,
        hstays.writeSequence, rfl, hstays.writePosition, hstays.deviceFailed⟩⟩

theorem resumeLoop_kept (h : Stands P G C s) {fuel : Nat}
    (hfuel : ahead s.seq.readSequence s.seq.writeSequence < fuel) :
    Ensures (resumeLoop P C fuel) (fun result s' => Kept P G C s' ∧
      (result ≠ .deviceFailed → s'.seq.deviceFailed = false → Stands P G C s')) s := by
  induction fuel generalizing s with
  | zero => exact absurd hfuel (Nat.not_lt_zero _)
  | succ fuel ih =>
    unfold resumeLoop
    apply (scanReadBlock_kept h).bind
    rintro scanned s₁ ⟨hkept, hfine⟩
    apply Ensures.ite
    · intro hcorrupt
      have hscanned : scanned = .corrupt := by simpa using hcorrupt
      obtain ⟨h₁, hstays⟩ := hfine (by rw [hscanned]; nofun)
      apply (abandonRestOfReadBlock_kept h₁).bind
      rintro movedOn s₂ ⟨hkept₂, hmoved, hstayed⟩
      cases movedOn with
      | true =>
        obtain ⟨h₂, hleft⟩ := hmoved rfl
        apply ih h₂
        have hnearer : ahead s₂.seq.readSequence s₁.seq.writeSequence <
            ahead s₁.seq.readSequence s₁.seq.writeSequence := hleft.nearer
        have hwrite : s₂.seq.writeSequence = s₁.seq.writeSequence := hleft.writeSequence
        have hread₁ : s₁.seq.readSequence = s.seq.readSequence := hstays.readSequence
        have hwrite₁ : s₁.seq.writeSequence = s.seq.writeSequence := hstays.writeSequence
        rw [hwrite]
        rw [hread₁, hwrite₁] at hnearer
        rw [hwrite₁]
        omega
      | false =>
        refine ⟨hkept₂, fun _ hdevice => ?_⟩
        rcases hstayed rfl with ⟨-, hfailed⟩ | ⟨h₂, -⟩
        · exact absurd (hfailed.symm.trans hdevice) (by decide)
        · exact h₂
    · intro _
      exact ⟨hkept, fun hscanned _ => (hfine hscanned).1⟩

theorem checkWriteBlock_kept (h : Stands P G C s) :
    Ensures (checkWriteBlock P C) (fun _ s' => Kept P G C s') s := by
  unfold checkWriteBlock
  rw [ensures_bind, ensures_seqOf]
  dsimp only
  rw [ensures_bind, ensures_onRecords]
  unfold RecordStore.scanToEnd
  apply RecordStore.scanToEndLoop_looks.mono
  rintro result ⟨records₁, world₁⟩ ⟨-, hlooks⟩
  have hlooks' : Extends (Event.LooksAt C s.seq.writeSequence s.seq.writePosition) s.world.trace
      world₁.trace := hlooks
  have hcalls : Always (WithinBounds P G C) world₁.trace :=
    always_of_looks hlooks' h.seq.calls fun _ => h.seq.position
  have hstands : Stands P G C { s with records := records₁, world := world₁ } := by
    have hsizes := sizesKnown_of_looks hlooks'
    refine ⟨⟨h.seq.readsOldest, h.seq.present, ?_, ?_, hcalls⟩, h.fine, h.live⟩
    · dsimp only
      rw [hsizes]
      exact h.seq.position
    · dsimp only
      rw [hsizes]
      exact h.seq.size
  cases result with
  | deviceFailed => exact ⟨hcalls.concat trivial, nofun⟩
  | corrupt => exact hstands.markWriteBlockCorrupt.kept
  | clean => exact hstands.kept

theorem initialise_kept {w : World σ} (hcalls : Always (WithinBounds P G C) w.trace) :
    Ensures (initialise P C) (fun _ s' => Kept P G C s') (initial w) := by
  unfold initialise
  rw [ensures_bind, ensures_onSeq]
  apply (BlockSequence.openBlocks_grounded rfl hcalls).mono
  rintro opened ⟨seq₁, world₁⟩ ⟨hcalls₁, hopened⟩
  apply Ensures.ite
  · intro htrue
    obtain ⟨h₁, hfine⟩ := hopened htrue
    have hstands : Stands P G C { initial w with seq := seq₁, world := world₁ } :=
      ⟨h₁, hfine, rfl⟩
    unfold resumeFromExistingBlock
    apply (resumeLoop_kept hstands ?_).bind
    · rintro result s₂ ⟨hkept, hresumed⟩
      rw [ensures_bind, ensures_seqOf]
      apply Ensures.ite
      · intro hcheck
        rw [Bool.and_eq_true] at hcheck
        exact checkWriteBlock_kept (hresumed (by simpa using hcheck.1) (by simpa using hcheck.2))
      · intro _
        exact hkept
    · have hlt := ahead_lt seq₁.readSequence seq₁.writeSequence
      change ahead seq₁.readSequence seq₁.writeSequence < modulus + 1
      omega
  · intro _
    rw [ensures_bind, ensures_seqOf]
    exact ⟨hcalls₁.concat trivial, nofun⟩

theorem created_kept (P : Platform σ) (C : Config) (env : σ) : Kept P G C (created P C env) := by
  have hcreate : Ensures (create P C) (fun _ s' => Kept P G C s') (initial ⟨env, []⟩) := by
    unfold create
    apply Ensures.ite
    · intro _
      rw [ensures_bind, ensures_report]
      exact initialise_kept (Always.nil.concat trivial)
    · intro _
      exact initialise_kept Always.nil
  exact hcreate

/-! ## Runs -/

theorem perform_kept (h : Kept P G C s) (fuel : Nat) (op : Op C)
    (hother : G → ¬ TakesReadBlock P s op) :
    Ensures (perform P fuel op) (fun _ s' => Kept P G C s') s := by
  cases hfrozen : s.frozen with
  | true =>
    unfold Ensures
    rw [perform_of_frozen hfrozen]
    exact h
  | false =>
    have hstands := h.stands hfrozen
    unfold perform
    cases op with
    | write message =>
      apply (write_kept hstands message hother).bind
      intro _ s₁ h₁
      exact h₁
    | readNextUnsent maxSize =>
      apply (readNextUnsent_kept hstands fuel maxSize).bind
      rintro outcome s₁ ⟨h₁, -⟩
      cases outcome <;> exact h₁
    | markSent =>
      apply (markSent_kept hstands).bind
      intro _ s₁ h₁
      exact h₁
    | hasUnsent => exact h
    | isTransient => exact h

end BlockStore

end SolidSyslog.Store
