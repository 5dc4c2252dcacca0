import SolidSyslog.Store.Buffered.Records

/-!
# The store with its buffer does what the store does

Where every size the device gives, and the block size, leave room for a record below the top of
`size_t`, no sum of the record store wraps. The block store over the buffer then answers and leaves
what the block store without one does, and nothing beyond the buffer is touched.
-/

namespace SolidSyslog.Store

open Lib

variable {σ : Type} {P : Platform σ} {C : Config} {G : Prop}

/-! ## Sizes -/

/-- The sizes the device gives and the size blocks grow to are at least `RECORD_BUFFER_SIZE` below
`SIZE_MAX`. -/
structure Roomy (P : Platform σ) (C : Config) : Prop where
  told : ∀ size, P.Tells size → C.Addressable size
  most : C.Addressable C.maxBlockSize

theorem Config.Addressable.of_le {size size' : Nat} (h : C.Addressable size) (hle : size' ≤ size) :
    C.Addressable size' :=
  (Nat.add_le_add_right hle _).trans_lt h

/-- What one more event leaves known is addressable. -/
theorem Roomy.learn (hroomy : Roomy P C) {before : List Event} {event : Event}
    (hwithin : WithinBounds P G C before event)
    (hbefore : ∀ block size, sizesKnown before block = some size → C.Addressable size)
    {block : Sequence} {size : Nat}
    (hknown : event.learn (sizesKnown before) block = some size) : C.Addressable size := by
  -- the events that change what is known are a size told, an acquire, a dispose and an append
  unfold Event.learn at hknown
  split at hknown
  · next block' told =>
    by_cases heq : block = block'
    · rw [heq, Function.update_self, Option.some.injEq] at hknown
      exact hroomy.told size (hwithin size (congrArg some hknown))
    · rw [Function.update_of_ne heq] at hknown
      exact hbefore block size hknown
  · next block' =>
    by_cases heq : block = block'
    · rw [heq, Function.update_self, Option.some.injEq] at hknown
      exact hroomy.most.of_le (hknown ▸ Nat.zero_le _)
    · rw [Function.update_of_ne heq] at hknown
      exact hbefore block size hknown
  · next block' =>
    by_cases heq : block = block'
    · rw [heq, Function.update_self] at hknown
      cases hknown
    · rw [Function.update_of_ne heq] at hknown
      exact hbefore block size hknown
  · next block' bytes =>
    obtain ⟨size', hsize', hfits⟩ := hwithin
    by_cases heq : block = block'
    · rw [heq, Function.update_self, hsize', Option.map_some, Option.some.injEq] at hknown
      exact hroomy.most.of_le (hknown ▸ hfits)
    · rw [Function.update_of_ne heq] at hknown
      exact hbefore block size hknown
  · exact hbefore block size hknown

/-- Every size known is addressable. -/
theorem Roomy.known (hroomy : Roomy P C) {trace : List Event}
    (h : Always (WithinBounds P G C) trace) {block : Sequence} {size : Nat}
    (hknown : sizesKnown trace block = some size) : C.Addressable size := by
  induction trace using List.reverseRecOn generalizing block size with
  | nil => cases hknown
  | append_singleton before event ih =>
    rw [sizesKnown_concat] at hknown
    have hbefore : Always (WithinBounds P G C) before := fun first entry rest heq =>
      h first entry (rest ++ [event]) (by simp [heq])
    apply hroomy.learn (h before event [] rfl) _ hknown
    intro block' size' hsize'
    exact ih hbefore hsize'

/-- The size of the read block is addressable. -/
theorem Roomy.readable (hroomy : Roomy P C) {s : SequenceState σ}
    (h : BlockSequence.Grounded P G C s) {size : Nat} (hsize : s.seq.readable = some size) :
    C.Addressable size := by
  unfold BlockSequence.readable at hsize
  split at hsize
  · rw [Option.some.injEq] at hsize
    exact hroomy.known h.calls (hsize ▸ h.position)
  · split at hsize
    · next hknown =>
      rw [Option.some.injEq] at hsize
      exact hroomy.told size (hsize ▸ (h.size hknown).1)
    · cases hsize

namespace BufferedStore

variable {t : BufferedStore σ}

/-- The buffer is as it should be. -/
def Intact (C : Config) (t : BufferedStore σ) : Prop :=
  t.buffer.Intact C

theorem onStore_mirrors {α : Type} (ht : t.Intact C) (action : BlockStore.Action σ α) :
    Mirrors store (Intact C) (onStore action) action t :=
  Mirrors.zoom ht (fun _ => rfl) (fun _ h => h)

/-- What the record store over the buffer mirrors, the block store over it does. -/
theorem onRecords_mirrors {α : Type} {action : BufferedRecords.Action σ α}
    {action' : RecordStore.Action σ α}
    (h : Mirrors BufferedRecords.store (·.buffer.Intact C) action action'
      ⟨⟨t.store.records, t.store.world⟩, t.buffer⟩) :
    Mirrors store (Intact C) (onRecords action) (BlockStore.onRecords action') t := by
  obtain ⟨hok, heq⟩ := h
  obtain ⟨hanswer, hstore⟩ := Prod.ext_iff.1 heq
  refine ⟨hok, Prod.ext hanswer ?_⟩
  exact congrArg
    (fun r : RecordState σ => { t.store with records := r.records, world := r.world }) hstore

/-! ## Writing -/

theorem appendRecord_mirrors (hroomy : Roomy P C) (ht : t.Intact C) {data : Bytes}
    (hdata : data.length ≤ C.tunables.maxMessageSize) (recordSize : Nat) :
    Mirrors store (Intact C) (appendRecord P C recordSize data)
      (BlockStore.appendRecord P C recordSize data) t := by
  unfold appendRecord BlockStore.appendRecord
  apply (onStore_mirrors ht BlockStore.seqOf).bind'
  intro seq t₁ ht₁
  have happend : Mirrors store (Intact C)
      (onRecords (BufferedRecords.append P C seq.writeSequence data))
      (BlockStore.onRecords (RecordStore.append P C seq.writeSequence data)) t₁ := by
    apply onRecords_mirrors
    exact BufferedRecords.append_mirrors (by exact ht₁) hroomy.most hdata
  apply happend.bind'
  intro appended t₂ ht₂
  exact onStore_mirrors ht₂ _

theorem storeRecord_mirrors (hroomy : Roomy P C) (ht : t.Intact C) {data : Bytes}
    (hdata : data.length ≤ C.tunables.maxMessageSize) :
    Mirrors store (Intact C) (storeRecord P C data) (BlockStore.storeRecord P C data) t := by
  unfold storeRecord BlockStore.storeRecord
  apply (onStore_mirrors ht _).bind'
  rintro ⟨prepared, changed⟩ t₁ ht₁
  apply (onStore_mirrors ht₁ _).bind'
  intro failed t₂ ht₂
  apply Mirrors.ite
  · intro _
    exact .pure ht₂
  · intro _
    apply Mirrors.ite
    · intro _
      apply (onStore_mirrors ht₂ _).bind'
      intro _ t₃ ht₃
      exact .pure ht₃
    · intro _
      apply (onStore_mirrors ht₂ _).bind'
      intro _ t₃ ht₃
      apply Mirrors.ite
      · intro _
        apply (onStore_mirrors ht₃ _).bind'
        intro _ t₄ ht₄
        exact appendRecord_mirrors hroomy ht₄ hdata _
      · intro _
        exact appendRecord_mirrors hroomy ht₃ hdata _

theorem write_mirrors (hroomy : Roomy P C) (ht : t.Intact C) {data : Bytes}
    (hdata : data.length ≤ C.tunables.maxMessageSize) :
    Mirrors store (Intact C) (write P C data) (BlockStore.write P C data) t := by
  unfold write BlockStore.write
  apply (onStore_mirrors ht get).bind'
  intro s t₁ ht₁
  apply Mirrors.ite
  · intro _
    exact .pure ht₁
  · intro _
    apply Mirrors.ite
    · intro _
      exact storeRecord_mirrors hroomy ht₁ hdata
    · intro _
      exact .pure ht₁

/-! ## Reading -/

/-- The size the sequence gives of the block it reads is addressable. -/
theorem readBlockSizeOf_addressable {s : BlockStore σ} (hroomy : Roomy P C)
    (h : BlockStore.Stands P G C s) :
    Ensures (BlockStore.onSeq (BlockSequence.readBlockSizeOf P))
      (fun answer _ => ∀ size, answer = some size → C.Addressable size) s := by
  rw [BlockStore.ensures_onSeq]
  apply (BlockSequence.readBlockSizeOf_grounded h.seq).mono
  rintro answer s₁ ⟨h₁, hasked⟩ size hsize
  apply hroomy.readable h₁
  rw [hasked.readable (by rw [hsize]; nofun), hsize]

theorem readCurrent_mirrors (hroomy : Roomy P C) (ht : t.Intact C)
    (h : BlockStore.Stands P G C t.store) (maxSize : Nat) :
    Mirrors store (Intact C) (readCurrent P C maxSize) (BlockStore.readCurrent P C maxSize) t := by
  unfold readCurrent BlockStore.readCurrent
  apply (onStore_mirrors ht _).bind (readBlockSizeOf_addressable hroomy h)
  intro answer t₁ ht₁ hsize
  cases answer with
  | none => exact .pure ht₁
  | some size =>
    dsimp only
    apply (onStore_mirrors ht₁ BlockStore.seqOf).bind'
    intro seq t₂ ht₂
    apply onRecords_mirrors
    exact BufferedRecords.read_mirrors (by exact ht₂) (hsize size rfl)

/-- A store whose loop goes on stands. -/
theorem stepPast_stands {s s₁ : BlockStore σ} {maxSize : Nat} {found : RecordStore.Found}
    (hcopied : BlockStore.Copied C maxSize found)
    (hsight : found.result ≠ .deviceFailed →
      ∃ size, BlockStore.Sighted P G C maxSize s found size s₁) :
    Ensures (BlockStore.stepPast P C found)
      (fun goesOn s' => goesOn = true → BlockStore.Stands P G C s') s₁ := by
  by_cases hfailed : found.result = .deviceFailed
  · unfold BlockStore.stepPast
    rw [hfailed]
    nofun
  · obtain ⟨size, hsighted⟩ := hsight hfailed
    apply (BlockStore.stepPast_turn hcopied hsighted hfailed).mono
    rintro goesOn s' ⟨hon, -⟩ hgoes
    exact (hon hgoes).1

theorem readLoop_mirrors (hroomy : Roomy P C) (ht : t.Intact C)
    (h : BlockStore.Stands P G C t.store) (maxSize fuel : Nat) :
    Mirrors store (Intact C) (readLoop P C maxSize fuel) (BlockStore.readLoop P C maxSize fuel)
      t := by
  induction fuel generalizing t with
  | zero => exact .pure ht
  | succ fuel ih =>
    unfold readLoop BlockStore.readLoop
    apply (readCurrent_mirrors hroomy ht h maxSize).bind (BlockStore.readCurrent_sighted h maxSize)
    rintro found t₁ ht₁ ⟨hcopied, -, -, hsight⟩
    apply (onStore_mirrors ht₁ _).bind (stepPast_stands hcopied hsight)
    intro goesOn t₂ ht₂ hstands
    apply Mirrors.ite
    · intro hgoes
      exact ih ht₂ (hstands hgoes)
    · intro _
      exact .pure ht₂

theorem readNextUnsent_mirrors (hroomy : Roomy P C) (ht : t.Intact C)
    (h : BlockStore.Stands P G C t.store) (fuel maxSize : Nat) :
    Mirrors store (Intact C) (readNextUnsent P C fuel maxSize)
      (BlockStore.readNextUnsent P C fuel maxSize) t := by
  unfold readNextUnsent BlockStore.readNextUnsent
  have hget : Ensures (get : BlockStore.Action σ (BlockStore σ))
      (fun s s' => s = s' ∧ BlockStore.Stands P G C s') t.store := ⟨rfl, h⟩
  apply (onStore_mirrors ht get).bind hget
  rintro s t₁ ht₁ ⟨-, h₁⟩
  apply Mirrors.ite
  · intro _
    exact .pure ht₁
  · intro _
    have hseqOf : Ensures BlockStore.seqOf
        (fun _ s' => BlockStore.Stands P G C s') t₁.store := h₁
    apply (onStore_mirrors ht₁ _).bind hseqOf
    intro seq t₂ ht₂ h₂
    apply Mirrors.ite
    · intro _
      apply (readLoop_mirrors hroomy ht₂ h₂ maxSize fuel).bind'
      intro outcome t₃ ht₃
      cases outcome with
      | none => exact .pure ht₃
      | some found =>
        dsimp only
        apply (onStore_mirrors ht₃ _).bind'
        intro _ t₄ ht₄
        exact .pure ht₄
    · intro _
      exact .pure ht₂

/-! ## Starting -/

theorem scanReadBlock_mirrors (hroomy : Roomy P C) (ht : t.Intact C)
    (h : BlockStore.Stands P G C t.store) :
    Mirrors store (Intact C) (scanReadBlock P C) (BlockStore.scanReadBlock P C) t := by
  unfold scanReadBlock BlockStore.scanReadBlock
  apply (onStore_mirrors ht _).bind (readBlockSizeOf_addressable hroomy h)
  intro answer t₁ ht₁ hsize
  cases answer with
  | none =>
    dsimp only
    apply (onStore_mirrors ht₁ _).bind'
    intro _ t₂ ht₂
    exact .pure ht₂
  | some size =>
    dsimp only
    apply (onStore_mirrors ht₁ BlockStore.seqOf).bind'
    intro seq t₂ ht₂
    have hfind : Mirrors store (Intact C)
        (onRecords (BufferedRecords.findFirstUnsent P C seq.readSequence size))
        (BlockStore.onRecords (RecordStore.findFirstUnsent P C seq.readSequence size)) t₂ :=
      onRecords_mirrors
        (BufferedRecords.findFirstUnsentLoop_mirrors (hsize size rfl) (Nat.le_add_left ..) ht₂)
    apply hfind.bind'
    rintro ⟨cursor, scanned⟩ t₃ ht₃
    apply (onStore_mirrors ht₃ _).bind'
    intro _ t₄ ht₄
    apply Mirrors.ite
    · intro _
      apply (onStore_mirrors ht₄ _).bind'
      intro _ t₅ ht₅
      exact .pure ht₅
    · intro _
      exact .pure ht₄

theorem resumeLoop_mirrors (hroomy : Roomy P C) (ht : t.Intact C)
    (h : BlockStore.Stands P G C t.store) (fuel : Nat) :
    Mirrors store (Intact C) (resumeLoop P C fuel) (BlockStore.resumeLoop P C fuel) t := by
  induction fuel generalizing t with
  | zero =>
    apply (onStore_mirrors ht _).bind'
    intro _ t₁ ht₁
    exact .pure ht₁
  | succ fuel ih =>
    unfold resumeLoop BlockStore.resumeLoop
    apply (scanReadBlock_mirrors hroomy ht h).bind (BlockStore.scanReadBlock_kept h)
    rintro scanned t₁ ht₁ ⟨-, hfine⟩
    apply Mirrors.ite
    · intro hcorrupt
      have hscanned : scanned = .corrupt := by simpa using hcorrupt
      have h₁ := (hfine (by rw [hscanned]; rintro ⟨⟩)).1
      apply (onStore_mirrors ht₁ _).bind (BlockStore.abandonRestOfReadBlock_kept h₁)
      rintro movedOn t₂ ht₂ ⟨-, hmoved, -⟩
      apply Mirrors.ite
      · intro hon
        exact ih ht₂ (hmoved hon).1
      · intro _
        exact .pure ht₂
    · intro _
      exact .pure ht₁

theorem checkWriteBlock_mirrors (hroomy : Roomy P C) (ht : t.Intact C)
    (h : BlockStore.Stands P G C t.store) :
    Mirrors store (Intact C) (checkWriteBlock P C) (BlockStore.checkWriteBlock P C) t := by
  unfold checkWriteBlock BlockStore.checkWriteBlock
  have hseqOf : Ensures BlockStore.seqOf
      (fun seq _ => C.Addressable seq.writePosition) t.store :=
    hroomy.known h.seq.calls h.seq.position
  apply (onStore_mirrors ht _).bind hseqOf
  intro seq t₁ ht₁ hsize
  have hscan : Mirrors store (Intact C)
      (onRecords (BufferedRecords.scanToEnd P C seq.writeSequence
        (if seq.readIsBehindWrite then 0 else seq.readCursor) seq.writePosition))
      (BlockStore.onRecords (RecordStore.scanToEnd P C seq.writeSequence
        (if seq.readIsBehindWrite then 0 else seq.readCursor) seq.writePosition)) t₁ :=
    onRecords_mirrors (BufferedRecords.scanToEndLoop_mirrors hsize (Nat.le_add_left ..) ht₁)
  apply hscan.bind'
  intro scanned t₂ ht₂
  cases scanned with
  | clean => exact .pure ht₂
  | corrupt => exact onStore_mirrors ht₂ _
  | deviceFailed => exact onStore_mirrors ht₂ _

theorem resumeFromExistingBlock_mirrors (hroomy : Roomy P C) (ht : t.Intact C)
    (h : BlockStore.Stands P G C t.store) :
    Mirrors store (Intact C) (resumeFromExistingBlock P C) (BlockStore.resumeFromExistingBlock P C)
      t := by
  have hfuel : ahead t.store.seq.readSequence t.store.seq.writeSequence < modulus + 1 :=
    (ahead_lt _ _).trans (Nat.lt_succ_self _)
  unfold resumeFromExistingBlock BlockStore.resumeFromExistingBlock
  apply (resumeLoop_mirrors hroomy ht h _).bind (BlockStore.resumeLoop_kept h hfuel)
  rintro scanned t₁ ht₁ ⟨-, hresumed⟩
  have hseqOf : Ensures BlockStore.seqOf
      (fun seq s' => seq = s'.seq ∧ (scanned ≠ .deviceFailed → s'.seq.deviceFailed = false →
        BlockStore.Stands P G C s')) t₁.store := ⟨rfl, hresumed⟩
  apply (onStore_mirrors ht₁ _).bind hseqOf
  rintro seq t₂ ht₂ ⟨rfl, hstands⟩
  apply Mirrors.ite
  · intro hcheck
    rw [Bool.and_eq_true] at hcheck
    exact checkWriteBlock_mirrors hroomy ht₂
      (hstands (by simpa using hcheck.1) (by simpa using hcheck.2))
  · intro _
    exact .pure ht₂

theorem initialise_mirrors (hroomy : Roomy P C) {w : World σ}
    (hcalls : Always (WithinBounds P False C) w.trace) (ht : t.Intact C)
    (hstore : t.store = .initial w) :
    Mirrors store (Intact C) (initialise P C) (BlockStore.initialise P C) t := by
  unfold initialise BlockStore.initialise
  have hopen : Ensures (BlockStore.onSeq (BlockSequence.openBlocks P C))
      (fun opened s' => opened = true → BlockStore.Stands P False C s') t.store := by
    rw [hstore, BlockStore.ensures_onSeq]
    apply (BlockSequence.openBlocks_grounded rfl hcalls).mono
    rintro opened ⟨seq₁, world₁⟩ ⟨-, hopened⟩ htrue
    obtain ⟨h₁, hfine⟩ := hopened htrue
    exact ⟨h₁, hfine, rfl⟩
  apply (onStore_mirrors ht _).bind hopen
  intro opened t₁ ht₁ hopened
  apply Mirrors.ite
  · intro htrue
    exact resumeFromExistingBlock_mirrors hroomy ht₁ (hopened htrue)
  · intro _
    apply (onStore_mirrors ht₁ BlockStore.seqOf).bind'
    intro seq t₂ ht₂
    exact onStore_mirrors ht₂ _

theorem create_mirrors (hroomy : Roomy P C) (ht : t.Intact C) {env : σ}
    (hstore : t.store = .initial ⟨env, []⟩) :
    Mirrors store (Intact C) (create P C) (BlockStore.create P C) t := by
  unfold create BlockStore.create
  apply Mirrors.ite
  · intro _
    have hreport : Ensures (BlockStore.report P .warning (.unreported 1) .blockTooSmall)
        (fun _ s' => ∃ w, s' = .initial w ∧ Always (WithinBounds P False C) w.trace) t.store := by
      rw [hstore, BlockStore.ensures_report]
      exact ⟨_, rfl, Always.nil.concat trivial⟩
    apply (onStore_mirrors ht _).bind hreport
    rintro _ t₁ ht₁ ⟨w, hstore₁, hcalls⟩
    exact initialise_mirrors hroomy hcalls ht₁ hstore₁
  · intro _
    exact initialise_mirrors hroomy Always.nil ht hstore

/-! ## Calls -/

theorem perform_mirrors (hroomy : Roomy P C) (ht : t.Intact C)
    (h : BlockStore.Kept P G C t.store) (fuel : Nat) (op : BlockStore.Op C) :
    Mirrors store (Intact C) (perform P fuel op) (BlockStore.perform P fuel op) t := by
  unfold perform BlockStore.perform
  cases op with
  | write message =>
    apply (write_mirrors hroomy ht message.fits).bind'
    intro _ t₁ ht₁
    exact .pure ht₁
  | readNextUnsent maxSize =>
    have hread : Mirrors store (Intact C) (readNextUnsent P C fuel maxSize)
        (BlockStore.readNextUnsent P C fuel maxSize) t := by
      cases hfrozen : t.store.frozen with
      | true =>
        unfold readNextUnsent BlockStore.readNextUnsent
        have hget : Ensures (get : BlockStore.Action σ (BlockStore σ))
            (fun s _ => s.frozen = true) t.store := hfrozen
        apply (onStore_mirrors ht get).bind hget
        intro s t₁ ht₁ hs
        rw [if_pos hs, if_pos hs]
        exact .pure ht₁
      | false => exact readNextUnsent_mirrors hroomy ht (h.stands hfrozen) fuel maxSize
    apply hread.bind'
    intro outcome t₁ ht₁
    cases outcome <;> exact .pure ht₁
  | markSent =>
    apply (onStore_mirrors ht _).bind'
    intro _ t₁ ht₁
    exact .pure ht₁
  | hasUnsent =>
    apply (onStore_mirrors ht get).bind'
    intro _ t₁ ht₁
    exact .pure ht₁
  | isTransient =>
    apply (onStore_mirrors ht get).bind'
    intro _ t₁ ht₁
    exact .pure ht₁

end BufferedStore

end SolidSyslog.Store
