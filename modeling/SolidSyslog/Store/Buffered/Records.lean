import SolidSyslog.Store.Buffered.Model
import SolidSyslog.Lib.Mirror
import SolidSyslog.Lib.LittleEndian

/-!
# The record store stays within its buffer

On a block whose size is at least `RECORD_BUFFER_SIZE` below `SIZE_MAX` no sum wraps, nothing beyond
the buffer is written or given away, and the record store answers and does what it does without a
buffer.
-/

namespace SolidSyslog.Store

open Lib

variable {σ : Type} {P : Platform σ} {C : Config}

/-- A size at least `RECORD_BUFFER_SIZE` below `SIZE_MAX`. -/
def Config.Addressable (C : Config) (size : Nat) : Prop :=
  size + C.recordBufferSize < 2 ^ C.tunables.sizeBits

theorem Config.toSize_of_lt {n : Nat} (h : n < 2 ^ C.tunables.sizeBits) : C.toSize n = n :=
  Nat.mod_eq_of_lt h

theorem Config.toSize_of_le {n size : Nat} (h : C.Addressable size)
    (hn : n ≤ size + C.recordBufferSize) : C.toSize n = n :=
  C.toSize_of_lt (hn.trans_lt h)

/-- The buffer has its size and nothing went beyond it. -/
structure RecordBuffer.Intact (C : Config) (b : RecordBuffer) : Prop where
  length : b.bytes.length = C.recordBufferSize
  overrun : b.overrun = false

namespace RecordBuffer

variable {b : RecordBuffer} {address count : Nat} {data : Bytes}

theorem Intact.touch (h : b.Intact C) (hfits : address + count ≤ C.recordBufferSize) :
    (b.touch address count).Intact C := by
  refine ⟨h.length, ?_⟩
  unfold RecordBuffer.touch
  rw [h.overrun, h.length, Bool.false_or, decide_eq_false_iff_not]
  omega

@[simp] theorem touch_bytes (b : RecordBuffer) (address count : Nat) :
    (b.touch address count).bytes = b.bytes :=
  rfl

@[simp] theorem put_bytes (b : RecordBuffer) (address : Nat) (data : Bytes) :
    (b.put address data).bytes = overwrite b.bytes address data :=
  rfl

theorem Intact.put (h : b.Intact C) (hfits : address + data.length ≤ C.recordBufferSize) :
    (b.put address data).Intact C := by
  refine ⟨?_, (h.touch hfits).overrun⟩
  change (overwrite b.bytes address data).length = _
  rw [length_overwrite (by rw [h.length]; exact hfits), h.length]

end RecordBuffer

namespace BufferedRecords

variable {t : BufferedRecords σ} {block : Sequence} {offset address count dataSize length : Nat}

theorem recordSize_eq {size : Nat} (hsize : C.Addressable size)
    (h : length ≤ C.tunables.maxMessageSize) : recordSize C length = C.recordSize length := by
  have hle := C.recordSize_le_recordBufferSize h
  exact C.toSize_of_le hsize (by unfold Config.recordSize at hle; omega)

@[simp] theorem ensures_give {Q : Bytes → BufferedRecords σ → Prop} :
    Ensures (give address count) Q t =
      Q (span t.buffer.bytes address count) { t with buffer := t.buffer.touch address count } :=
  rfl

@[simp] theorem ensures_put {data : Bytes} {Q : Unit → BufferedRecords σ → Prop} :
    Ensures (put address data) Q t = Q () { t with buffer := t.buffer.put address data } :=
  rfl

@[simp] theorem ensures_ask {request : Request} {Q : request.Answer → BufferedRecords σ → Prop} :
    Ensures (onStore (RecordStore.ask P request)) Q t =
      Q (P.answer request t.store.world.env).1
        { t with store := { t.store with world := t.store.world.asked P request } } :=
  rfl

theorem ask_eq (P : Platform σ) (request : Request) (s : RecordState σ) :
    ((P.answer request s.world.env).1, { s with world := s.world.asked P request }) =
      RecordStore.ask P request s :=
  rfl

/-- What does not touch the buffer. -/
theorem onStore_mirrors {α : Type} {I : RecordBuffer → Prop} (h : I t.buffer)
    (action : RecordStore.Action σ α) :
    Mirrors store (fun t => I t.buffer) (onStore action) action t :=
  Mirrors.zoom h (fun _ => rfl) (fun _ h => h)

/-- A span that does not wrap is read as without a buffer. -/
theorem readSpanOut_mirrors (h : offset + count < 2 ^ C.tunables.sizeBits) :
    Mirrors store (·.buffer = t.buffer) (readSpanOut P C block offset count dataSize)
      (RecordStore.readSpan P block offset count dataSize) t := by
  unfold readSpanOut RecordStore.readSpan spanIsWithinData
  rw [C.toSize_of_lt h]
  simp only [decide_eq_true_eq]
  apply Mirrors.ite
  · intro _
    apply (onStore_mirrors (I := (· = t.buffer)) rfl _).bind'
    intro bytes t' ht'
    cases bytes <;> exact Mirrors.pure ht'
  · intro _
    exact Mirrors.pure rfl

/-- A span read into the buffer. -/
theorem readSpan_puts (ht : t.buffer.Intact C) (h : offset + count < 2 ^ C.tunables.sizeBits)
    (hfits : address + count ≤ C.recordBufferSize) :
    Ensures (readSpan P C block offset address count dataSize) (fun failed t' =>
      t'.buffer.Intact C ∧
      ((∃ bytes, failed = none ∧ bytes.length = count ∧
          (.ok bytes, t'.store) = RecordStore.readSpan P block offset count dataSize t.store ∧
          t'.buffer.bytes = overwrite t.buffer.bytes address bytes) ∨
        ∃ result, failed = some result ∧
          (.error result, t'.store) =
            RecordStore.readSpan P block offset count dataSize t.store)) t := by
  have hlength : Ensures (RecordStore.readSpan P block offset count dataSize)
      (fun outcome _ => ∀ bytes, outcome = .ok bytes → bytes.length = count) t.store := by
    apply (RecordStore.readSpan_looks C).mono
    rintro outcome _ ⟨-, -, ⟨bytes, rfl, -⟩ | rfl | ⟨rfl, -⟩⟩ bytes' heq
    · cases heq
      exact length_fit _ _
    · cases heq
    · cases heq
  unfold readSpan
  apply Ensures.bind ((readSpanOut_mirrors h).ensures hlength)
  rintro outcome t₁ ⟨hbuffer, heq, hcount⟩
  cases outcome with
  | ok bytes =>
    have hbytes := hcount bytes rfl
    refine ⟨?_, .inl ⟨bytes, rfl, hbytes, heq, ?_⟩⟩
    · change (t₁.buffer.put address bytes).Intact C
      rw [hbuffer]
      exact ht.put (by rwa [hbytes])
    · change overwrite t₁.buffer.bytes address bytes = _
      rw [hbuffer]
  | error result =>
    dsimp only
    rw [ensures_pure, hbuffer]
    exact ⟨ht, .inr ⟨result, rfl, heq⟩⟩

/-- The message of the record in the buffer starts with its header. -/
theorem readHeader_puts (ht : t.buffer.Intact C) (hsize : C.Addressable dataSize) :
    Ensures (readHeader P C block offset dataSize) (fun outcome t' => t'.buffer.Intact C ∧
      (outcome, t'.store) = RecordStore.readHeader P C block offset dataSize t.store ∧
      ∀ length, outcome = .ok length → offset < dataSize ∧ length ≤ C.tunables.maxMessageSize ∧
        OccursAt t'.buffer.bytes magicAddress (header length)) t := by
  have hfour : contentHeaderSize ≤ C.recordBufferSize := by
    unfold contentHeaderSize Config.recordBufferSize
    omega
  unfold readHeader RecordStore.readHeader
  by_cases hinside : offset < dataSize
  · rw [if_pos hinside, if_pos hinside]
    have hwrap : offset + contentHeaderSize < 2 ^ C.tunables.sizeBits :=
      (Nat.add_le_add hinside.le hfour).trans_lt hsize
    have haddress : magicAddress + contentHeaderSize ≤ C.recordBufferSize := by
      rwa [magicAddress, Nat.zero_add]
    apply (readSpan_puts ht hwrap haddress).bind
    rintro _ t₁ ⟨ht₁, ⟨bytes, rfl, hbytes, heq, hbuffer⟩ | ⟨result, rfl, heq⟩⟩
    · have hoccurs : OccursAt t₁.buffer.bytes magicAddress bytes := by
        rw [hbuffer]
        exact occursAt_overwrite (Nat.zero_le _)
      have hspan : span t₁.buffer.bytes magicAddress contentHeaderSize = bytes := by
        rw [← hbytes]
        exact hoccurs.span_eq
      rw [bind_apply_of_eq heq]
      dsimp only
      rw [ensures_bind, ensures_give, hspan]
      cases hvalid : C.validateHeader bytes with
      | some length =>
        refine ⟨ht₁.touch haddress, rfl, fun length' hlength => ?_⟩
        cases hlength
        refine ⟨hinside, (C.validateHeader_bounds hvalid).2, ?_⟩
        rw [← C.eq_header_of_validateHeader hvalid]
        exact hoccurs
      | none => exact ⟨ht₁.touch haddress, rfl, nofun⟩
    · rw [bind_apply_of_eq heq]
      exact ⟨ht₁, rfl, nofun⟩
  · rw [if_neg hinside, if_neg hinside]
    exact ⟨ht, rfl, nofun⟩

theorem readRecordExtent_puts (ht : t.buffer.Intact C) (hsize : C.Addressable dataSize) :
    Ensures (readRecordExtent P C block offset dataSize) (fun outcome t' => t'.buffer.Intact C ∧
      (outcome, t'.store) = RecordStore.readRecordExtent P C block offset dataSize t.store ∧
      ∀ length, outcome = .ok length → offset + C.recordSize length ≤ dataSize ∧
        length ≤ C.tunables.maxMessageSize ∧
        OccursAt t'.buffer.bytes magicAddress (header length)) t := by
  unfold readRecordExtent RecordStore.readRecordExtent
  apply (readHeader_puts ht hsize).bind
  rintro outcome t₁ ⟨ht₁, heq, hheader⟩
  rw [bind_apply_of_eq heq]
  cases outcome with
  | error result => exact ⟨ht₁, rfl, nofun⟩
  | ok length =>
    obtain ⟨hinside, hmax, hoccurs⟩ := hheader length rfl
    have hle := C.recordSize_le_recordBufferSize hmax
    have hwithin : spanIsWithinData C offset (recordSize C length) dataSize =
        decide (offset + C.recordSize length ≤ dataSize) := by
      unfold spanIsWithinData
      rw [recordSize_eq hsize hmax, C.toSize_of_le hsize (Nat.add_le_add hinside.le hle)]
    dsimp only
    rw [ensures_pure, hwithin]
    by_cases hfits : offset + C.recordSize length ≤ dataSize
    · rw [if_pos (by simpa using hfits), if_pos hfits]
      refine ⟨ht₁, rfl, fun length' hlength => ?_⟩
      cases hlength
      exact ⟨hfits, hmax, hoccurs⟩
    · rw [if_neg (by simpa using hfits), if_neg hfits]
      exact ⟨ht₁, rfl, nofun⟩

theorem contentSize_eq (h : length ≤ C.tunables.maxMessageSize) :
    contentSize length = contentHeaderSize + length := by
  have hmost := C.tunables.maxMessageSize_le
  exact toUint16_of_le (by omega)

/-- The record that lies in the buffer. -/
def Holds (t : BufferedRecords σ) (length : Nat) (message trailer : Bytes) : Prop :=
  OccursAt t.buffer.bytes magicAddress (header length ++ message ++ trailer)

theorem openRecord_puts (ht : t.buffer.Intact C) (hmax : length ≤ C.tunables.maxMessageSize)
    {message trailer rest : Bytes} (hmessage : message.length = length)
    (htrailer : trailer.length = C.trailerSize)
    (hholds : Holds t length message (trailer ++ rest)) :
    Ensures (openRecord P C length) (fun result t' => t'.buffer.Intact C ∧ ∃ message',
      ((result, message'), t'.store) =
        RecordStore.openRecord P (header length ++ message) trailer t.store ∧
      message'.length = length ∧ OccursAt t'.buffer.bytes messageAddress message') t := by
  have hrecord := C.recordSize_le_recordBufferSize hmax
  unfold Config.recordSize at hrecord
  have hcontent : (header length ++ message).length = contentHeaderSize + length := by
    rw [List.length_append, length_header, hmessage]
  have hspan : span t.buffer.bytes magicAddress (contentHeaderSize + length) =
      header length ++ message := by
    rw [← hcontent]
    exact hholds.left.span_eq
  have htail : span t.buffer.bytes (trailerAddress length) C.trailerSize = trailer := by
    have hright := hholds.right.left
    rw [hcontent, show magicAddress + (contentHeaderSize + length) = trailerAddress length by
      simp [magicAddress, trailerAddress, messageAddress, lengthAddress,
        contentHeaderSize]] at hright
    rw [← htrailer]
    exact hright.span_eq
  have hfits : magicAddress + (contentHeaderSize + length) ≤ C.recordBufferSize := by
    unfold magicAddress contentHeaderSize
    omega
  have hfits' : trailerAddress length + C.trailerSize ≤ C.recordBufferSize := by
    unfold trailerAddress messageAddress lengthAddress magicAddress
    omega
  unfold openRecord RecordStore.openRecord
  rw [contentSize_eq hmax, ensures_bind, ensures_give, ensures_bind, ensures_give]
  dsimp only [RecordBuffer.touch_bytes]
  rw [hspan, htail, ensures_bind, ensures_ask, ensures_bind, ensures_put,
    bind_apply_of_eq (ask_eq ..)]
  generalize (P.answer (.openRecord (header length ++ message) trailer) t.store.world.env).1 =
    outcome
  have hleft : (fit (header length ++ message).length outcome.2).length =
      contentHeaderSize + length := by
    rw [length_fit, hcontent]
  have hintact : (((t.buffer.touch magicAddress (contentHeaderSize + length)).touch
      (trailerAddress length) C.trailerSize).put magicAddress
        (fit (header length ++ message).length outcome.2)).Intact C := by
    apply ((ht.touch hfits).touch hfits').put
    rwa [hleft]
  have hoccurs : OccursAt (overwrite t.buffer.bytes magicAddress
      (fit (header length ++ message).length outcome.2)) messageAddress
      ((fit (header length ++ message).length outcome.2).drop contentHeaderSize) := by
    have hwhole : OccursAt (overwrite t.buffer.bytes magicAddress
        (fit (header length ++ message).length outcome.2)) magicAddress
        ((fit (header length ++ message).length outcome.2).take contentHeaderSize ++
          (fit (header length ++ message).length outcome.2).drop contentHeaderSize) := by
      rw [List.take_append_drop]
      exact occursAt_overwrite (Nat.zero_le _)
    have hright := hwhole.right
    rw [List.length_take, hleft, Nat.min_eq_left (Nat.le_add_right ..)] at hright
    exact hright
  have hdrop : ((fit (header length ++ message).length outcome.2).drop contentHeaderSize).length =
      length := by
    rw [List.length_drop, hleft, Nat.add_sub_cancel_left]
  cases outcome.1 with
  | opened => exact ⟨hintact, _, rfl, hdrop, hoccurs⟩
  | rejected => exact ⟨hintact, _, rfl, hdrop, hoccurs⟩
  | couldNotRun => exact ⟨hintact, _, rfl, hdrop, hoccurs⟩

/-- A read that failed did not succeed. -/
theorem readSpan_ne_succeeded {s s' : RecordState σ} :
    (.error .succeeded, s') ≠ RecordStore.readSpan P block offset count dataSize s := by
  intro heq
  have hlooks : Ensures (RecordStore.readSpan P block offset count dataSize) _ s :=
    RecordStore.readSpan_looks .small
  obtain ⟨-, -, ⟨bytes, hok, -⟩ | hfailed | ⟨hcorrupt, -⟩⟩ := hlooks
  · rw [← heq] at hok
    cases hok
  · rw [← heq] at hfailed
    cases hfailed
  · rw [← heq] at hcorrupt
    cases hcorrupt

theorem validateRecord_puts (ht : t.buffer.Intact C) (hsize : C.Addressable dataSize)
    (hfits : offset + C.recordSize length ≤ dataSize) (hmax : length ≤ C.tunables.maxMessageSize)
    (hheader : OccursAt t.buffer.bytes magicAddress (header length)) :
    Ensures (validateRecord P C block offset dataSize length) (fun result t' =>
      t'.buffer.Intact C ∧ ∃ message,
        ((result, message), t'.store) =
          RecordStore.validateRecord P C block offset dataSize length t.store ∧
        (result = .succeeded → message.length = length ∧
          OccursAt t'.buffer.bytes messageAddress message)) t := by
  have hrecord := C.recordSize_le_recordBufferSize hmax
  have hbound : dataSize + C.recordBufferSize < 2 ^ C.tunables.sizeBits := hsize
  unfold Config.recordSize at hrecord hfits
  have hoffset : C.toSize (offset + contentHeaderSize) = offset + contentHeaderSize :=
    C.toSize_of_lt (by unfold contentHeaderSize; omega)
  have htrailerOffset : trailerOffset C offset length = Store.trailerOffset offset length :=
    C.toSize_of_lt (by omega)
  have htail : C.toSize (C.trailerSize + 1) = C.trailerSize + 1 := C.toSize_of_lt (by omega)
  unfold validateRecord RecordStore.validateRecord
  rw [hoffset, htrailerOffset, htail]
  apply (readSpan_puts ht (by unfold contentHeaderSize; omega)
    (by unfold messageAddress lengthAddress magicAddress; omega)).bind
  rintro _ t₁ ⟨ht₁, ⟨message, rfl, hmessage, heq₁, hbuffer₁⟩ | ⟨result, rfl, heq₁⟩⟩
  · rw [bind_apply_of_eq heq₁]
    dsimp only
    apply (readSpan_puts ht₁ (by unfold Store.trailerOffset contentHeaderSize; omega)
      (by unfold trailerAddress messageAddress lengthAddress magicAddress; omega)).bind
    rintro _ t₂ ⟨ht₂, ⟨tail, rfl, hlength, heq₂, hbuffer₂⟩ | ⟨result, rfl, heq₂⟩⟩
    · rw [bind_apply_of_eq heq₂]
      dsimp only
      have hholds : Holds t₂ length message tail := by
        have hfirst : OccursAt t₁.buffer.bytes magicAddress (header length ++ message) := by
          rw [hbuffer₁, OccursAt.append_iff]
          refine ⟨hheader.overwrite_after ?_, occursAt_overwrite ?_⟩
          · exact le_refl _
          · rw [ht.length]
            unfold messageAddress lengthAddress magicAddress
            omega
        unfold Holds
        rw [hbuffer₂, OccursAt.append_iff]
        have hend : (header length ++ message).length = trailerAddress length := by
          rw [List.length_append, length_header, hmessage]
          rfl
        refine ⟨hfirst.overwrite_after (by rw [hend, magicAddress, Nat.zero_add]), ?_⟩
        rw [hend, magicAddress, Nat.zero_add]
        apply occursAt_overwrite
        rw [ht₁.length]
        unfold trailerAddress messageAddress lengthAddress magicAddress
        omega
      have hsplit : tail = tail.take C.trailerSize ++ tail.drop C.trailerSize :=
        (List.take_append_drop ..).symm
      have hflag : (span t₂.buffer.bytes (C.sentFlagAddress length) 1).getD 0 sentFlagUnsent =
          tail.getD C.trailerSize sentFlagUnsent := by
        have hat : OccursAt t₂.buffer.bytes (trailerAddress length) tail := by
          have hright := hholds.right
          rw [List.length_append, length_header, hmessage, magicAddress, Nat.zero_add] at hright
          exact hright
        have hcell := hat.getElem? (i := C.trailerSize) (by omega)
        rw [List.getD_eq_getElem?_getD, List.getD_eq_getElem?_getD, ← hcell]
        simp [span, Config.sentFlagAddress]
      rw [ensures_bind, ensures_give, hflag]
      have haddress : C.sentFlagAddress length + 1 ≤ C.recordBufferSize := by
        unfold Config.sentFlagAddress trailerAddress messageAddress lengthAddress magicAddress
        omega
      by_cases hmarked : flagMarksSentOrDiscarded (tail.getD C.trailerSize sentFlagUnsent) = true
      · rw [if_pos hmarked, if_pos hmarked]
        exact ⟨ht₂.touch haddress, [], rfl, (by rintro ⟨⟩)⟩
      · rw [if_neg hmarked, if_neg hmarked]
        rw [hsplit] at hholds
        have htake : (tail.take C.trailerSize).length = C.trailerSize := by
          rw [List.length_take, hlength, Nat.min_eq_left (Nat.le_succ _)]
        apply Ensures.mono (openRecord_puts (P := P) (t := { t₂ with
          buffer := t₂.buffer.touch (C.sentFlagAddress length) 1 }) (ht₂.touch haddress) hmax
          hmessage htake hholds)
        rintro result t' ⟨ht', message', heq', hmessage', hoccurs'⟩
        exact ⟨ht', message', heq', fun _ => ⟨hmessage', hoccurs'⟩⟩
    · rw [bind_apply_of_eq heq₂]
      refine ⟨ht₂, [], rfl, fun hfound => ?_⟩
      subst hfound
      exact absurd heq₂ readSpan_ne_succeeded
  · rw [bind_apply_of_eq heq₁]
    refine ⟨ht₁, [], rfl, fun hfound => ?_⟩
    subst hfound
    exact absurd heq₁ readSpan_ne_succeeded

/-- The flag of a record within a block lies where it does without wrapping. -/
theorem sentFlagOffset_eq (hsize : C.Addressable dataSize)
    (hfits : offset + C.recordSize length ≤ dataSize) :
    sentFlagOffset C offset length = C.sentFlagOffset offset length := by
  have hsucc := C.sentFlagOffset_succ offset length
  have htrailer : trailerOffset C offset length = Store.trailerOffset offset length := by
    unfold Config.sentFlagOffset Store.trailerOffset contentHeaderSize at hsucc
    exact C.toSize_of_le hsize (by omega)
  unfold sentFlagOffset
  rw [htrailer]
  exact C.toSize_of_le hsize (by unfold Config.sentFlagOffset at hsucc; omega)

theorem read_mirrors (ht : t.buffer.Intact C) (hsize : C.Addressable dataSize) {maxSize : Nat} :
    Mirrors store (·.buffer.Intact C) (read P C block offset dataSize maxSize)
      (RecordStore.read P C block offset dataSize maxSize) t := by
  unfold Mirrors read RecordStore.read
  apply (readRecordExtent_puts ht hsize).bind
  rintro outcome t₁ ⟨ht₁, heq₁, hextent⟩
  rw [bind_apply_of_eq heq₁]
  cases outcome with
  | error result => exact ⟨ht₁, rfl⟩
  | ok length =>
    obtain ⟨hfits, hmax, hheader⟩ := hextent length rfl
    have hflag := sentFlagOffset_eq hsize hfits
    dsimp only
    apply (validateRecord_puts ht₁ hsize hfits hmax hheader).bind
    rintro result t₂ ⟨ht₂, message, heq₂, hfound⟩
    rw [bind_apply_of_eq heq₂, hflag]
    cases result with
    | succeeded =>
      obtain ⟨hmessage, hoccurs⟩ := hfound rfl
      have hspan : span t₂.buffer.bytes messageAddress (if length < maxSize then length
        else maxSize) =
          message.take maxSize := by
        have hmin : (if length < maxSize then length else maxSize) = min maxSize length := by
          split <;> omega
        have htake : message.take (min maxSize length) = message.take maxSize := by
          rw [← hmessage, ← List.take_take, List.take_length]
        have hcut : OccursAt t₂.buffer.bytes messageAddress
            (message.take (min maxSize length) ++ message.drop (min maxSize length)) := by
          rw [List.take_append_drop]
          exact hoccurs
        have hlength : (message.take (min maxSize length)).length = min maxSize length := by
          rw [List.length_take, hmessage]
          omega
        have heq := hcut.left.span_eq
        rw [hlength] at heq
        rw [hmin, heq, htake]
      refine ⟨ht₂.touch ?_, Prod.ext ?_ rfl⟩
      · have hle := hoccurs.le_length
        rw [hmessage, ht₂.length] at hle
        split <;> omega
      · change RecordStore.Found.mk .succeeded length (span t₂.buffer.bytes _ _) = _
        rw [hspan]
        rfl
    | rejected => exact ⟨ht₂, rfl⟩
    | finishedWith => exact ⟨ht₂, rfl⟩
    | endOfData => exact ⟨ht₂, rfl⟩
    | corrupt => exact ⟨ht₂, rfl⟩
    | couldNotOpen => exact ⟨ht₂, rfl⟩
    | deviceFailed => exact ⟨ht₂, rfl⟩

/-! ## Assembling -/

/-- Three spans put end to end are one. -/
theorem overwrite_three {b x y z : Bytes} (h : x.length + y.length + z.length ≤ b.length) :
    overwrite (overwrite (overwrite b 0 x) x.length y) (x.length + y.length) z =
      overwrite b 0 (x ++ y ++ z) := by
  have hfirst : overwrite (overwrite b 0 x) x.length y = overwrite b 0 (x ++ y) := by
    have hmeet : overwrite (overwrite b 0 x) (0 + x.length) y = overwrite b 0 (x ++ y) :=
      overwrite_overwrite (by omega)
    rwa [Nat.zero_add] at hmeet
  have hsecond : overwrite (overwrite b 0 (x ++ y)) (x ++ y).length z =
      overwrite b 0 (x ++ y ++ z) := by
    have hmeet : overwrite (overwrite b 0 (x ++ y)) (0 + (x ++ y).length) z =
        overwrite b 0 (x ++ y ++ z) :=
      overwrite_overwrite (by rw [List.length_append]; omega)
    rwa [Nat.zero_add] at hmeet
  rw [hfirst, ← List.length_append, hsecond]

/-- What `RecordStore_AssembleRecord` puts into the buffer before the policy seals it. -/
theorem put_content (ht : t.buffer.Intact C) {data : Bytes}
    (hmax : data.length ≤ C.tunables.maxMessageSize) :
    let buffer := ((t.buffer.put magicAddress [magicByte0, magicByte1]).put lengthAddress
      [UInt8.ofNat (data.length &&& 0xFF), UInt8.ofNat ((data.length >>> 8) &&& 0xFF)]).put
        messageAddress data
    buffer.Intact C ∧ span buffer.bytes magicAddress (contentHeaderSize + data.length) =
      header data.length ++ data := by
  have hrecord := C.recordSize_le_recordBufferSize hmax
  unfold Config.recordSize at hrecord
  intro buffer
  constructor
  · refine ((ht.put ?_).put ?_).put ?_
    · change 0 + 2 ≤ _
      omega
    · change 2 + 2 ≤ _
      omega
    · change 4 + data.length ≤ _
      omega
  · have hbytes : buffer.bytes = overwrite t.buffer.bytes 0 (header data.length ++ data) := by
      refine overwrite_three (x := [magicByte0, magicByte1]) (y := [UInt8.ofNat
        (data.length &&& 0xFF), UInt8.ofNat ((data.length >>> 8) &&& 0xFF)]) (z := data) ?_
      rw [ht.length]
      change 2 + 2 + data.length ≤ _
      omega
    have hoccurs : OccursAt buffer.bytes 0 (header data.length ++ data) := by
      rw [hbytes]
      exact occursAt_overwrite (Nat.zero_le _)
    have hspan := hoccurs.span_eq
    rw [List.length_append, length_header] at hspan
    exact hspan

/-- The record is assembled from parts that meet end to end. -/
theorem assembleRecord_puts (ht : t.buffer.Intact C) {data : Bytes}
    (hmax : data.length ≤ C.tunables.maxMessageSize) :
    Ensures (assembleRecord P C data) (fun isSealed t' => t'.buffer.Intact C ∧ ∃ outcome,
      (outcome, t'.store) = RecordStore.assembleRecord P C data t.store ∧
      ((isSealed = false ∧ outcome = none) ∨ ∃ bytes, isSealed = true ∧ outcome = some bytes ∧
        bytes.length = C.recordSize data.length ∧
        OccursAt t'.buffer.bytes magicAddress bytes)) t := by
  have hrecord := C.recordSize_le_recordBufferSize hmax
  have hmost := C.tunables.maxMessageSize_le
  have hlength : toUint16 data.length = data.length := toUint16_of_le (by omega)
  obtain ⟨hintact, hspan⟩ := put_content ht hmax
  have hfits : magicAddress + (contentHeaderSize + data.length) ≤ C.recordBufferSize := by
    unfold Config.recordSize at hrecord
    unfold magicAddress contentHeaderSize
    omega
  have hgiven := hintact.touch hfits
  unfold assembleRecord RecordStore.assembleRecord
  dsimp only
  rw [hlength, contentSize_eq hmax]
  rw [ensures_bind, ensures_put, ensures_bind, ensures_put, ensures_bind, ensures_put,
    ensures_bind, ensures_give, ensures_bind]
  dsimp only
  rw [hspan, ensures_ask, bind_apply_of_eq (ask_eq ..)]
  dsimp only
  have hflag : C.sentFlagAddress data.length + 1 ≤ C.recordBufferSize := by
    unfold Config.recordSize at hrecord
    unfold Config.sentFlagAddress trailerAddress messageAddress lengthAddress magicAddress
    omega
  generalize ((((t.buffer.put magicAddress [magicByte0, magicByte1]).put lengthAddress
    [UInt8.ofNat (data.length &&& 0xFF), UInt8.ofNat ((data.length >>> 8) &&& 0xFF)]).put
      messageAddress data).touch magicAddress (contentHeaderSize + data.length)) = b at hgiven ⊢
  generalize (P.answer (.sealRecord (header data.length ++ data)) t.store.world.env).1 = outcome
  cases outcome with
  | none => exact ⟨hgiven.put hflag, none, rfl, .inl ⟨rfl, rfl⟩⟩
  | some outcome =>
    obtain ⟨content, trailer⟩ := outcome
    have hcontent : (fit (header data.length ++ data).length content).length =
        trailerAddress data.length := by
      rw [length_fit, List.length_append, length_header]
      rfl
    have htrailer : (fit C.trailerSize trailer).length = C.trailerSize := length_fit _ _
    refine ⟨((hgiven.put ?_).put ?_).put hflag, _, rfl, .inr ⟨_, rfl, rfl, ?_, ?_⟩⟩
    · rw [hcontent]
      unfold Config.sentFlagAddress at hflag
      unfold magicAddress
      omega
    · rw [htrailer]
      unfold Config.sentFlagAddress at hflag
      omega
    · rw [List.length_append, List.length_append, hcontent, htrailer]
      rfl
    · have hbytes := overwrite_three (b := b.bytes)
        (x := fit (header data.length ++ data).length content) (y := fit C.trailerSize trailer)
        (z := [sentFlagUnsent]) (by
          rw [hcontent, htrailer, hgiven.length]
          exact hflag)
      rw [hcontent, htrailer] at hbytes
      change OccursAt (overwrite (overwrite (overwrite b.bytes magicAddress _) _ _) _ _) _ _
      rw [show C.sentFlagAddress data.length = trailerAddress data.length + C.trailerSize from rfl]
      rw [show magicAddress = 0 from rfl, hbytes]
      exact occursAt_overwrite (Nat.zero_le _)

theorem append_mirrors (ht : t.buffer.Intact C) {size : Nat} (hsize : C.Addressable size)
    {data : Bytes} (hmax : data.length ≤ C.tunables.maxMessageSize) :
    Mirrors store (·.buffer.Intact C) (append P C block data) (RecordStore.append P C block data)
      t := by
  have hmost := C.tunables.maxMessageSize_le
  have hlength : toUint16 data.length = data.length := toUint16_of_le (by omega)
  unfold Mirrors append RecordStore.append
  apply (assembleRecord_puts ht hmax).bind
  rintro isSealed t₁ ⟨ht₁, outcome, heq, ⟨rfl, rfl⟩ | ⟨bytes, rfl, rfl, hbytes, hoccurs⟩⟩
  · rw [bind_apply_of_eq heq]
    exact ⟨ht₁, rfl⟩
  · have hspan := hoccurs.span_eq
    have hle := hoccurs.le_length
    rw [hbytes] at hspan hle
    rw [bind_apply_of_eq heq, if_pos rfl, hlength, recordSize_eq hsize hmax, ensures_bind,
      ensures_give, hspan, ensures_bind, ensures_ask]
    dsimp only
    rw [bind_apply_of_eq (ask_eq ..)]
    exact ⟨ht₁.touch (by rw [← ht₁.length]; exact hle), rfl⟩

/-! ## The walks -/

theorem findFirstUnsentLoop_mirrors {blockSize : Nat} (hsize : C.Addressable blockSize)
    {cursor fuel : Nat} (henough : blockSize ≤ cursor + fuel) (ht : t.buffer.Intact C) :
    Mirrors store (·.buffer.Intact C) (findFirstUnsentLoop P C block blockSize cursor fuel)
      (RecordStore.findFirstUnsentLoop P C block blockSize cursor fuel) t := by
  induction fuel generalizing cursor t with
  | zero =>
    unfold findFirstUnsentLoop
    rw [if_neg (by omega)]
    exact Mirrors.pure ht
  | succ fuel ih =>
    unfold findFirstUnsentLoop RecordStore.findFirstUnsentLoop
    apply Mirrors.ite
    · intro _
      unfold Mirrors
      apply (readRecordExtent_puts ht hsize).bind
      rintro outcome t₁ ⟨ht₁, heq₁, hextent⟩
      rw [bind_apply_of_eq heq₁]
      cases outcome with
      | error result => cases result <;> exact ⟨ht₁, rfl⟩
      | ok length =>
        obtain ⟨hfits, hmax, -⟩ := hextent length rfl
        have hflag := sentFlagOffset_eq hsize hfits
        have hwrap : C.sentFlagOffset cursor length + 1 < 2 ^ C.tunables.sizeBits := by
          rw [C.sentFlagOffset_succ]
          exact (hfits.trans (Nat.le_add_right ..)).trans_lt hsize
        have hnext : C.toSize (cursor + recordSize C length) = cursor + C.recordSize length := by
          rw [recordSize_eq hsize hmax]
          exact C.toSize_of_le hsize (hfits.trans (Nat.le_add_right ..))
        dsimp only
        rw [hflag, hnext]
        apply Ensures.bind (readSpanOut_mirrors hwrap)
        rintro outcome₂ t₂ ⟨hbuffer, heq₂⟩
        have ht₂ : t₂.buffer.Intact C := hbuffer ▸ ht₁
        rw [bind_apply_of_eq heq₂]
        cases outcome₂ with
        | error result => cases result <;> exact ⟨ht₂, rfl⟩
        | ok flag =>
          dsimp only
          by_cases hmarked : flagMarksSentOrDiscarded (flag.getD 0 sentFlagUnsent) = true
          · rw [if_pos hmarked, if_pos hmarked]
            have hpos := C.recordSize_pos length
            exact ih (by omega) ht₂
          · rw [if_neg hmarked, if_neg hmarked]
            exact ⟨ht₂, rfl⟩
    · intro _
      exact Mirrors.pure ht

theorem scanToEndLoop_mirrors {blockSize : Nat} (hsize : C.Addressable blockSize)
    {position fuel : Nat} (henough : blockSize ≤ position + fuel) (ht : t.buffer.Intact C) :
    Mirrors store (·.buffer.Intact C) (scanToEndLoop P C block blockSize position fuel)
      (RecordStore.scanToEndLoop P C block blockSize position fuel) t := by
  induction fuel generalizing position t with
  | zero =>
    unfold scanToEndLoop
    rw [if_neg (by omega)]
    exact Mirrors.pure ht
  | succ fuel ih =>
    unfold scanToEndLoop RecordStore.scanToEndLoop
    apply Mirrors.ite
    · intro _
      unfold Mirrors
      apply (readRecordExtent_puts ht hsize).bind
      rintro outcome t₁ ⟨ht₁, heq₁, hextent⟩
      rw [bind_apply_of_eq heq₁]
      cases outcome with
      | error result => cases result <;> exact ⟨ht₁, rfl⟩
      | ok length =>
        obtain ⟨hfits, hmax, -⟩ := hextent length rfl
        have hnext : C.toSize (position + recordSize C length) =
            position + C.recordSize length := by
          rw [recordSize_eq hsize hmax]
          exact C.toSize_of_le hsize (hfits.trans (Nat.le_add_right ..))
        dsimp only
        rw [hnext]
        have hpos := C.recordSize_pos length
        exact ih (by omega) ht₁
    · intro _
      exact Mirrors.pure ht

end BufferedRecords

end SolidSyslog.Store
