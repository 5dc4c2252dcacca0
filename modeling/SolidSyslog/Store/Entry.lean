import SolidSyslog.Store.Records
import SolidSyslog.Lib.LittleEndian

/-!
# Records as they lie in a block

An entry is a record that was appended: the message, what the security policy made of it, and the
sent flag. Wherever its bytes lie in a block, the record store finds it there.
-/

namespace SolidSyslog.Store

open Lib

variable {σ : Type} {P : Platform σ} {C : Config}

/-- The policy keeps the header in clear, as its contract says, and opens what it sealed. -/
structure SealsInPlace (P : Platform σ) (C : Config) : Prop where
  header : ∀ {content sealedContent trailer env},
    (P.answer (.sealRecord content) env).1 = some (sealedContent, trailer) →
    (fit content.length sealedContent).take contentHeaderSize = content.take contentHeaderSize
  opens : ∀ {content sealedContent trailer env},
    (P.answer (.sealRecord content) env).1 = some (sealedContent, trailer) → ∀ env',
    (P.answer (.openRecord (fit content.length sealedContent) (fit C.trailerSize trailer)) env').1 =
      (.opened, content)

/-- The policy keeps the header in clear, as its contract says. -/
def KeepsHeader (P : Platform σ) : Prop :=
  ∀ {content sealedContent trailer env},
    (P.answer (.sealRecord content) env).1 = some (sealedContent, trailer) →
    (fit content.length sealedContent).take contentHeaderSize = content.take contentHeaderSize

theorem SealsInPlace.keepsHeader (h : SealsInPlace P C) : KeepsHeader P :=
  h.header

theorem ramDevice_sealsInPlace (policy : DiscardPolicy) : SealsInPlace (ramDevice policy) C where
  header := by
    rintro content _ _ env ⟨rfl⟩
    rw [fit_of_length_eq rfl]
  opens := by
    rintro content _ _ env ⟨rfl⟩ env'
    rw [fit_of_length_eq rfl]
    rfl

/-- A record that was appended. -/
structure Entry where
  data : Bytes
  sealedContent : Bytes
  trailer : Bytes
  flag : UInt8

namespace Entry

/-- The content span on the media. -/
def content (e : Entry) : Bytes :=
  fit (header e.data.length ++ e.data).length e.sealedContent

/-- The bytes on the media. -/
def bytes (C : Config) (e : Entry) : Bytes :=
  e.content ++ fit C.trailerSize e.trailer ++ [e.flag]

/-- A message the store takes, behind its own header. -/
structure WellFormed (C : Config) (e : Entry) : Prop where
  pos : 0 < e.data.length
  le : e.data.length ≤ C.tunables.maxMessageSize
  header : e.content.take contentHeaderSize = Store.header e.data.length

variable {e : Entry}

theorem length_content (e : Entry) : e.content.length = contentHeaderSize + e.data.length := by
  simp [content, Store.header, contentHeaderSize]
  omega

/-- Another flag makes no other message. -/
theorem WellFormed.reflagged (h : e.WellFormed C) (flag : UInt8) :
    WellFormed C { e with flag := flag } :=
  ⟨h.pos, h.le, h.header⟩

theorem length_bytes (e : Entry) : (e.bytes C).length = C.recordSize e.data.length := by
  simp only [bytes, List.length_append, length_content, length_fit, List.length_singleton,
    Config.recordSize, contentHeaderSize]

/-- The message behind its header. -/
theorem WellFormed.content_eq (h : e.WellFormed C) :
    e.content = Store.header e.data.length ++ e.content.drop contentHeaderSize := by
  rw [← h.header, List.take_append_drop]

theorem validateHeader_header {length : Nat} (hpos : 0 < length)
    (hle : length ≤ C.tunables.maxMessageSize) :
    C.validateHeader (Store.header length) = some length := by
  have hmax := C.tunables.maxMessageSize_le
  have hunpack := unpack_length (n := length) (by omega)
  simp only [Config.validateHeader, Store.header, hunpack]
  rw [if_pos ⟨trivial, trivial, hpos, hle⟩]

section InBlock

variable (front back : Bytes)

theorem occursAt_bytes (e : Entry) :
    OccursAt (front ++ e.bytes C ++ back) front.length (e.bytes C) :=
  ⟨front, back, rfl, rfl⟩

/-- The content, the trailer and the flag each lie where the record store looks for them. -/
theorem occursAt_content (e : Entry) :
    OccursAt (front ++ e.bytes C ++ back) front.length e.content :=
  (occursAt_bytes front back e).left.left

theorem occursAt_trailer (e : Entry) : OccursAt (front ++ e.bytes C ++ back)
    (trailerOffset front.length e.data.length) (fit C.trailerSize e.trailer) := by
  have htrailer := (occursAt_bytes (C := C) front back e).left.right
  rw [length_content, ← Nat.add_assoc] at htrailer
  exact htrailer

theorem occursAt_flag (e : Entry) : OccursAt (front ++ e.bytes C ++ back)
    (C.sentFlagOffset front.length e.data.length) [e.flag] := by
  have hflag := (occursAt_bytes (C := C) front back e).right
  rw [List.length_append, length_content, length_fit, ← Nat.add_assoc, ← Nat.add_assoc] at hflag
  exact hflag

theorem extentAt_bytes (h : e.WellFormed C) :
    C.extentAt (front ++ e.bytes C ++ back) front.length = .ok e.data.length := by
  have hbytes := (occursAt_bytes (C := C) front back e).le_length
  rw [length_bytes] at hbytes
  have hsize : contentHeaderSize ≤ C.recordSize e.data.length := by
    unfold contentHeaderSize Config.recordSize
    omega
  have hpos := C.recordSize_pos e.data.length
  have hheader : span (front ++ e.bytes C ++ back) front.length contentHeaderSize =
      Store.header e.data.length := by
    have hcontent : OccursAt (front ++ e.bytes C ++ back) front.length
        (Store.header e.data.length ++ e.content.drop contentHeaderSize) := by
      rw [← h.content_eq]
      exact occursAt_content front back e
    exact hcontent.left.span_eq
  unfold Config.extentAt
  rw [if_pos (by omega), if_pos (by omega), hheader, validateHeader_header h.pos h.le]
  dsimp only
  rw [if_pos hbytes]

theorem flagAt_bytes (e : Entry) :
    C.flagAt (front ++ e.bytes C ++ back) front.length e.data.length = e.flag := by
  have hflag := (occursAt_flag (C := C) front back e).getElem? (i := 0)
    (by simp)
  unfold Config.flagAt
  rw [List.getD_eq_getElem?_getD]
  rw [Nat.add_zero] at hflag
  rw [hflag]
  rfl

theorem contentAt_bytes (h : e.WellFormed C) :
    contentAt (front ++ e.bytes C ++ back) front.length e.data.length = e.content := by
  have hcontent : OccursAt (front ++ e.bytes C ++ back) front.length
      (Store.header e.data.length ++ e.content.drop contentHeaderSize) := by
    rw [← h.content_eq]
    exact occursAt_content front back e
  have hlength : (e.content.drop contentHeaderSize).length = e.data.length := by
    rw [List.length_drop, length_content, Nat.add_sub_cancel_left]
  have hmessage := hcontent.right.span_eq
  rw [hlength] at hmessage
  have hheader : (Store.header e.data.length).length = contentHeaderSize := rfl
  rw [hheader] at hmessage
  rw [contentAt, hmessage, ← h.content_eq]

theorem trailerAt_bytes (e : Entry) :
    C.trailerAt (front ++ e.bytes C ++ back) front.length e.data.length =
    fit C.trailerSize e.trailer := by
  have htrailer := (occursAt_trailer (C := C) front back e).span_eq
  rw [length_fit] at htrailer
  exact htrailer

/-- The flag is written where the record store looks for it. -/
theorem overwrite_flag (e : Entry) (flag : UInt8) :
    overwrite (front ++ e.bytes C ++ back) (C.sentFlagOffset front.length e.data.length) [flag] =
      front ++ ({ e with flag := flag } : Entry).bytes C ++ back := by
  have hoffset : C.sentFlagOffset front.length e.data.length =
      (front ++ e.content ++ fit C.trailerSize e.trailer).length := by
    simp only [Config.sentFlagOffset, trailerOffset, List.length_append, length_content, length_fit]
    omega
  have hsplit : ∀ e' : Entry, front ++ e'.bytes C ++ back =
      front ++ e'.content ++ fit C.trailerSize e'.trailer ++ ([e'.flag] ++ back) := by
    intro e'
    simp [bytes]
  rw [hoffset, hsplit, hsplit, overwrite, List.take_left', ← List.drop_drop, List.drop_left']
  · simp [content]
  · rfl
  · rfl

end InBlock

/-! ## Reading an entry -/

/-- The policy has sealed the entry's message into its content and trailer. -/
def Sealed (P : Platform σ) (e : Entry) : Prop :=
  ∃ env, (P.answer (.sealRecord (Store.header e.data.length ++ e.data)) env).1 =
    some (e.sealedContent, e.trailer)

/-- A read at an entry finds it by its flag, and by the policy's verdict where it is unsent. -/
theorem readAt_bytes (front back : Bytes) {maxSize : Nat} {found : RecordStore.Found}
    (h : e.WellFormed C)
    (hread : ReadAt P C (front ++ e.bytes C ++ back) front.length maxSize found) :
    (flagMarksSentOrDiscarded e.flag = true ∧ found = ⟨.finishedWith, e.data.length, []⟩) ∨
      (flagMarksSentOrDiscarded e.flag = false ∧ ∃ env,
        (P.answer (.openRecord e.content (fit C.trailerSize e.trailer)) env).1.1 = .opened ∧
        found = ⟨.succeeded, e.data.length, ((fit e.content.length (P.answer (.openRecord e.content
          (fit C.trailerSize e.trailer)) env).1.2).drop contentHeaderSize).take maxSize⟩) ∨
      (flagMarksSentOrDiscarded e.flag = false ∧ (∃ env,
        (P.answer (.openRecord e.content (fit C.trailerSize e.trailer)) env).1.1 = .rejected) ∧
        found = ⟨.rejected, e.data.length, []⟩) ∨
      (flagMarksSentOrDiscarded e.flag = false ∧ (∃ env,
        (P.answer (.openRecord e.content (fit C.trailerSize e.trailer)) env).1.1 = .couldNotRun) ∧
        found = ⟨.couldNotOpen, e.data.length, []⟩) := by
  have hextent := extentAt_bytes front back h
  have hcontent := contentAt_bytes front back h
  have htrailer := trailerAt_bytes (C := C) front back e
  have hflag := flagAt_bytes (C := C) front back e
  cases hread with
  | endOfData extent => rw [hextent] at extent; cases extent
  | corrupt extent => rw [hextent] at extent; cases extent
  | finishedWith extent flag =>
    rw [hextent] at extent
    cases extent
    rw [hflag] at flag
    exact .inl ⟨flag, rfl⟩
  | opened extent flag verdict =>
    rw [hextent] at extent
    cases extent
    rw [hflag] at flag
    rw [hcontent, htrailer] at verdict ⊢
    exact .inr (.inl ⟨flag, _, verdict, rfl⟩)
  | rejected extent flag verdict =>
    rw [hextent] at extent
    cases extent
    rw [hflag] at flag
    rw [hcontent, htrailer] at verdict
    exact .inr (.inr (.inl ⟨flag, ⟨_, verdict⟩, rfl⟩))
  | couldNotOpen extent flag verdict =>
    rw [hextent] at extent
    cases extent
    rw [hflag] at flag
    rw [hcontent, htrailer] at verdict
    exact .inr (.inr (.inr ⟨flag, ⟨_, verdict⟩, rfl⟩))

/-- A policy that opens what it sealed hands the message back. -/
theorem readAt_unsent (front back : Bytes) {maxSize : Nat} {found : RecordStore.Found}
    (hP : SealsInPlace P C) (h : e.WellFormed C) (hsealed : e.Sealed P)
    (hunsent : flagMarksSentOrDiscarded e.flag = false)
    (hread : ReadAt P C (front ++ e.bytes C ++ back) front.length maxSize found) :
    found = ⟨.succeeded, e.data.length, e.data.take maxSize⟩ := by
  obtain ⟨env, hseal⟩ := hsealed
  have hopens := hP.opens hseal
  rcases readAt_bytes front back h hread with ⟨hflag, -⟩ | ⟨-, env', -, rfl⟩ | ⟨-,
    ⟨env', hverdict⟩, -⟩ |
    ⟨-, ⟨env', hverdict⟩, -⟩
  · rw [hunsent] at hflag
    cases hflag
  · have hlength : (Store.header e.data.length ++ e.data).length = e.content.length := by
      rw [length_content]
      simp [Store.header, contentHeaderSize]
      omega
    have hopened := hopens env'
    rw [show fit (Store.header e.data.length ++ e.data).length e.sealedContent = e.content from rfl]
      at hopened
    rw [hopened, fit_of_length_eq hlength]
    rfl
  · rw [show e.content = fit (Store.header e.data.length ++ e.data).length e.sealedContent from rfl,
      hopens env'] at hverdict
    cases hverdict
  · rw [show e.content = fit (Store.header e.data.length ++ e.data).length e.sealedContent from rfl,
      hopens env'] at hverdict
    cases hverdict

/-- What a write appends is an entry. -/
theorem recordBytes_eq {data sealedContent trailer : Bytes} (hdata : data.length ≤ 65535) :
    RecordStore.recordBytes C data sealedContent trailer =
      bytes C ⟨data, sealedContent, trailer, sentFlagUnsent⟩ := by
  rw [RecordStore.recordBytes, toUint16_of_le hdata]
  rfl

theorem wellFormed_of_sealed (hP : KeepsHeader P) (hpos : 0 < e.data.length)
    (hle : e.data.length ≤ C.tunables.maxMessageSize) (hsealed : e.Sealed P) : e.WellFormed C := by
  obtain ⟨env, hseal⟩ := hsealed
  exact ⟨hpos, hle, hP hseal⟩

end Entry

end SolidSyslog.Store
