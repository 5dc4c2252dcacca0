import SolidSyslog.Security.SealedStore

/-!
# What the store hands out was opened under a key

On a device in anybody's hands. A record handed out rests on bytes the device gave and on a verdict
of the policy; a record appended was sealed just before. Both are facts about the trace that no call
breaks, and with a policy that has a key each verdict is one under a key that it was given.
-/

namespace SolidSyslog.Security

open Lib
open Store

variable {σ τ ε : Type} {P : Platform σ} {C : Config}

/-! ## Records handed out -/

/-- The device gave the bytes. -/
def Gave (trace : List Event) (block : Sequence) (offset count : Nat) (bytes : Bytes) : Prop :=
  ∃ raw, Event.call (.read block offset count) (some raw) ∈ trace ∧ bytes = fit count raw

/-- Bytes handed out are what was opened of a record whose header, message and trailer the device
gave. The header is that of the message's length, which is within the limit. -/
def Backed (C : Config) (opened : (head message trailer plain : Bytes) → Prop) (trace : List Event)
    (maxSize : Nat) (bytes : Bytes) : Prop :=
  ∃ block start length message trailer flag plain,
    (0 < length ∧ length ≤ C.tunables.maxMessageSize) ∧
    Gave trace block start contentHeaderSize (header length) ∧
    Gave trace block (start + contentHeaderSize) length message ∧
    Gave trace block (trailerOffset start length) (C.trailerSize + 1) (trailer ++ [flag]) ∧
    opened (header length) message trailer plain ∧ bytes = plain.take maxSize

/-- The policy opened the content, and left the message as it is. -/
def OpenedIn (trace : List Event) (head message trailer plain : Bytes) : Prop :=
  ∃ left, Event.call (.openRecord (head ++ message) trailer) (.opened, left) ∈ trace ∧
    plain = (fit (head ++ message).length left).drop contentHeaderSize

theorem Gave.mono {trace trace' : List Event} {block : Sequence} {offset count : Nat}
    {bytes : Bytes}
    (h : Gave trace block offset count bytes) (hgrows : trace <+: trace') :
    Gave trace' block offset count bytes := by
  obtain ⟨raw, hmem, hbytes⟩ := h
  exact ⟨raw, hgrows.subset hmem, hbytes⟩

theorem Gave.length {trace : List Event} {block : Sequence} {offset count : Nat} {bytes : Bytes}
    (h : Gave trace block offset count bytes) : bytes.length = count := by
  obtain ⟨raw, -, rfl⟩ := h
  exact length_fit ..

theorem OpenedIn.mono {trace trace' : List Event} {head message trailer plain : Bytes}
    (h : OpenedIn trace head message trailer plain) (hgrows : trace <+: trace') :
    OpenedIn trace' head message trailer plain := by
  obtain ⟨left, hmem, hplain⟩ := h
  exact ⟨left, hgrows.subset hmem, hplain⟩

theorem Backed.mono {trace trace' : List Event} {maxSize : Nat} {bytes : Bytes}
    (h : Backed C (OpenedIn trace) trace maxSize bytes) (hgrows : trace <+: trace') :
    Backed C (OpenedIn trace') trace' maxSize bytes := by
  obtain ⟨block, start, length, message, trailer, flag, plain, hlength, hhead, hmessage, htail,
    hopened, hbytes⟩ := h
  exact ⟨block, start, length, message, trailer, flag, plain, hlength, hhead.mono hgrows,
    hmessage.mono hgrows, htail.mono hgrows, hopened.mono hgrows, hbytes⟩

theorem Backed.imp {opened opened' : (head message trailer plain : Bytes) → Prop}
    {trace : List Event} {maxSize : Nat} {bytes : Bytes} (h : Backed C opened trace maxSize bytes)
    (himp : ∀ {head message trailer plain : Bytes}, head.length = contentHeaderSize →
      message.length ≤ C.tunables.maxMessageSize → trailer.length = C.trailerSize →
      opened head message trailer plain → opened' head message trailer plain) :
    Backed C opened' trace maxSize bytes := by
  obtain ⟨block, start, length, message, trailer, flag, plain, hlength, hhead, hmessage, htail,
    hopened, hbytes⟩ := h
  have htrailer : trailer.length = C.trailerSize := by
    have hwhole := htail.length
    rw [List.length_append] at hwhole
    exact Nat.succ.inj hwhole
  have hfits : message.length ≤ C.tunables.maxMessageSize := hmessage.length.trans_le hlength.2
  exact ⟨block, start, length, message, trailer, flag, plain, hlength, hhead, hmessage, htail,
    himp (length_header length) hfits htrailer hopened, hbytes⟩

/-- The trace only grows. -/
theorem grows_guarded (P : Platform σ) (C : Config) (trace : List Event) :
    Guarded P C (fun w => trace <+: w.trace) where
  asked _ h := h.trans (List.prefix_append _ _)
  noted _ h := h.trans (List.prefix_append _ _)
  appended _ h _ := (h.trans (List.prefix_append _ _)).trans (List.prefix_append _ _)

section Reading

variable {s : RecordState σ}

theorem readSpan_gave (block : Sequence) (offset count dataSize : Nat) :
    Ensures (RecordStore.readSpan P block offset count dataSize) (fun bytes t =>
      s.world.trace <+: t.world.trace ∧ bytes ≠ .error .succeeded ∧
      ∀ given, bytes = .ok given → Gave t.world.trace block offset count given) s := by
  apply Ensures.ite
  · intro _
    apply RecordStore.ensures_ask
    have hgrows : s.world.trace <+: (s.world.asked P (.read block offset count)).trace :=
      List.prefix_append _ _
    cases hanswer : (P.answer (.read block offset count) s.world.env).1 with
    | some raw =>
      refine ⟨hgrows, nofun, ?_⟩
      rintro _ ⟨rfl⟩
      refine ⟨raw, ?_, rfl⟩
      show _ ∈ s.world.trace ++ [Event.call _ (P.answer (.read block offset count) s.world.env).1]
      rw [hanswer]
      exact List.mem_append_right _ (List.mem_singleton_self _)
    | none => exact ⟨hgrows, nofun, nofun⟩
  · exact fun _ => ⟨List.prefix_rfl, nofun, nofun⟩

/-- A length read off the media is that of a header the device gave. -/
theorem readRecordExtent_gave (block : Sequence) (offset dataSize : Nat) :
    Ensures (RecordStore.readRecordExtent P C block offset dataSize) (fun extent t =>
      ∀ length, extent = .ok length → (0 < length ∧ length ≤ C.tunables.maxMessageSize) ∧
        Gave t.world.trace block offset contentHeaderSize (header length)) s := by
  have hheader : Ensures (RecordStore.readHeader P C block offset dataSize) (fun found t =>
      ∀ length, found = .ok length → (0 < length ∧ length ≤ C.tunables.maxMessageSize) ∧
        Gave t.world.trace block offset contentHeaderSize (header length)) s := by
    apply Ensures.ite
    · intro _
      apply Ensures.bind (readSpan_gave ..)
      rintro (result | bytes) t ⟨-, -, hgave⟩
      · exact nofun
      · dsimp only
        cases hvalid : C.validateHeader bytes with
        | some length =>
          rintro _ ⟨rfl⟩
          rw [← C.eq_header_of_validateHeader hvalid]
          exact ⟨C.validateHeader_bounds hvalid, hgave bytes rfl⟩
        | none => exact nofun
    · exact fun _ => nofun
  apply hheader.bind
  rintro (result | length) t hgave
  · exact nofun
  · rintro other hsome
    have hlength : length = other := by
      have hwithin : (if _ then Except.ok length else .error ReadResult.corrupt) = .ok other :=
        hsome
      split at hwithin
      · exact Except.ok.inj hwithin
      · cases hwithin
    exact hlength ▸ hgave length rfl

theorem openRecord_opened (head message trailer : Bytes) :
    Ensures (RecordStore.openRecord P (head ++ message) trailer) (fun out t =>
      s.world.trace <+: t.world.trace ∧
        (out.1 = .succeeded → OpenedIn t.world.trace head message trailer out.2)) s := by
  apply RecordStore.ensures_ask
  have hgrows : s.world.trace <+: (s.world.asked P (.openRecord (head ++ message) trailer)).trace :=
    List.prefix_append _ _
  have hmem : Event.call (.openRecord (head ++ message) trailer)
      (P.answer (.openRecord (head ++ message) trailer) s.world.env).1 ∈
        (s.world.asked P (.openRecord (head ++ message) trailer)).trace :=
    List.mem_append_right _ (List.mem_singleton_self _)
  revert hmem
  rcases (P.answer (.openRecord (head ++ message) trailer) s.world.env).1 with ⟨result, left⟩
  intro hmem
  cases result with
  | opened => exact ⟨hgrows, fun _ => ⟨left, hmem, rfl⟩⟩
  | rejected | couldNotRun => exact ⟨hgrows, nofun⟩

/-- The tail of a record is its trailer and its flag. -/
theorem tail_eq {tail : Bytes} (h : tail.length = C.trailerSize + 1) :
    ∃ flag, tail = tail.take C.trailerSize ++ [flag] := by
  have hrest : (tail.drop C.trailerSize).length = 1 := by
    rw [List.length_drop]
    omega
  obtain ⟨flag, hflag⟩ := List.length_eq_one_iff.1 hrest
  exact ⟨flag, by rw [← hflag, List.take_append_drop]⟩

theorem validateRecord_backed (block : Sequence) (offset dataSize maxSize : Nat) {length : Nat}
    (hlength : 0 < length ∧ length ≤ C.tunables.maxMessageSize)
    (hhead : Gave s.world.trace block offset contentHeaderSize (header length)) :
    Ensures (RecordStore.validateRecord P C block offset dataSize length) (fun out t =>
      out.1 = .succeeded →
        Backed C (OpenedIn t.world.trace) t.world.trace maxSize (out.2.take maxSize)) s := by
  apply Ensures.bind (readSpan_gave ..)
  rintro (result | message) t ⟨hgrows₀, herror, hmessage⟩
  · exact fun hresult => absurd (congrArg Except.error hresult) herror
  · apply Ensures.bind (readSpan_gave ..)
    rintro (result | tail) u ⟨hgrows, herror', htail⟩
    · exact fun hresult => absurd (congrArg Except.error hresult) herror'
    · apply Ensures.ite
      · exact fun _ => nofun
      · intro _
        apply (openRecord_opened (header length) message (tail.take C.trailerSize)).mono
        rintro ⟨result, plain⟩ v ⟨hgrows', hopened⟩ hsucceeded
        have hgave := hmessage message rfl
        have hgave' := htail tail rfl
        obtain ⟨flag, hflag⟩ := tail_eq hgave'.length
        rw [hflag] at hgave'
        exact ⟨block, offset, length, message, tail.take C.trailerSize, flag, plain, hlength,
          hhead.mono (hgrows₀.trans (hgrows.trans hgrows')), hgave.mono (hgrows.trans hgrows'),
          hgave'.mono hgrows', hopened hsucceeded, rfl⟩

theorem read_backed (block : Sequence) (offset dataSize maxSize : Nat) :
    Ensures (RecordStore.read P C block offset dataSize maxSize) (fun found t =>
      found.bytes ≠ [] →
        Backed C (OpenedIn t.world.trace) t.world.trace maxSize found.bytes) s := by
  apply Ensures.bind (readRecordExtent_gave block offset dataSize)
  rintro (result | length) t hextent
  · exact fun hsome => absurd rfl hsome
  · obtain ⟨hlength, hhead⟩ := hextent length rfl
    apply Ensures.bind (validateRecord_backed block offset dataSize maxSize hlength hhead)
    rintro ⟨result, message⟩ u hbacked
    have hfound : (if result = .succeeded then message.take maxSize else []) ≠ [] →
        Backed C (OpenedIn u.world.trace) u.world.trace maxSize
          (if result = .succeeded then message.take maxSize else []) := by
      split
      · next hresult => exact fun _ => hbacked hresult
      · exact fun hsome => absurd rfl hsome
    exact .ite (fun _ => hfound) fun _ => hfound

end Reading

section Handing

variable {s : BlockStore σ}

theorem readCurrent_backed (maxSize : Nat) :
    Ensures (BlockStore.readCurrent P C maxSize) (fun found t => found.bytes ≠ [] →
      Backed C (OpenedIn t.world.trace) t.world.trace maxSize found.bytes) s := by
  have hsize : Ensures (BlockStore.onSeq (BlockSequence.readBlockSizeOf P)) (fun _ _ => True) s :=
    trivial
  apply hsize.bind
  rintro (_ | readBlockSize) t -
  · exact fun hsome => absurd rfl hsome
  · exact read_backed (s := ⟨t.records, t.world⟩) t.seq.readSequence t.seq.readCursor _ maxSize

/-- What the policy opened and the device gave stays in the trace. -/
theorem Backed.kept {α : Type} {action : BlockStore.Action σ α} {maxSize : Nat} {bytes : Bytes}
    (h : Backed C (OpenedIn s.world.trace) s.world.trace maxSize bytes)
    (hkeeps : ∀ {I}, Guarded P C I → Keeps BlockStore.world I action) :
    Ensures action (fun _ t => Backed C (OpenedIn t.world.trace) t.world.trace maxSize bytes) s :=
  ((hkeeps (grows_guarded P C s.world.trace)).ensures s List.prefix_rfl).mono
    fun _ _ hgrows => h.mono hgrows

theorem readLoop_backed (maxSize fuel : Nat) :
    Ensures (BlockStore.readLoop P C maxSize fuel) (fun out t => ∀ found, out = some found →
      found.bytes ≠ [] →
        Backed C (OpenedIn t.world.trace) t.world.trace maxSize found.bytes) s := by
  induction fuel generalizing s with
  | zero => exact nofun
  | succ fuel ih =>
    apply Ensures.bind (readCurrent_backed maxSize)
    intro found t hfound
    have hkept : Ensures (BlockStore.stepPast P C found) (fun _ u => found.bytes ≠ [] →
        Backed C (OpenedIn u.world.trace) u.world.trace maxSize found.bytes) t :=
      fun hsome => Backed.kept (hfound hsome) fun hI => BlockStore.keeps_stepPast hI found
    apply hkept.bind
    intro again u hstays
    apply Ensures.ite
    · exact fun _ => ih
    · rintro - _ ⟨rfl⟩
      exact hstays

theorem readNextUnsent_backed (fuel maxSize : Nat) :
    Ensures (BlockStore.readNextUnsent P C fuel maxSize) (fun out t => ∀ bytes,
      out = some (some bytes) →
        Backed C (OpenedIn t.world.trace) t.world.trace maxSize bytes) s := by
  unfold BlockStore.readNextUnsent
  rw [ensures_bind, ensures_get]
  apply Ensures.ite
  · exact fun _ => nofun
  · intro _
    rw [ensures_bind, BlockStore.ensures_seqOf]
    apply Ensures.ite
    · intro _
      apply Ensures.bind (readLoop_backed maxSize fuel)
      rintro (_ | found) t hfound
      · exact nofun
      · have hkept : Ensures (BlockStore.settleRead P found) (fun _ u => found.bytes ≠ [] →
            Backed C (OpenedIn u.world.trace) u.world.trace maxSize found.bytes) t :=
          fun hsome => Backed.kept (hfound found rfl hsome) fun hI =>
            BlockStore.keeps_settleRead hI found
        apply hkept.bind
        intro _ u hbacked bytes hbytes
        have hsome : (if 0 < found.bytes.length then some found.bytes else none) = some bytes :=
          Option.some.inj hbytes
        split at hsome
        · next hpos =>
          obtain rfl := Option.some.inj hsome
          exact hbacked (List.ne_nil_of_length_pos hpos)
        · cases hsome
    · exact fun _ => nofun

/-- One call of the store: what a read hands out is backed. -/
theorem perform_backed (fuel maxSize : Nat) :
    Ensures (BlockStore.perform P fuel (.readNextUnsent (C := C) maxSize)) (fun answer t => ∀ bytes,
      answer = .read (some bytes) →
        Backed C (OpenedIn t.world.trace) t.world.trace maxSize bytes) s := by
  apply Ensures.bind (readNextUnsent_backed fuel maxSize)
  rintro (_ | bytes) t hbacked given hgiven
  · cases hgiven
  · cases hgiven
    exact hbacked given rfl

end Handing

/-! ## Records appended -/

/-- What is appended is a message within the limit, sealed before. -/
def AppendsSealed (C : Config) (sealed : (before : List Event) → (data bytes : Bytes) → Prop)
    (before : List Event) : Event → Prop
  | .call (.append _ bytes) _ =>
    ∃ data : Bytes, data.length ≤ C.tunables.maxMessageSize ∧ sealed before data bytes
  | _ => True

/-- The policy sealed the message behind its header, and left these bytes. -/
def SealedIn (C : Config) (trace : List Event) (data bytes : Bytes) : Prop :=
  ∃ left trailer, Event.call (.sealRecord (header data.length ++ data))
    (some (left, trailer)) ∈ trace ∧
    bytes = sealedBytes C (header data.length ++ data) left trailer

theorem appends_guarded (P : Platform σ) (C : Config) :
    Guarded P C (fun w => Always (AppendsSealed C (SealedIn C)) w.trace) where
  asked := by
    intro w request hrequest h
    apply h.concat
    cases request with
    | append => cases hrequest
    | _ => trivial
  noted := by
    intro w event hevent h
    apply h.concat
    cases event with
    | call => cases hevent
    | _ => trivial
  appended := by
    intro w data block left trailer hdata h hsealed
    have hlength : toUint16 data.length = data.length :=
      toUint16_of_le (hdata.trans (C.tunables.maxMessageSize_le.trans (by decide)))
    rw [hlength] at hsealed ⊢
    have hseal : AppendsSealed C (SealedIn C) w.trace
      (.call (.sealRecord (header data.length ++ data)) (P.answer _ w.env).1) := trivial
    apply (h.concat hseal).concat
    refine ⟨data, hdata, left, trailer, ?_, rfl⟩
    rw [← hsealed]
    exact List.mem_append_right _ (List.mem_singleton_self _)

/-! ## Under a key -/

open KeyedPolicy (Keyed)

/-- The scheme opens the content under a key that was given. -/
def OpensUnderKey (scheme : KeyedPolicy.Scheme) (did : List PolicyEvent)
    (content trailer left : Bytes) : Prop :=
  ∃ key opened, .gotKey (some key) ∈ did ∧ scheme.accepts key ∧
    scheme.opens key (recordOf content trailer) opened ∧ left = opened.content

/-- The scheme seals the content under a key that was given. -/
def SealsUnderKey (scheme : KeyedPolicy.Scheme) (did : List PolicyEvent)
    (content left trailer : Bytes) : Prop :=
  ∃ key blank sealed, .gotKey (some key) ∈ did ∧ scheme.accepts key ∧
    scheme.seals key (recordOf content blank) sealed ∧ left = sealed.content ∧
    trailer = sealed.trailer

/-- Every seal and every open in the trace was made under a key that the policy was given. -/
structure Vouched (scheme : KeyedPolicy.Scheme) (trailerSize : Nat)
    (w : World (KeyedPolicy σ × ε)) :
    Prop where
  opened : ∀ {content trailer left},
    Event.call (.openRecord content trailer) (.opened, left) ∈ w.trace →
    trailer.length = trailerSize → OpensUnderKey scheme w.env.1.trace content trailer left
  sealed : ∀ {content left trailer},
    Event.call (.sealRecord content) (some (left, trailer)) ∈ w.trace →
    SealsUnderKey scheme w.env.1.trace content left trailer

variable {K : Crypto} {O : Surroundings σ} {M : MaxHmacKeySize} {source : String}
  {policy : SecurityPolicy (KeyedPolicy σ)} {scheme : KeyedPolicy.Scheme}

theorem Vouched.asked {trailerSize : Nat} {Q : Platform (KeyedPolicy σ × ε)} {request : Request}
    {w : World (KeyedPolicy σ × ε)} (h : Vouched scheme trailerSize w)
    (hgrows : w.env.1.trace <+: (Q.answer request w.env).2.1.trace)
    (hopened : ∀ content trailer left,
      Event.call request (Q.answer request w.env).1 = .call (.openRecord content trailer)
        (.opened, left) →
      trailer.length = trailerSize →
        OpensUnderKey scheme (Q.answer request w.env).2.1.trace content trailer left)
    (hsealed : ∀ content left trailer,
      Event.call request (Q.answer request w.env).1 =
        .call (.sealRecord content) (some (left, trailer)) →
        SealsUnderKey scheme (Q.answer request w.env).2.1.trace content left trailer) :
    Vouched scheme trailerSize (w.asked Q request) where
  opened := by
    intro content trailer left hmem htrailer
    rcases List.mem_append.1 hmem with hold | hnew
    · obtain ⟨key, opened, hkey, hrest⟩ := h.opened hold htrailer
      exact ⟨key, opened, hgrows.subset hkey, hrest⟩
    · exact hopened content trailer left (List.mem_singleton.1 hnew).symm htrailer
  sealed := by
    intro content left trailer hmem
    rcases List.mem_append.1 hmem with hold | hnew
    · obtain ⟨key, blank, sealed, hkey, hrest⟩ := h.sealed hold
      exact ⟨key, blank, sealed, hgrows.subset hkey, hrest⟩
    · exact hsealed content left trailer (List.mem_singleton.1 hnew).symm

theorem key_mem {s t : KeyedPolicy σ} {key : Bytes} (h : KeyedPolicy.Fetched O s t key) :
    .gotKey (some key) ∈ t.trace :=
  h.first.subset (List.mem_append_right _ (List.mem_singleton_self _))

/-- A seal of the policy is under the key it was given for it. -/
theorem sealed_underKey (h : Keyed K O M policy scheme source) {content left trailer : Bytes}
    {Q : Platform ε} {env : KeyedPolicy σ × ε}
    (hsealed : ((secured policy Q).answer (.sealRecord content) env).1 = some (left, trailer)) :
    SealsUnderKey scheme ((secured policy Q).answer (.sealRecord content) env).2.1.trace content
      left
      trailer := by
  let blank := List.replicate policy.trailerSize (0 : UInt8)
  have hseal := (h.protects.sealRecord (recordOf content blank) env.1).2
  cases hok : (policy.sealRecord (recordOf content blank) env.1).1.1 with
  | true =>
    have hmade : some (_, _) = some (left, trailer) := (if_pos hok).symm.trans hsealed
    obtain ⟨key, hfetched, haccepts, hseals⟩ := hseal hok
    exact ⟨key, blank, _, key_mem hfetched, haccepts, hseals,
      (congrArg Prod.fst (Option.some.inj hmade)).symm,
      (congrArg Prod.snd (Option.some.inj hmade)).symm⟩
  | false =>
    have hnone : none = some (left, trailer) :=
      (if_neg (hok ▸ Bool.false_ne_true)).symm.trans hsealed
    cases hnone

/-- So is an open. -/
theorem opened_underKey (h : Keyed K O M policy scheme source) {content trailer left : Bytes}
    {Q : Platform ε} {env : KeyedPolicy σ × ε} (htrailer : trailer.length = policy.trailerSize)
    (hopened : ((secured policy Q).answer (.openRecord content trailer) env).1 = (.opened, left)) :
    OpensUnderKey scheme ((secured policy Q).answer (.openRecord content trailer) env).2.1.trace
      content
      trailer left := by
  obtain ⟨key, hfetched, haccepts, hopens⟩ :=
    (h.protects.openRecord (recordOf content trailer) env.1).2 htrailer (congrArg Prod.fst hopened)
  exact ⟨key, _, key_mem hfetched, haccepts, hopens, (congrArg Prod.snd hopened).symm⟩

theorem secured_asked (h : Keyed K O M policy scheme source) {Q : Platform ε} (request : Request)
    {w : World (KeyedPolicy σ × ε)} (hw : Vouched scheme policy.trailerSize w) :
    Vouched scheme policy.trailerSize (w.asked (secured policy Q) request) := by
  cases request with
  | sealRecord content =>
    refine hw.asked (h.protects.sealRecord _ w.env.1).1.grows nofun ?_
    intro content' left trailer hcall
    obtain ⟨hrequest, hanswer⟩ := Event.call.inj hcall
    obtain rfl := Request.sealRecord.inj hrequest
    exact sealed_underKey h (eq_of_heq hanswer)
  | openRecord content trailer =>
    refine hw.asked (h.protects.openRecord _ w.env.1).1.grows ?_ nofun
    intro content' trailer' left hcall htrailer
    obtain ⟨hrequest, hanswer⟩ := Event.call.inj hcall
    obtain ⟨rfl, rfl⟩ := Request.openRecord.inj hrequest
    exact opened_underKey h htrailer (eq_of_heq hanswer)
  | acquire | dispose | blockExists | read | append | writeAt | size | getDiscardPolicy
  | getCapacityThreshold | onThresholdCrossed | report => exact hw.asked List.prefix_rfl nofun nofun

theorem vouched_guarded (h : Keyed K O M policy scheme source) (Q : Platform ε) (C : Config) :
    Guarded (secured policy Q) C (Vouched scheme policy.trailerSize) where
  asked _ hw := secured_asked h _ hw
  noted := by
    intro w event hevent hw
    constructor
    · intro content trailer left hmem
      rcases List.mem_append.1 hmem with hold | hnew
      · exact hw.opened hold
      · rw [← List.mem_singleton.1 hnew] at hevent
        cases hevent
    · intro content left trailer hmem
      rcases List.mem_append.1 hmem with hold | hnew
      · exact hw.sealed hold
      · rw [← List.mem_singleton.1 hnew] at hevent
        cases hevent
  appended _ hw _ := secured_asked h _ (secured_asked h _ hw)

/-! ## What a key makes of a record -/

/-- What a record is opened to under a key: the message itself, where the trailer is the tag of
header and message, or what the message decrypts to under the nonce in the trailer, the header
authenticated with it. -/
inductive OpensAs (K : Crypto) (M : MaxHmacKeySize) :
    KeyedPolicy.Scheme → (key head message trailer plain : Bytes) → Prop
  | tagged {key head message : Bytes} :
      OpensAs K M (KeyedPolicy.tagging K M) key head message
        (K.hmacSha256 key (head ++ message)) message
  | encrypted {key head message nonce tag plain : Bytes}
      (nonce_length : nonce.length = KeyedPolicy.gcmNonceSize)
      (tag_length : tag.length = KeyedPolicy.gcmTagSize)
      (opened : K.gcmOpen key nonce head message tag = some plain) :
      OpensAs K M (KeyedPolicy.encrypting K) key head message (nonce ++ tag) plain

/-- What a message is sealed as under a key: itself with the tag of header and message, or what it
is encrypted to under a nonce, with the nonce and the tag. The sent flag comes last. -/
inductive SealsAs (K : Crypto) (M : MaxHmacKeySize) :
    KeyedPolicy.Scheme → (key data bytes : Bytes) → Prop
  | tagged {key data : Bytes} :
      SealsAs K M (KeyedPolicy.tagging K M) key data (header data.length ++ data ++
        K.hmacSha256 key (header data.length ++ data) ++ [sentFlagUnsent])
  | encrypted {key data nonce body tag : Bytes}
      (nonce_length : nonce.length = KeyedPolicy.gcmNonceSize)
      (sealed : K.gcmSeal key nonce (header data.length) data = (body, tag)) :
      SealsAs K M (KeyedPolicy.encrypting K) key data (header data.length ++ body ++
        (nonce ++ tag) ++ [sentFlagUnsent])

/-- A content within the limit is presented whole: its length does not wrap. -/
theorem recordOf_whole {head message : Bytes} (trailer : Bytes)
    (hhead : head.length = contentHeaderSize) (hfits : message.length ≤ 65531) :
    (head ++ message).take (recordOf (head ++ message) trailer).contentLength.toNat =
      head ++ message ∧
      (recordOf (head ++ message) trailer).header = head ∧
      (recordOf (head ++ message) trailer).body = message := by
  have hlength : (head ++ message).length = 4 + message.length := by
    rw [List.length_append, hhead]
    rfl
  have hcontent : (UInt16.ofNat (head ++ message).length).toNat = 4 + message.length := by
    rw [hlength, UInt16.toNat_ofNat']
    omega
  have hbody : (UInt16.ofNat (head ++ message).length - UInt16.ofNat contentHeaderSize).toNat =
      message.length := by
    rw [UInt16.toNat_sub, hcontent]
    show (65536 - 4 + (4 + message.length)) % 65536 = _
    omega
  refine ⟨?_, List.take_left' hhead, ?_⟩
  · exact List.take_of_length_le (hlength.trans hcontent.symm).le
  · show ((head ++ message).drop contentHeaderSize).take _ = message
    rw [List.drop_left' hhead]
    exact List.take_of_length_le hbody.ge

/-- Another body of the same length takes the message's place. -/
theorem recordOf_withBody {head message body : Bytes} (trailer : Bytes)
    (hhead : head.length = contentHeaderSize) (hfits : message.length ≤ 65531)
    (hbody : body.length = message.length) :
    ((recordOf (head ++ message) trailer).withBody body).content = head ++ body := by
  obtain ⟨-, hheader, hmessage⟩ := recordOf_whole trailer hhead hfits
  have hlength := (withBody_parts trailer (hbody.trans (congrArg List.length hmessage).symm)).1
  have hrest : ((recordOf (head ++ message) trailer).withBody body).content =
      head ++ body ++ (head ++ message).drop _ := congrArg (· ++ body ++ _) hheader
  rw [hrest] at hlength ⊢
  have hnone : ((head ++ message).drop ((recordOf (head ++ message) trailer).headerLength.toNat +
      ((recordOf (head ++ message) trailer).contentLength -
        (recordOf (head ++ message) trailer).headerLength).toNat)).length = 0 := by
    simp only [List.length_append] at hlength ⊢
    omega
  rw [List.length_eq_zero_iff.1 hnone, List.append_nil]

theorem opensAs (h : Keyed K O M policy scheme source) {key head message trailer : Bytes}
    {opened : SecurityRecord} (hhead : head.length = contentHeaderSize)
    (hfits : message.length ≤ 65531) (htrailer : trailer.length = policy.trailerSize)
    (hopens : scheme.opens key (recordOf (head ++ message) trailer) opened) :
    OpensAs K M scheme key head message trailer
      ((fit (head ++ message).length opened.content).drop contentHeaderSize) := by
  obtain ⟨hwhole, hheader, hbody⟩ := recordOf_whole trailer hhead hfits
  have htagged : ∀ {opened}, (KeyedPolicy.tagging K M).opens key
      (recordOf (head ++ message) trailer) opened → OpensAs K M (KeyedPolicy.tagging K M) key head
        message trailer ((fit (head ++ message).length opened.content).drop contentHeaderSize) := by
    rintro _ ⟨htag, rfl⟩
    have htag' : trailer = K.hmacSha256 key (head ++ message) :=
      htag.trans (congrArg (K.hmacSha256 key) hwhole)
    have hcontent : (recordOf (head ++ message) trailer).content = head ++ message := rfl
    rw [hcontent, fit_of_length_eq rfl, List.drop_left' hhead, htag']
    exact .tagged
  have hencrypted : trailer.length = KeyedPolicy.aesGcmTrailerSize → ∀ {opened},
      (KeyedPolicy.encrypting K).opens key (recordOf (head ++ message) trailer) opened →
      OpensAs K M (KeyedPolicy.encrypting K) key head message trailer
        ((fit (head ++ message).length opened.content).drop contentHeaderSize) := by
    rintro hsize _ ⟨plain, hplain, rfl⟩
    have hsame : (recordOf (head ++ message) trailer).trailer = trailer := rfl
    rw [hheader, hbody, hsame] at hplain
    have hlength := K.gcmOpen_length hplain
    rw [recordOf_withBody trailer hhead hfits hlength,
      fit_of_length_eq (by rw [List.length_append, List.length_append, hlength]),
      List.drop_left' hhead]
    have hrest : (trailer.drop KeyedPolicy.gcmNonceSize).length = KeyedPolicy.gcmTagSize := by
      rw [List.length_drop, hsize]
      rfl
    rw [List.take_of_length_le hrest.le] at hplain
    have hnonce : (trailer.take KeyedPolicy.gcmNonceSize).length = KeyedPolicy.gcmNonceSize := by
      rw [List.length_take, hsize]
      rfl
    have hopened := OpensAs.encrypted (M := M) hnonce hrest hplain
    rwa [List.take_append_drop] at hopened
  cases h with
  | openSslHmacSha256 | mbedTlsHmacSha256 | wolfSslHmacSha256 => exact htagged hopens
  | openSslAesGcm | mbedTlsAesGcm | wolfSslAesGcm => exact hencrypted htrailer hopens

theorem sealsAs (h : Keyed K O M policy scheme source) (hC : C.trailerSize = policy.trailerSize)
    {key data blank : Bytes} {sealed : SecurityRecord} (hfits : data.length ≤ 65531)
    (hseals : scheme.seals key (recordOf (header data.length ++ data) blank) sealed) :
    SealsAs K M scheme key data
      (sealedBytes C (header data.length ++ data) sealed.content sealed.trailer) := by
  have hhead := length_header data.length
  obtain ⟨hwhole, hheader, hbody⟩ := recordOf_whole blank hhead hfits
  have htrips := keyed_roundTrips h
  rw [sealedBytes, fit_of_length_eq (htrips.content hseals).1,
    fit_of_length_eq ((htrips.trailer hseals).trans hC.symm)]
  have htagged : ∀ {sealed}, (KeyedPolicy.tagging K M).seals key
      (recordOf (header data.length ++ data) blank) sealed →
      SealsAs K M (KeyedPolicy.tagging K M) key data
        (sealed.content ++ sealed.trailer ++ [sentFlagUnsent]) := by
    rintro _ rfl
    have htag : KeyedPolicy.tagOf K key (recordOf (header data.length ++ data) blank) =
        K.hmacSha256 key (header data.length ++ data) := congrArg (K.hmacSha256 key) hwhole
    dsimp only
    rw [htag]
    exact .tagged
  have hencrypted : ∀ {sealed}, (KeyedPolicy.encrypting K).seals key
      (recordOf (header data.length ++ data) blank) sealed →
      SealsAs K M (KeyedPolicy.encrypting K) key data
        (sealed.content ++ sealed.trailer ++ [sentFlagUnsent]) := by
    rintro _ ⟨nonce, body, tag, hnonce, hsealed, rfl⟩
    rw [hheader, hbody] at hsealed
    have hcontent := recordOf_withBody blank hhead hfits (gcmSeal_lengths hsealed).1
    dsimp only
    rw [hcontent]
    exact .encrypted hnonce hsealed
  cases h with
  | openSslHmacSha256 | mbedTlsHmacSha256 | wolfSslHmacSha256 => exact htagged hseals
  | openSslAesGcm | mbedTlsAesGcm | wolfSslAesGcm => exact hencrypted hseals

/-- Over a policy with a key, on any device whatever and with any answers of the key function, the
random source and the library: the bytes a read hands out are those of a record whose header,
message and trailer the device gave, within the limit, and which a key of the right length, given by
the key function, opens as its scheme says; and every record appended is a message within the limit
sealed under such a key. -/
theorem sealed_store_is_authentic (h : Keyed K O M policy scheme source) (Q : Platform ε)
    (hC : C.trailerSize = policy.trailerSize) {env : σ} {device : ε} {ops : List (BlockStore.Op C)}
    {answers : List BlockStore.Answer} {s s' : BlockStore (KeyedPolicy σ × ε)}
    (hrun : Run (BlockStore.Step (secured policy Q))
      (BlockStore.created (secured policy Q) C (KeyedPolicy.initial env, device)) ops answers s) :
    (∀ {maxSize bytes}, BlockStore.Step (secured policy Q) s
        (BlockStore.Op.readNextUnsent (C := C) maxSize) (.read (some bytes)) s' →
      Backed C (fun head message trailer plain => ∃ key,
        .gotKey (some key) ∈ s'.world.env.1.trace ∧ scheme.accepts key ∧
          OpensAs K M scheme key head message trailer plain) s'.world.trace maxSize bytes) ∧
    Always (AppendsSealed C fun _ data bytes => ∃ key,
      .gotKey (some key) ∈ s.world.env.1.trace ∧ scheme.accepts key ∧
        SealsAs K M scheme key data bytes) s.world.trace := by
  have hstart : Vouched scheme policy.trailerSize
      (⟨(KeyedPolicy.initial env, device), []⟩ : World (KeyedPolicy σ × ε)) :=
    ⟨fun hmem => absurd hmem List.not_mem_nil, fun hmem => absurd hmem List.not_mem_nil⟩
  have hvouched := BlockStore.guarded_run (vouched_guarded h Q C) hstart hrun
  have hmax := C.tunables.maxMessageSize_le
  constructor
  · rintro maxSize bytes ⟨fuel, hperform⟩
    have hnext := (BlockStore.keeps_perform (vouched_guarded h Q C) fuel
      (.readNextUnsent maxSize)).ensures s hvouched
    have hbacked := perform_backed (P := secured policy Q) (C := C) (s := s) fuel maxSize
    rw [Ensures, hperform] at hnext hbacked
    apply (hbacked bytes rfl).imp
    rintro head message trailer plain hhead hfits htrailer ⟨left, hopened, rfl⟩
    obtain ⟨key, opened, hkey, haccepts, hopens, rfl⟩ :=
      hnext.opened hopened (htrailer.trans hC)
    exact ⟨key, hkey, haccepts, opensAs h hhead (hfits.trans hmax) (htrailer.trans hC) hopens⟩
  · have happends := BlockStore.guarded_run (appends_guarded (secured policy Q) C) Always.nil hrun
    intro before event after htrace
    have hevent := happends before event after htrace
    have hbefore : before <+: s.world.trace := ⟨event :: after, htrace.symm⟩
    unfold AppendsSealed at hevent ⊢
    split
    · obtain ⟨data, hdata, left, trailer, hsealed, rfl⟩ := hevent
      obtain ⟨key, blank, sealed, hkey, haccepts, hseals, rfl, rfl⟩ :=
        hvouched.sealed (hbefore.subset hsealed)
      exact ⟨data, hdata, key, hkey, haccepts, sealsAs h hC (hdata.trans hmax) hseals⟩
    · trivial

theorem sealed_store_is_authentic_for_one :
    BlockStore.Step taggedStore keptTagged (BlockStore.Op.readNextUnsent (C := taggedConfig) 64)
      (.read (some [65])) readTagged ∧
    Backed taggedConfig (fun head message trailer plain => ∃ key,
      .gotKey (some key) ∈ readTagged.world.env.1.trace ∧
        (KeyedPolicy.tagging KeyedPolicy.transparent KeyedPolicy.smallestKeyRoom).accepts key ∧
        OpensAs KeyedPolicy.transparent KeyedPolicy.smallestKeyRoom
          (KeyedPolicy.tagging KeyedPolicy.transparent KeyedPolicy.smallestKeyRoom) key head message
          trailer plain) readTagged.world.trace 64 [65] := by
  have hwrite : BlockStore.Step taggedStore
      (BlockStore.created taggedStore taggedConfig (.initial (), .empty))
      (BlockStore.Op.write (C := taggedConfig) (.one 65)) (.wrote .kept) keptTagged :=
    ⟨0, Prod.ext (by decide +kernel) rfl⟩
  have hread : BlockStore.Step taggedStore keptTagged
      (BlockStore.Op.readNextUnsent (C := taggedConfig) 64) (.read (some [65])) readTagged :=
    ⟨1, Prod.ext (by decide +kernel) rfl⟩
  exact ⟨hread, (sealed_store_is_authentic .openSslHmacSha256 (ramDevice .oldest) rfl
    (.cons hwrite (.nil _))).1 hread⟩

end SolidSyslog.Security
