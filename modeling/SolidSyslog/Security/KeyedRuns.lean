import SolidSyslog.Security.KeyedPolicy

/-!
# Runs of the policies with a key

What one call of a policy does to its latch, its key and its library, and from it what holds after
any seals and opens: what was sealed or opened was so under a key of the right length, each run of
faults was reported once, and neither a key nor a context of the library is left behind.
-/

namespace SolidSyslog.Security.KeyedPolicy

open Lib
open Store (OpenResult fit)

variable {σ α β : Type} {K : Crypto} {O : Surroundings σ} {M : MaxHmacKeySize} {source : String}
  {s t u : KeyedPolicy σ}

/-! ## What a trace says -/

/-- The events raised. -/
def raisedIn (trace : List PolicyEvent) : List ErrorEvent :=
  trace.filterMap fun event => match event with
    | .raised event => some event
    | _ => none

/-- A key in the buffer that has not been wiped. -/
def HoldsKey (trace : List PolicyEvent) : Prop :=
  Pending (fun event => ∃ key, event = .gotKey key) (· = .wipedKey) trace

/-- A context of the library that has not been freed. -/
def HoldsContext (trace : List PolicyEvent) : Prop :=
  Pending (· = .library .contextNew true) (· = .library .contextFree true) trace

/-- A call of the library. -/
def PolicyEvent.IsLibrary (event : PolicyEvent) : Prop :=
  ∃ call succeeded, event = .library call succeeded

/-- From `s` to `t` the policy only called its library, and has freed every context it made. -/
structure Called (s t : KeyedPolicy σ) : Prop where
  latch : t.faultReported = s.faultReported
  calls : Extends PolicyEvent.IsLibrary s.trace t.trace

theorem Called.refl (s : KeyedPolicy σ) : Called s s :=
  ⟨rfl, .refl _⟩

theorem Called.trans (h : Called s t) (h' : Called t u) : Called s u :=
  ⟨h'.latch.trans h.latch, h.calls.trans h'.calls⟩

theorem called_noted (call : LibraryCall) (succeeded : Bool) (env : σ) :
    Called s (s.noted (.library call succeeded) env) :=
  ⟨rfl, (Extends.refl _).concat ⟨call, succeeded, rfl⟩⟩

/-- From `s` to `t` the policy only called its library, and left no context behind. -/
structure Worked (s t : KeyedPolicy σ) : Prop extends Called s t where
  context : HoldsContext t.trace → HoldsContext s.trace

theorem not_holdsContext_freed (env : σ) :
    ¬ HoldsContext (s.noted (.library .contextFree true) env).trace := by
  unfold HoldsContext noted
  rw [Pending.concat_iff]
  rintro (hmade | ⟨-, hkept⟩)
  · cases hmade
  · exact hkept rfl

/-- A context that was made and freed. -/
theorem Worked.freed (h : Called s t) (env : σ) :
    Worked s (t.noted (.library .contextFree true) env) :=
  ⟨h.trans (called_noted ..), fun hholds => absurd hholds (not_holdsContext_freed env)⟩

theorem worked_noted {call : LibraryCall} {succeeded : Bool} (env : σ)
    (h : (call, succeeded) ≠ (.contextNew, true)) :
    Worked s (s.noted (.library call succeeded) env) := by
  refine ⟨called_noted .., fun hholds => ?_⟩
  unfold HoldsContext noted at hholds
  rw [Pending.concat_iff] at hholds
  rcases hholds with hmade | ⟨hbefore, -⟩
  · cases hmade
    exact absurd rfl h
  · exact hbefore

/-! ## The primitives -/

section Primitives

@[simp] theorem ensures_note {event : PolicyEvent} {Q : Unit → KeyedPolicy σ → Prop} :
    Ensures (note event) Q s = Q () (s.noted event s.env) :=
  rfl

@[simp] theorem ensures_rearm {Q : Unit → KeyedPolicy σ → Prop} :
    Ensures rearm Q s = Q () { s with faultReported := false } :=
  rfl

/-- No call of the library fails. -/
def LibraryWorks (O : Surroundings σ) : Prop :=
  ∀ call env, (O.library call env).1 = true

theorem library_called (call : LibraryCall) : Ensures (library O call)
    (fun ok t => Called s t ∧ (LibraryWorks O → ok = true)) s :=
  ⟨called_noted .., fun hworks => hworks _ _⟩

theorem allSucceed_called (calls : List LibraryCall) : Ensures (allSucceed O calls)
    (fun ok t => Called s t ∧ (LibraryWorks O → ok = true)) s := by
  induction calls generalizing s with
  | nil => exact ⟨.refl s, fun _ => rfl⟩
  | cons call calls ih =>
    apply Ensures.bind (library_called call)
    rintro ok t ⟨hcalled, hworks⟩
    apply Ensures.ite
    · intro _
      exact ih.mono fun _ _ h => ⟨hcalled.trans h.1, h.2⟩
    · intro hfailed
      exact ⟨hcalled, fun h => absurd (hworks h) hfailed⟩

end Primitives

/-! ## The libraries -/

/-- A way of making a tag does nothing but call its library, and the tag is the key's. -/
def MakesTags (K : Crypto) (O : Surroundings σ)
    (hmac : (key data : Bytes) → Action σ (Option Bytes)) : Prop :=
  ∀ key data s, Ensures (hmac key data) (fun tag t => Worked s t ∧
    (∀ made, tag = some made → made = K.hmacSha256 key data) ∧
    (LibraryWorks O → tag = some (K.hmacSha256 key data))) s

/-- A way of encrypting does nothing but call its library, and the outcome is the key's. -/
def Encrypts (K : Crypto) (encrypt : Encryption σ) : Prop :=
  ∀ key nonce header body s, Ensures (encrypt key nonce header body) (fun sealed t => Worked s t ∧
    (∀ made, sealed = some made → made = K.gcmSeal key nonce header body)) s

/-- What an opened body must be, and when it must be opened. -/
def Opens (O : Surroundings σ) (expected : Option Bytes) (opened : OpenResult × Bytes) : Prop :=
  (opened.1 = .opened → expected = some opened.2) ∧
    (LibraryWorks O → ∀ plain, expected = some plain → opened = (.opened, plain))

/-- A way of decrypting does nothing but call its library, and what it opens the key opens. -/
def Decrypts (K : Crypto) (O : Surroundings σ) (decrypt : Decryption σ) : Prop :=
  ∀ key nonce header body tag s, Ensures (decrypt key nonce header body tag)
    (fun opened t => Worked s t ∧ Opens O (K.gcmOpen key nonce header body tag) opened) s

/-- What is answered once the calls before it have succeeded. -/
theorem answered {made : Option α} {value : α} {ok : Bool}
    (h : made = if ok then some value else none) : ∀ a, made = some a → a = value := by
  rintro a rfl
  cases ok
  · cases h
  · exact Option.some.inj h

theorem oneCall_makesTags : MakesTags K O (fun key data => do
    return if ← library O (.hmac key data) then some (K.hmacSha256 key data) else none) := by
  intro key data s
  exact ⟨worked_noted _ (by simp), answered rfl, fun hworks => if_pos (hworks _ _)⟩

theorem openSslHmac_makesTags : MakesTags K O (openSslHmac K O) :=
  oneCall_makesTags

theorem mbedTlsHmac_makesTags : MakesTags K O (mbedTlsHmac K O) :=
  oneCall_makesTags

/-- Where a context is made first. -/
theorem inContext {work : Action σ α} {refused : α} {Q : α → KeyedPolicy σ → Prop}
    (hwork : ∀ t, Called s t → Ensures work Q t)
    (hrefused : ∀ t, Worked s t → ¬ LibraryWorks O → Q refused t) :
    Ensures (do if ← library O .contextNew then work else return refused) Q s := by
  have hmade : Ensures (library O .contextNew) (fun ok t => Called s t ∧
      (ok = false → Worked s t ∧ ¬ LibraryWorks O)) s := by
    refine ⟨called_noted .., fun hfailed => ⟨worked_noted _ ?_, fun hworks => ?_⟩⟩
    · exact fun h => Bool.false_ne_true (hfailed.symm.trans (Prod.mk.inj h).2)
    · exact Bool.false_ne_true (hfailed.symm.trans (hworks _ _))
  apply Ensures.bind hmade
  rintro ok t ⟨hcalled, hfailed⟩
  apply Ensures.ite
  · exact fun _ => hwork t hcalled
  · intro h
    exact hrefused t (hfailed (Bool.not_eq_true ok ▸ h)).1 (hfailed (Bool.not_eq_true ok ▸ h)).2

/-- `mbedtls_gcm_init` cannot fail. -/
theorem contextNew_called :
    Ensures (note (.library .contextNew true)) (fun _ t => Called s t) s :=
  called_noted ..

/-- Calls on a context that was made, and the context freed. -/
theorem onContext {calls : List LibraryCall} {value : α} (h : Called s t) :
    Ensures (do
      let ok ← allSucceed O calls
      note (.library .contextFree true)
      return if ok then some value else none) (fun made u => Worked s u ∧
        (∀ a, made = some a → a = value) ∧ (LibraryWorks O → made = some value)) t := by
  apply Ensures.bind (allSucceed_called calls)
  rintro ok u ⟨hcalled, hworks⟩
  exact ⟨.freed (h.trans hcalled) _, answered rfl, fun h => if_pos (hworks h)⟩

theorem wolfSslHmac_makesTags : MakesTags K O (wolfSslHmac K O) := by
  intro key data s
  apply inContext
  · exact fun _ hcalled => onContext hcalled
  · exact fun t hworked hfails => ⟨hworked, nofun, fun hworks => absurd hworks hfails⟩

theorem openSslGcmEncrypt_encrypts : Encrypts K (openSslGcmEncrypt K O) := by
  intro key nonce header body s
  apply inContext
  · exact fun _ hcalled => (onContext hcalled).mono fun _ _ h => ⟨h.1, h.2.1⟩
  · exact fun t hworked _ => ⟨hworked, nofun⟩

theorem mbedTlsGcmEncrypt_encrypts : Encrypts K (mbedTlsGcmEncrypt K O) := by
  intro key nonce header body s
  apply Ensures.bind contextNew_called
  intro _ t hcalled
  exact (onContext hcalled).mono fun _ _ h => ⟨h.1, h.2.1⟩

theorem wolfSslGcmEncrypt_encrypts : Encrypts K (wolfSslGcmEncrypt K O) := by
  intro key nonce header body s
  apply inContext
  · exact fun _ hcalled => (onContext hcalled).mono fun _ _ h => ⟨h.1, h.2.1⟩
  · exact fun t hworked _ => ⟨hworked, nofun⟩

theorem opens_of_failure {expected : Option Bytes} {opened : OpenResult × Bytes}
    (hopened : opened.1 ≠ .opened) (hfails : ¬ LibraryWorks O) : Opens O expected opened :=
  ⟨fun h => absurd h hopened, fun hworks => absurd hworks hfails⟩

theorem verdict_opens (expected : Option Bytes) (body : Bytes) :
    Ensures (verdict O body expected) (fun opened t => t = s ∧ Opens O expected opened) s := by
  cases expected with
  | some plain =>
    refine ⟨rfl, fun _ => rfl, ?_⟩
    rintro _ made ⟨rfl⟩
    rfl
  | none => exact ⟨rfl, nofun, nofun⟩

theorem openSslFinal_opens {setUp : Bool} (hsetUp : LibraryWorks O → setUp = true)
    (key nonce header body tag : Bytes) :
    Ensures (openSslFinal K O setUp key nonce header body tag) (fun opened t =>
      Called s t ∧ Opens O (K.gcmOpen key nonce header body tag) opened) s := by
  apply Ensures.ite
  · intro _
    apply Ensures.bind (library_called _)
    rintro final t ⟨hcalled, hworks⟩
    cases final with
    | true => exact (verdict_opens _ body).mono fun _ _ h => ⟨h.1 ▸ hcalled, h.2⟩
    | false =>
      exact ⟨hcalled, opens_of_failure nofun fun h => Bool.false_ne_true (hworks h)⟩
  · intro hfailed
    exact ⟨.refl s, opens_of_failure nofun fun hworks => hfailed (hsetUp hworks)⟩

theorem openSslGcmDecrypt_decrypts : Decrypts K O (openSslGcmDecrypt K O) := by
  intro key nonce header body tag s
  apply inContext
  · intro t hmade
    apply Ensures.bind (allSucceed_called _)
    rintro setUp u ⟨hcalled, hsetUp⟩
    apply Ensures.bind (openSslFinal_opens hsetUp key nonce header body tag)
    rintro opened v ⟨hfinal, hopens⟩
    exact ⟨.freed ((hmade.trans hcalled).trans hfinal) _, hopens⟩
  · exact fun t hworked hfails => ⟨hworked, opens_of_failure nofun hfails⟩

theorem authDecrypt_opens (key nonce header body tag : Bytes) :
    Ensures (authDecrypt K O key nonce header body tag) (fun opened t =>
      Called s t ∧ Opens O (K.gcmOpen key nonce header body tag) opened) s := by
  apply Ensures.bind (library_called _)
  rintro keyed t ⟨hcalled, hkeyed⟩
  apply Ensures.ite
  · intro _
    apply Ensures.bind (library_called _)
    rintro succeeded u ⟨hcalled', hsucceeded⟩
    apply Ensures.ite
    · intro _
      exact (verdict_opens _ body).mono fun _ _ h => ⟨h.1 ▸ hcalled.trans hcalled', h.2⟩
    · intro hfailed
      exact ⟨hcalled.trans hcalled', opens_of_failure nofun fun h => hfailed (hsucceeded h)⟩
  · intro hfailed
    exact ⟨hcalled, opens_of_failure nofun fun h => hfailed (hkeyed h)⟩

/-- The body decrypted on a context that was made, and the context freed. -/
theorem decryptOnContext (key nonce header body tag : Bytes) (h : Called s t) :
    Ensures (do
      let result ← authDecrypt K O key nonce header body tag
      note (.library .contextFree true)
      return result) (fun opened u =>
        Worked s u ∧ Opens O (K.gcmOpen key nonce header body tag) opened) t := by
  apply Ensures.bind (authDecrypt_opens ..)
  rintro opened u ⟨hcalled, hopens⟩
  exact ⟨.freed (h.trans hcalled) _, hopens⟩

theorem mbedTlsGcmDecrypt_decrypts : Decrypts K O (mbedTlsGcmDecrypt K O) := by
  intro key nonce header body tag s
  apply Ensures.bind contextNew_called
  intro _ t hcalled
  exact decryptOnContext key nonce header body tag hcalled

theorem wolfSslGcmDecrypt_decrypts : Decrypts K O (wolfSslGcmDecrypt K O) := by
  intro key nonce header body tag s
  apply inContext
  · exact fun _ hcalled => decryptOnContext key nonce header body tag hcalled
  · exact fun t hworked hfails => ⟨hworked, opens_of_failure nofun hfails⟩

/-! ## One call -/

/-- From `s` to `t` no event was raised and no context was left behind. -/
structure Quiet (s t : KeyedPolicy σ) : Prop where
  latch : t.faultReported = s.faultReported
  grows : s.trace <+: t.trace
  raised : raisedIn t.trace = raisedIn s.trace
  context : HoldsContext t.trace → HoldsContext s.trace

theorem Quiet.refl (s : KeyedPolicy σ) : Quiet s s :=
  ⟨rfl, List.prefix_rfl, rfl, id⟩

theorem Quiet.trans (h : Quiet s t) (h' : Quiet t u) : Quiet s u :=
  ⟨h'.latch.trans h.latch, h.grows.trans h'.grows, h'.raised.trans h.raised,
    fun hholds => h.context (h'.context hholds)⟩

theorem holdsContext_noted {event : PolicyEvent}
    (h : ∀ call succeeded, event ≠ .library call succeeded)
    (env : σ) : HoldsContext (s.noted event env).trace ↔ HoldsContext s.trace := by
  unfold HoldsContext noted
  rw [Pending.concat_iff]
  constructor
  · rintro (hmade | ⟨hbefore, -⟩)
    · exact absurd hmade (h _ _)
    · exact hbefore
  · exact fun hbefore => .inr ⟨hbefore, h _ _⟩

theorem raisedIn_noted {event : PolicyEvent} (h : ∀ raised, event ≠ .raised raised) (env : σ) :
    raisedIn (s.noted event env).trace = raisedIn s.trace := by
  unfold raisedIn noted
  rw [List.filterMap_append]
  cases event with
  | raised event => exact absurd rfl (h event)
  | gotKey | wipedKey | drew | library => exact List.append_nil _

theorem quiet_noted {event : PolicyEvent} (hraised : ∀ raised, event ≠ .raised raised)
    (hlibrary : ∀ call succeeded, event ≠ .library call succeeded) (env : σ) :
    Quiet s (s.noted event env) :=
  ⟨rfl, List.prefix_append _ _, raisedIn_noted hraised env, (holdsContext_noted hlibrary env).1⟩

theorem Worked.quiet (h : Worked s t) : Quiet s t where
  latch := h.latch
  grows := by
    obtain ⟨new, hnew, -⟩ := h.calls
    exact ⟨new, hnew.symm⟩
  raised := by
    obtain ⟨new, hnew, hcalls⟩ := h.calls
    have hnone : raisedIn new = [] := by
      apply List.filterMap_eq_nil_iff.2
      intro event hevent
      obtain ⟨call, succeeded, rfl⟩ := hcalls event hevent
      rfl
    rw [hnew, raisedIn, List.filterMap_append]
    exact (congrArg _ hnone).trans (List.append_nil _)
  context := h.context

/-- From `s` to `t` a policy came to a verdict, or to a fault that it raised if it was the first. -/
structure Judged (source : String) (s t : KeyedPolicy σ) (verdict : Bool) : Prop where
  latch : t.faultReported = !verdict
  grows : s.trace <+: t.trace
  raised : ∃ events, raisedIn t.trace = raisedIn s.trace ++ events ∧
    events.length = (if verdict ∨ s.faultReported then 0 else 1) ∧
    ∀ event ∈ events, event.source = source ∧ event.severity = .error
  context : HoldsContext t.trace → HoldsContext s.trace

theorem Quiet.rearmed (h : Quiet s t) : Judged source s { t with faultReported := false } true where
  latch := rfl
  grows := h.grows
  raised := ⟨[], by rw [List.append_nil]; exact h.raised, by simp, List.forall_mem_nil _⟩
  context := h.context

theorem Quiet.reported (h : Quiet s t) (category : Category) (detail : Int) :
    Ensures (reportFault source category detail) (fun _ u => Judged source s u false) t := by
  unfold reportFault
  rw [ensures_bind, ensures_get]
  apply Ensures.ite
  · intro hfirst
    have hlatch : s.faultReported = false := by
      rw [← h.latch]
      exact Bool.eq_false_iff.2 fun htrue => by simp [htrue] at hfirst
    let event : ErrorEvent := ⟨.error, category, false, source, detail, 0⟩
    refine ⟨rfl, h.grows.trans (List.prefix_append _ _), ⟨[event], ?_, by simp [hlatch], ?_⟩, ?_⟩
    · show raisedIn (t.trace ++ [.raised event]) = _
      rw [raisedIn, List.filterMap_append]
      exact congrArg (· ++ [event]) h.raised
    · rintro _ (_ | ⟨_, ⟨⟩⟩)
      exact ⟨rfl, rfl⟩
    · exact fun hholds => h.context ((holdsContext_noted (by simp) t.env).1 hholds)
  · intro hlater
    have hlatch : t.faultReported = true := by
      simpa using hlater
    exact ⟨hlatch, h.grows, ⟨[], by rw [List.append_nil]; exact h.raised,
      by simp [← h.latch, hlatch], List.forall_mem_nil _⟩, h.context⟩

/-- Between calls neither a key nor a context is in hand. -/
structure AtRest (s : KeyedPolicy σ) : Prop where
  noKey : ¬ HoldsKey s.trace
  noContext : ¬ HoldsContext s.trace

theorem atRest_initial (env : σ) : AtRest (initial env) :=
  ⟨Pending.not_nil, Pending.not_nil⟩

/-- What a call of a policy does to it. -/
structure Handled (source : String) (s t : KeyedPolicy σ) (verdict : Bool) : Prop
    extends Judged source s t verdict where
  atRest : AtRest s → AtRest t

theorem Judged.wiped {verdict : Bool} (h : Judged source s t verdict) :
    Handled source s (t.noted .wipedKey t.env) verdict where
  latch := h.latch
  grows := h.grows.trans (List.prefix_append _ _)
  raised := by
    rw [raisedIn_noted (by simp)]
    exact h.raised
  context hholds := h.context ((holdsContext_noted (by simp) t.env).1 hholds)
  atRest hs := by
    refine ⟨?_, fun hholds =>
      hs.noContext (h.context ((holdsContext_noted (by simp) t.env).1 hholds))⟩
    unfold HoldsKey noted
    rw [Pending.concat_iff]
    rintro (⟨key, hmade⟩ | ⟨-, hkept⟩)
    · cases hmade
    · exact hkept rfl

/-- The first thing a call of a policy did was to be given the key. -/
structure Fetched (O : Surroundings σ) (s t : KeyedPolicy σ) (key : Bytes) : Prop where
  given : ∃ capacity, (O.getKey capacity s.env).1 = some key
  first : s.trace ++ [.gotKey (some key)] <+: t.trace

theorem Fetched.trans {key : Bytes} (h : Fetched O s t key) (h' : t.trace <+: u.trace) :
    Fetched O s u key :=
  ⟨h.given, h.first.trans h'⟩

/-- The key function gives one key whenever it is asked. -/
def GivesKey (O : Surroundings σ) (key : Bytes) : Prop :=
  ∀ capacity env, (O.getKey capacity env).1 = some key

theorem Fetched.key_eq {key other : Bytes} (h : Fetched O s t other) (hgives : GivesKey O key) :
    key = other := by
  obtain ⟨capacity, hgiven⟩ := h.given
  exact Option.some.inj ((hgives capacity s.env).symm.trans hgiven)

/-! ## Protection under a key -/

/-- What a policy does to a record under a key, and which keys it takes. -/
structure Scheme where
  accepts : (key : Bytes) → Prop
  seals : (key : Bytes) → (record sealed : SecurityRecord) → Prop
  opens : (key : Bytes) → (record opened : SecurityRecord) → Prop

/-- The tag of a record's content. -/
def tagOf (K : Crypto) (key : Bytes) (record : SecurityRecord) : Bytes :=
  K.hmacSha256 key (record.content.take record.contentLength.toNat)

/-- The tag of the content is the trailer. -/
def tagging (K : Crypto) (M : MaxHmacKeySize) : Scheme where
  accepts key := hmacSha256MinKeySize ≤ key.length ∧ key.length ≤ M.size
  seals key record sealed := sealed = { record with trailer := tagOf K key record }
  opens key record opened := record.trailer = tagOf K key record ∧ opened = record

/-- The body is encrypted under a nonce, and the trailer is the nonce and the tag of header and
body. -/
def encrypting (K : Crypto) : Scheme where
  accepts key := key.length = aes256KeySize
  seals key record sealed := ∃ nonce body tag, nonce.length = gcmNonceSize ∧
    K.gcmSeal key nonce record.header record.body = (body, tag) ∧
    sealed = { record.withBody body with trailer := nonce ++ tag }
  opens key record opened := ∃ plain,
    K.gcmOpen key (record.trailer.take gcmNonceSize) record.header record.body
      ((record.trailer.drop gcmNonceSize).take gcmTagSize) = some plain ∧
    opened = record.withBody plain

/-- A policy protects records as the scheme says, under the key it was given for the record, and
with a key and a library that work it opens what the key opens. -/
structure Protects (O : Surroundings σ) (policy : SecurityPolicy (KeyedPolicy σ)) (scheme : Scheme)
    (source : String) : Prop where
  sealRecord : ∀ record s, Ensures (policy.sealRecord record) (fun out t =>
    Handled source s t out.1 ∧
      (out.1 = true → ∃ key, Fetched O s t key ∧ scheme.accepts key ∧
        scheme.seals key record out.2)) s
  openRecord : ∀ record s, Ensures (policy.openRecord record) (fun out t =>
    Handled source s t (out.1 != .couldNotRun) ∧
      (record.trailer.length = policy.trailerSize → out.1 = .opened →
        ∃ key, Fetched O s t key ∧ scheme.accepts key ∧ scheme.opens key record out.2)) s
  opens : ∀ {key record opened}, scheme.accepts key → GivesKey O key → LibraryWorks O →
    scheme.opens key record opened → ∀ s, (policy.openRecord record s).1 = (.opened, opened)

/-! ## The policies -/

/-- A key that was fetched, or a fault that was raised. -/
structure KeyFetched (O : Surroundings σ) (accepts : Bytes → Prop) (source : String)
    (s : KeyedPolicy σ) (got : Option Bytes) (t : KeyedPolicy σ) : Prop where
  key : ∀ {key}, got = some key → Quiet s t ∧ Fetched O s t key ∧ accepts key
  fault : got = none → Judged source s t false
  given : ∀ {key}, accepts key → GivesKey O key → got = some key

theorem gotKey_quiet (key : Option Bytes) (env : σ) : Quiet s (s.noted (.gotKey key) env) :=
  quiet_noted (by simp) (by simp) env

theorem ensures_getKey {capacity : Nat} {f : Option Bytes → Action σ α}
    {Q : α → KeyedPolicy σ → Prop}
    (h : ∀ got env, got = (O.getKey capacity s.env).1 →
      Ensures (f got) Q (s.noted (.gotKey got) env)) : Ensures (getKey O capacity >>= f) Q s :=
  h _ _ rfl

theorem keyFetched_of_fault {accepts : Bytes → Prop} {got : Option Bytes} {capacity : Nat}
    (hgot : got = (O.getKey capacity s.env).1) (hrefused : ∀ key, got = some key → ¬ accepts key)
    (h : Judged source s t false) : KeyFetched O accepts source s none t where
  key := nofun
  fault _ := h
  given haccepts hgives := absurd haccepts (hrefused _ (hgot.trans (hgives _ _)))

theorem keyLengthIsValid_iff {key : Bytes} :
    keyLengthIsValid M key.length = true ↔ (tagging K M).accepts key := by
  unfold keyLengthIsValid tagging
  rw [Bool.and_eq_true, decide_eq_true_iff, decide_eq_true_iff]

theorem fetchHmacKey_fetches :
    Ensures (fetchHmacKey O M source) (KeyFetched O (tagging K M).accepts source s) s := by
  apply ensures_getKey
  intro got env hgot
  have hquiet := gotKey_quiet (s := s) got env
  cases got with
  | some key =>
    apply Ensures.ite
    · intro hvalid
      refine ⟨?_, nofun, fun _ hgives => hgot.trans (hgives _ _)⟩
      rintro _ ⟨rfl⟩
      exact ⟨hquiet, ⟨⟨_, hgot.symm⟩, List.prefix_rfl⟩, keyLengthIsValid_iff.1 hvalid⟩
    · intro hshort
      apply Ensures.bind (hquiet.reported ..)
      intro _ t hjudged
      refine keyFetched_of_fault hgot ?_ hjudged
      rintro _ ⟨rfl⟩ haccepts
      exact hshort (keyLengthIsValid_iff.2 haccepts)
  | none =>
    apply Ensures.bind (hquiet.reported ..)
    intro _ t hjudged
    exact keyFetched_of_fault hgot nofun hjudged

theorem computeTag_tags {hmac : (key data : Bytes) → Action σ (Option Bytes)}
    (h : MakesTags K O hmac) (data : Bytes) (failureCategory : Category) :
    Ensures (computeTag O M source hmac data failureCategory) (fun tag t =>
      Handled source s t tag.isSome ∧
      (∀ made, tag = some made →
        ∃ key, Fetched O s t key ∧ (tagging K M).accepts key ∧ made = K.hmacSha256 key data) ∧
      (∀ key, (tagging K M).accepts key → GivesKey O key → LibraryWorks O →
        tag = some (K.hmacSha256 key data))) s := by
  apply Ensures.bind (fetchHmacKey_fetches (K := K))
  intro got t hgot
  have htag : Ensures (tagUnderKey source hmac data failureCategory got) (fun tag u =>
      Judged source s u tag.isSome ∧
      (∀ made, tag = some made →
        ∃ key, Fetched O s u key ∧ (tagging K M).accepts key ∧ made = K.hmacSha256 key data) ∧
      (∀ key, (tagging K M).accepts key → GivesKey O key → LibraryWorks O →
        tag = some (K.hmacSha256 key data))) t := by
    cases got with
    | none =>
      exact ⟨hgot.fault rfl, nofun, fun _ haccepts hgives _ => nomatch hgot.given haccepts hgives⟩
    | some key =>
      obtain ⟨hquiet, hfetched, haccepts⟩ := hgot.key rfl
      apply Ensures.bind (h key data t)
      rintro tag u ⟨hworked, hmade, hworks⟩
      cases tag with
      | some tag =>
        refine ⟨(hquiet.trans hworked.quiet).rearmed, ?_, ?_⟩
        · rintro made ⟨rfl⟩
          exact ⟨key, hfetched.trans hworked.quiet.grows, haccepts, hmade _ rfl⟩
        · intro other hother hgives hlibrary
          obtain rfl := Option.some.inj (hgot.given hother hgives)
          exact hworks hlibrary
      | none =>
        apply Ensures.bind ((hquiet.trans hworked.quiet).reported ..)
        intro _ v hjudged
        exact ⟨hjudged, nofun, fun _ _ _ hlibrary => by cases hworks hlibrary⟩
  apply Ensures.bind htag
  rintro tag u ⟨hjudged, hmade, hgives⟩
  refine ⟨hjudged.wiped, fun made h => ?_, hgives⟩
  obtain ⟨key, hfetched, haccepts⟩ := hmade made h
  exact ⟨key, hfetched.trans (List.prefix_append _ _), haccepts⟩

/-- The loop has found no difference just where there is none. -/
theorem foldl_difference_eq_zero (difference : Nat → UInt8) (start : UInt8) (indices : List Nat) :
    indices.foldl (fun found index => found ||| difference index) start = 0 ↔
      start = 0 ∧ ∀ index ∈ indices, difference index = 0 := by
  induction indices generalizing start with
  | nil => simp
  | cons index indices ih =>
    rw [List.foldl_cons, ih, UInt8.or_eq_zero_iff, List.forall_mem_cons, and_assoc]

theorem constantTimeEquals_iff {a b : Bytes} {length : Nat} (ha : a.length = length)
    (hb : b.length = length) : constantTimeEquals a b length = true ↔ a = b := by
  unfold constantTimeEquals
  rw [beq_iff_eq, foldl_difference_eq_zero (fun index => a.getD index 0 ^^^ b.getD index 0)]
  simp only [true_and, List.mem_range, UInt8.xor_eq_zero_iff]
  constructor
  · intro hsame
    apply List.ext_getElem (ha.trans hb.symm)
    intro i hi hi'
    have hbyte := hsame i (ha ▸ hi)
    rwa [List.getD_eq_getElem?_getD, List.getD_eq_getElem?_getD, List.getElem?_eq_getElem hi,
      List.getElem?_eq_getElem hi'] at hbyte
  · rintro rfl _ _
    rfl

theorem tagVerdict_ran (expected trailer : Bytes) :
    (tagVerdict expected trailer != .couldNotRun) = true := by
  unfold tagVerdict
  split <;> rfl

theorem tagVerdict_opened {expected trailer : Bytes}
    (hexpected : expected.length = hmacSha256TagSize)
    (htrailer : trailer.length = hmacSha256TagSize) :
    tagVerdict expected trailer = .opened ↔ expected = trailer := by
  rw [← constantTimeEquals_iff hexpected htrailer]
  unfold tagVerdict
  split
  · next h => exact ⟨fun _ => h, fun _ => rfl⟩
  · next h => exact ⟨nofun, fun h' => absurd h' h⟩

theorem hmacSha256Policy_protects {hmac : (key data : Bytes) → Action σ (Option Bytes)}
    (h : MakesTags K O hmac) :
    Protects O (hmacSha256Policy O M source hmac) (tagging K M) source where
  sealRecord record s := by
    apply Ensures.bind (computeTag_tags h _ _)
    rintro tag t ⟨hhandled, hmade, -⟩
    cases tag with
    | some tag =>
      refine ⟨hhandled, fun _ => ?_⟩
      obtain ⟨key, hfetched, haccepts, rfl⟩ := hmade tag rfl
      exact ⟨key, hfetched, haccepts, rfl⟩
    | none => exact ⟨hhandled, nofun⟩
  openRecord record s := by
    apply Ensures.bind (computeTag_tags h _ _)
    rintro tag t ⟨hhandled, hmade, -⟩
    cases tag with
    | some tag =>
      obtain ⟨key, hfetched, haccepts, htag⟩ := hmade tag rfl
      refine ⟨(tagVerdict_ran tag record.trailer).symm ▸ hhandled, fun htrailer hopened => ?_⟩
      have hlength : tag.length = hmacSha256TagSize := htag ▸ K.hmacSha256_length ..
      have hequal := (tagVerdict_opened hlength htrailer).1 hopened
      exact ⟨key, hfetched, haccepts, hequal.symm.trans htag, rfl⟩
    | none => exact ⟨hhandled, nofun⟩
  opens := by
    rintro key record opened haccepts hgives hworks ⟨htrailer, hopened⟩ s
    have hruns : Ensures ((hmacSha256Policy O M source hmac).openRecord record)
        (fun out _ => out = (.opened, opened)) s := by
      apply Ensures.bind (computeTag_tags h _ _)
      rintro tag t ⟨-, -, hgiven⟩
      obtain rfl := hgiven key haccepts hgives hworks
      have hlength : (tagOf K key record).length = hmacSha256TagSize := K.hmacSha256_length ..
      have hverdict : tagVerdict (tagOf K key record) record.trailer = .opened :=
        (tagVerdict_opened hlength (htrailer ▸ hlength)).2 htrailer.symm
      exact Prod.ext hverdict hopened.symm
    exact hruns

theorem fetchAesKey_fetches :
    Ensures (fetchAesKey O source) (KeyFetched O (encrypting K).accepts source s) s := by
  apply ensures_getKey
  intro got env hgot
  have hquiet := gotKey_quiet (s := s) got env
  cases hfilter : got.filter fun key => key.length == aes256KeySize with
  | some key =>
    rw [ensures_pure]
    obtain ⟨hkey, hlength⟩ := Option.filter_eq_some_iff.1 hfilter
    refine ⟨?_, nofun, fun _ hgives => hkey.symm.trans (hgot.trans (hgives _ _))⟩
    rintro _ ⟨rfl⟩
    exact ⟨hquiet, ⟨⟨_, hgot.symm.trans hkey⟩, hkey ▸ List.prefix_rfl⟩, beq_iff_eq.1 hlength⟩
  | none =>
    apply Ensures.bind (hquiet.reported ..)
    intro _ t hjudged
    refine keyFetched_of_fault hgot ?_ hjudged
    intro key hkey haccepts
    exact Option.filter_eq_none_iff.1 hfilter key hkey (beq_iff_eq.2 haccepts)

theorem drew_quiet (nonce : Option Bytes) (env : σ) : Quiet s (s.noted (.drew nonce) env) :=
  quiet_noted (by simp) (by simp) env

/-- Where a nonce is drawn, it is as long as was asked for. -/
theorem ensures_random {count : Nat} {f : Option Bytes → Action σ α} {Q : α → KeyedPolicy σ → Prop}
    (h : ∀ nonce env, (∀ drawn, nonce = some drawn → drawn.length = count) →
      Ensures (f nonce) Q (s.noted (.drew nonce) env)) : Ensures (random O count >>= f) Q s := by
  apply h
  intro drawn hdrawn
  obtain ⟨bytes, -, rfl⟩ := Option.map_eq_some_iff.1 hdrawn
  exact Store.length_fit count bytes

theorem sealUnderKey_seals {encrypt : Encryption σ} (hencrypt : Encrypts K encrypt)
    (record : SecurityRecord) {got : Option Bytes}
    (hgot : KeyFetched O (encrypting K).accepts source s got t) :
    Ensures (sealUnderKey O source encrypt record got) (fun out u =>
      Judged source s u out.1 ∧ (out.1 = true → ∃ key, Fetched O s u key ∧
        (encrypting K).accepts key ∧ (encrypting K).seals key record out.2)) t := by
  cases got with
  | none => exact ⟨hgot.fault rfl, nofun⟩
  | some key =>
    obtain ⟨hquiet, hfetched, haccepts⟩ := hgot.key rfl
    apply ensures_random
    intro nonce env hnonce
    have hdrew := hquiet.trans (drew_quiet nonce env)
    cases nonce with
    | none =>
      apply Ensures.bind (hdrew.reported ..)
      exact fun _ u hjudged => ⟨hjudged, nofun⟩
    | some nonce =>
      apply Ensures.bind (hencrypt key nonce record.header record.body _)
      rintro made u ⟨hworked, hmade⟩
      cases made with
      | none =>
        apply Ensures.bind ((hdrew.trans hworked.quiet).reported ..)
        exact fun _ v hjudged => ⟨hjudged, nofun⟩
      | some made =>
        obtain ⟨body, tag⟩ := made
        refine ⟨(hdrew.trans hworked.quiet).rearmed, fun _ => ⟨key, ?_, haccepts, ?_⟩⟩
        · exact (hfetched.trans (List.prefix_append _ _)).trans hworked.quiet.grows
        · exact ⟨nonce, body, tag, hnonce nonce rfl, (hmade _ rfl).symm, rfl⟩

theorem Quiet.settled (h : Quiet s t) (result : OpenResult) :
    Ensures (settleOpen source result)
      (fun _ u => Judged source s u (result != .couldNotRun) ∧ t.trace <+: u.trace) t := by
  apply Ensures.ite
  · rintro rfl
    exact (h.reported ..).and ((Quiet.refl t).reported _ _).grows
  · intro hran
    rw [bne_iff_ne.2 hran]
    exact ⟨h.rearmed, List.prefix_rfl⟩

theorem openUnderKey_opens {decrypt : Decryption σ} (hdecrypt : Decrypts K O decrypt)
    (record : SecurityRecord) {got : Option Bytes}
    (hgot : KeyFetched O (encrypting K).accepts source s got t) :
    Ensures (openUnderKey source decrypt record got) (fun out u =>
      Judged source s u (out.1 != .couldNotRun) ∧
      (out.1 = .opened → ∃ key, Fetched O s u key ∧ (encrypting K).accepts key ∧
        (encrypting K).opens key record out.2) ∧
      (∀ {key opened}, (encrypting K).accepts key → GivesKey O key → LibraryWorks O →
        (encrypting K).opens key record opened → out = (.opened, opened))) t := by
  cases got with
  | none => exact ⟨hgot.fault rfl, nofun, fun haccepts hgives => nomatch hgot.given haccepts hgives⟩
  | some key =>
    obtain ⟨hquiet, hfetched, haccepts⟩ := hgot.key rfl
    apply Ensures.bind (hdecrypt key _ record.header record.body _ t)
    rintro ⟨result, body⟩ u ⟨hworked, hopened, hworks⟩
    have hopens : ∀ {key' opened}, (encrypting K).accepts key' → GivesKey O key' → LibraryWorks O →
        (encrypting K).opens key' record opened → (result, record.withBody body) =
          (.opened, opened) := by
      rintro key' opened haccepts' hgives hlibrary ⟨plain, hplain, rfl⟩
      obtain rfl := Option.some.inj (hgot.given haccepts' hgives)
      cases hworks hlibrary plain hplain
      rfl
    have hquiet' := hquiet.trans hworked.quiet
    apply Ensures.bind (hquiet'.settled result)
    rintro - v ⟨hjudged, hgrows⟩
    refine ⟨hjudged, fun h => ⟨key, ?_, haccepts, body, ?_, rfl⟩, hopens⟩
    · exact (hfetched.trans hworked.quiet.grows).trans hgrows
    · exact hopened h

theorem aesGcmPolicy_protects {encrypt : Encryption σ} {decrypt : Decryption σ}
    (hencrypt : Encrypts K encrypt) (hdecrypt : Decrypts K O decrypt) :
    Protects O (aesGcmPolicy O source encrypt decrypt) (encrypting K) source where
  sealRecord record s := by
    apply Ensures.bind (fetchAesKey_fetches (K := K))
    intro got t hgot
    apply Ensures.bind (sealUnderKey_seals hencrypt record hgot)
    rintro out u ⟨hjudged, hout⟩
    refine ⟨hjudged.wiped, fun h => ?_⟩
    obtain ⟨key, hfetched, hseals⟩ := hout h
    exact ⟨key, hfetched.trans (List.prefix_append _ _), hseals⟩
  openRecord record s := by
    apply Ensures.bind (fetchAesKey_fetches (K := K))
    intro got t hgot
    apply Ensures.bind (openUnderKey_opens hdecrypt record hgot)
    rintro out u ⟨hjudged, hout, -⟩
    refine ⟨hjudged.wiped, fun _ h => ?_⟩
    obtain ⟨key, hfetched, hopens⟩ := hout h
    exact ⟨key, hfetched.trans (List.prefix_append _ _), hopens⟩
  opens := by
    intro key record opened haccepts hgives hworks hopened s
    have hruns : Ensures ((aesGcmPolicy O source encrypt decrypt).openRecord record)
        (fun out _ => out = (.opened, opened)) s := by
      apply Ensures.bind (fetchAesKey_fetches (K := K))
      intro got t hgot
      apply Ensures.bind (openUnderKey_opens hdecrypt record hgot)
      rintro out u ⟨-, -, hopens⟩
      exact hopens haccepts hgives hworks hopened
    exact hruns

/-- The policies with a key, with what each does under it and the name it reports under. -/
inductive Keyed (K : Crypto) (O : Surroundings σ) (M : MaxHmacKeySize) :
    SecurityPolicy (KeyedPolicy σ) → Scheme → String → Prop
  | openSslHmacSha256 : Keyed K O M (openSslHmacSha256Policy K O M) (tagging K M)
      "OpenSslHmacSha256Policy"
  | mbedTlsHmacSha256 : Keyed K O M (mbedTlsHmacSha256Policy K O M) (tagging K M)
      "MbedTlsHmacSha256Policy"
  | wolfSslHmacSha256 : Keyed K O M (wolfSslHmacSha256Policy K O M) (tagging K M)
      "WolfSslHmacSha256Policy"
  | openSslAesGcm : Keyed K O M (openSslAesGcmPolicy K O) (encrypting K) "OpenSslAesGcmPolicy"
  | mbedTlsAesGcm : Keyed K O M (mbedTlsAesGcmPolicy K O) (encrypting K) "MbedTlsAesGcmPolicy"
  | wolfSslAesGcm : Keyed K O M (wolfSslAesGcmPolicy K O) (encrypting K) "WolfSslAesGcmPolicy"

variable {policy : SecurityPolicy (KeyedPolicy σ)} {scheme : Scheme}

theorem Keyed.protects (h : Keyed K O M policy scheme source) :
    Protects O policy scheme source := by
  cases h with
  | openSslHmacSha256 => exact hmacSha256Policy_protects openSslHmac_makesTags
  | mbedTlsHmacSha256 => exact hmacSha256Policy_protects mbedTlsHmac_makesTags
  | wolfSslHmacSha256 => exact hmacSha256Policy_protects wolfSslHmac_makesTags
  | openSslAesGcm =>
    exact aesGcmPolicy_protects openSslGcmEncrypt_encrypts openSslGcmDecrypt_decrypts
  | mbedTlsAesGcm =>
    exact aesGcmPolicy_protects mbedTlsGcmEncrypt_encrypts mbedTlsGcmDecrypt_decrypts
  | wolfSslAesGcm =>
    exact aesGcmPolicy_protects wolfSslGcmEncrypt_encrypts wolfSslGcmDecrypt_decrypts

/-! ## Runs -/

/-- A call of a policy. -/
inductive Op where
  | sealRecord (record : SecurityRecord)
  | openRecord (record : SecurityRecord)

/-- A call of a policy with its answer, the record it left, and what the policy did in it. -/
inductive Served where
  | sealed (record : SecurityRecord) (ok : Bool) (left : SecurityRecord) (did : List PolicyEvent)
  | opened (record : SecurityRecord) (result : OpenResult) (left : SecurityRecord)
    (did : List PolicyEvent)

namespace Served

def did : Served → List PolicyEvent
  | .sealed _ _ _ did | .opened _ _ _ did => did

/-- A seal that succeeded, or an open that could run. -/
def verdict : Served → Bool
  | .sealed _ ok _ _ => ok
  | .opened _ result _ _ => result != .couldNotRun

/-- What is seen of the latch. -/
def observed (served : Served) : List Observation :=
  (if served.verdict then .clear else .fault) :: (raisedIn served.did).map fun _ => .report

/-- What was sealed or opened was so under a key the policy takes and was given for the record. -/
def Genuine (trailerSize : Nat) (scheme : Scheme) : Served → Prop
  | .sealed record ok left did => ok = true →
      ∃ key, [.gotKey (some key)] <+: did ∧ scheme.accepts key ∧ scheme.seals key record left
  | .opened record result left did => record.trailer.length = trailerSize → result = .opened →
      ∃ key, [.gotKey (some key)] <+: did ∧ scheme.accepts key ∧ scheme.opens key record left

end Served

/-- One call of a policy. -/
inductive Serves (policy : SecurityPolicy (KeyedPolicy σ)) :
    KeyedPolicy σ → Op → Served → KeyedPolicy σ → Prop
  | sealed {s t : KeyedPolicy σ} (record left : SecurityRecord) (ok : Bool) (did : List PolicyEvent)
      (runs : policy.sealRecord record s = ((ok, left), t)) (trace : t.trace = s.trace ++ did) :
      Serves policy s (.sealRecord record) (.sealed record ok left did) t
  | opened {s t : KeyedPolicy σ} (record left : SecurityRecord) (result : OpenResult)
      (did : List PolicyEvent) (runs : policy.openRecord record s = ((result, left), t))
      (trace : t.trace = s.trace ++ did) :
      Serves policy s (.openRecord record) (.opened record result left did) t

theorem Fetched.did {key : Bytes} {did : List PolicyEvent} (hfetched : Fetched O s t key)
    (h : t.trace = s.trace ++ did) : [.gotKey (some key)] <+: did := by
  have hfirst := hfetched.first
  rwa [h, List.prefix_append_right_inj] at hfirst

/-- One call: it is genuine, it moves the latch with a report for each run of faults, and it leaves
nothing in hand. -/
theorem Serves.step (h : Keyed K O M policy scheme source) {op : Op} {served : Served}
    (hstep : Serves policy s op served t) : served.Genuine policy.trailerSize scheme ∧
      LatchRun s.faultReported served.observed t.faultReported ∧ (AtRest s → AtRest t) ∧
      ∀ event ∈ raisedIn served.did, event.source = source ∧ event.severity = .error := by
  have hhandled : Handled source s t served.verdict ∧ t.trace = s.trace ++ served.did := by
    cases hstep with
    | sealed record left ok did runs trace =>
      have hseal := (h.protects.sealRecord record s).1
      rw [runs] at hseal
      exact ⟨hseal, trace⟩
    | opened record left result did runs trace =>
      have hopen := (h.protects.openRecord record s).1
      rw [runs] at hopen
      exact ⟨hopen, trace⟩
  obtain ⟨hhandled, htrace⟩ := hhandled
  obtain ⟨events, hevents, hlength, hnamed⟩ := hhandled.raised
  have hdid : raisedIn served.did = events := by
    rw [htrace, raisedIn, List.filterMap_append] at hevents
    exact List.append_cancel_left hevents
  refine ⟨?_, ?_, hhandled.atRest, hdid ▸ hnamed⟩
  · cases hstep with
    | sealed record left ok did runs trace =>
      intro hok
      have hseal := (h.protects.sealRecord record s).2
      rw [runs] at hseal
      obtain ⟨key, hfetched, hkey⟩ := hseal hok
      exact ⟨key, hfetched.did trace, hkey⟩
    | opened record left result did runs trace =>
      intro htrailer hopened
      have hopen := (h.protects.openRecord record s).2
      rw [runs] at hopen
      obtain ⟨key, hfetched, hkey⟩ := hopen htrailer hopened
      exact ⟨key, hfetched.did trace, hkey⟩
  · rw [Served.observed, hdid, hhandled.latch]
    cases hverdict : served.verdict with
    | true =>
      rw [hverdict] at hlength
      rw [List.length_eq_zero_iff.1 hlength]
      exact .clear _
    | false =>
      rw [hverdict] at hlength
      cases hlatch : s.faultReported with
      | true =>
        rw [hlatch] at hlength
        rw [List.length_eq_zero_iff.1 hlength]
        exact .fault true
      | false =>
        rw [hlatch] at hlength
        obtain ⟨event, rfl⟩ := List.length_eq_one_iff.1 hlength
        exact .fault false

/-- Whatever the key function, the random source and the library answer, after any seals and opens
what was sealed or opened was so under a key of the right length that the policy was given for the
record, each run of faults was reported once, under the policy's name, and neither a key nor a
context is left behind. -/
theorem keyed_policies_account (h : Keyed K O M policy scheme source) {env : σ} {ops : List Op}
    {served : List Served} (hrun : Run (Serves policy) (initial env) ops served s) :
    (∀ call ∈ served, call.Genuine policy.trailerSize scheme ∧
      ∀ event ∈ raisedIn call.did, event.source = source ∧ event.severity = .error) ∧
    RunsReported false (served.flatMap Served.observed) ∧
    (served.flatMap Served.observed).count .report =
      runCount false (served.flatMap Served.observed) ∧
    AtRest s := by
  let I (s : KeyedPolicy σ) (past : List Served) : Prop :=
    (∀ call ∈ past, call.Genuine policy.trailerSize scheme ∧
      ∀ event ∈ raisedIn call.did, event.source = source ∧ event.severity = .error) ∧
    LatchRun false (past.flatMap Served.observed) s.faultReported ∧ AtRest s
  have hstart : I (initial env) [] := ⟨List.forall_mem_nil _, .nil false, atRest_initial env⟩
  have hend : I s ([] ++ served) := by
    apply hrun.history hstart
    rintro s op call t past ⟨hpast, hlatch, hrest⟩ hstep
    obtain ⟨hgenuine, hcall, hkept, hnamed⟩ := hstep.step h
    refine ⟨?_, ?_, hkept hrest⟩
    · intro call' hcall'
      rcases List.mem_append.1 hcall' with hold | hnew
      · exact hpast call' hold
      · rw [List.mem_singleton.1 hnew]
        exact ⟨hgenuine, hnamed⟩
    · rw [List.flatMap_append, List.flatMap_singleton]
      exact hlatch.append hcall
  rw [List.nil_append] at hend
  exact ⟨hend.1, hend.2.1.reported, count_report_eq_runCount hend.2.1.reported, hend.2.2⟩

/-- Functions with the lengths and the round trip of the libraries', and nothing secret about
them. -/
def transparent : Crypto where
  hmacSha256 _ _ := List.replicate 32 0
  gcmSeal _ _ _ body := (body, List.replicate 16 0)
  gcmOpen _ _ _ body tag := if tag = List.replicate 16 0 then some body else none
  hmacSha256_length _ _ := List.length_replicate
  gcmSeal_body_length _ _ _ _ := rfl
  gcmSeal_tag_length _ _ _ _ := List.length_replicate
  gcmOpen_length h := by
    split at h
    · exact congrArg List.length (Option.some.inj h).symm
    · cases h
  gcmOpen_gcmSeal _ _ _ _ := if_pos rfl

/-- A key function that gives each of the keys in turn, and a library that works. -/
def keysInTurn : Surroundings (List (Option Bytes)) :=
  ⟨fun _ keys => (keys.head?.join, keys.tail), fun count keys =>
    (some (List.replicate count 0), keys),
    fun _ keys => (true, keys), fun bytes _ => bytes⟩

def smallestKeyRoom : MaxHmacKeySize :=
  ⟨32, Nat.le_refl 32⟩

/-- Two calls without a key, one with a key, and one more without: two runs of faults. -/
theorem keyed_policies_account_for_four :
    let record : SecurityRecord := ⟨[0xA5], 1, 0, []⟩
    let key : Bytes := List.replicate 32 7
    ∃ served s, Run (Serves (openSslHmacSha256Policy transparent keysInTurn smallestKeyRoom))
      (initial [none, none, some key, none])
      [.openRecord record, .sealRecord record, .sealRecord record, .openRecord record] served s ∧
      (served.flatMap Served.observed).count .report = 2 ∧ AtRest s := by
  intro record key
  let fault : ErrorEvent :=
    ⟨.error, .securityPolicyKeyUnavailable, false, "OpenSslHmacSha256Policy", 3, 0⟩
  let first : List PolicyEvent := [.gotKey none, .raised fault, .wipedKey]
  let second : List PolicyEvent := [.gotKey none, .wipedKey]
  let third : List PolicyEvent := [.gotKey (some key), .library (.hmac key [0xA5]) true, .wipedKey]
  let s₁ : KeyedPolicy (List (Option Bytes)) := ⟨true, [none, some key, none], first⟩
  let s₂ : KeyedPolicy (List (Option Bytes)) := ⟨true, [some key, none], first ++ second⟩
  let s₃ : KeyedPolicy (List (Option Bytes)) := ⟨false, [none], first ++ second ++ third⟩
  let s₄ : KeyedPolicy (List (Option Bytes)) := ⟨true, [], first ++ second ++ third ++ first⟩
  let sealed : SecurityRecord := { record with trailer := List.replicate 32 0 }
  let policy : SecurityPolicy (KeyedPolicy (List (Option Bytes))) :=
    openSslHmacSha256Policy transparent keysInTurn smallestKeyRoom
  have hfirst : Serves policy (initial [none, none, some key, none]) (.openRecord record)
      (.opened record .couldNotRun record first) s₁ := .opened _ _ _ _ rfl rfl
  have hsecond : Serves policy s₁ (.sealRecord record) (.sealed record false record second) s₂ :=
    .sealed _ _ _ _ rfl rfl
  have hthird : Serves policy s₂ (.sealRecord record) (.sealed record true sealed third) s₃ :=
    .sealed _ _ _ _ rfl rfl
  have hfourth : Serves policy s₃ (.openRecord record)
    (.opened record .couldNotRun record first) s₄ :=
    .opened _ _ _ _ rfl rfl
  have hrun := Run.cons hfirst (.cons hsecond (.cons hthird (.cons hfourth (.nil s₄))))
  have haccount := keyed_policies_account .openSslHmacSha256 hrun
  exact ⟨_, _, hrun, rfl, haccount.2.2.2⟩

end SolidSyslog.Security.KeyedPolicy
