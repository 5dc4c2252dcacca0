import SolidSyslog.FileDevice.StoreOnFiles
import SolidSyslog.Security.KeyedRuns
import SolidSyslog.Store.Guarded

/-!
# The store over a policy with a key

What the store hands out, on whatever device, is what its policy opened of the bytes the device
gave, and what it appends is what its policy sealed. With a policy that has a key this means that
every record handed out was protected under a key the integrator gave, whoever wrote the device.
With a key that stays and a library that works the policies open what they seal, so that the store
over them is a queue.
-/

namespace SolidSyslog.Security

open Lib
open Store

variable {τ ε σ : Type} {C : Config}

/-! ## The platform with its policy -/

/-- A record as `RecordStore_AssembleRecord` and `RecordStore_OpenRecord` present it. -/
def recordOf (content trailer : Bytes) : SecurityRecord :=
  ⟨content, UInt16.ofNat content.length, UInt16.ofNat contentHeaderSize, trailer⟩

/-- A platform with a policy in the place of its own. -/
def secured (policy : SecurityPolicy τ) (Q : Platform ε) : Platform (τ × ε) where
  answer
    | .sealRecord content, env =>
      let ran := policy.sealRecord (recordOf content (List.replicate policy.trailerSize 0)) env.1
      (if ran.1.1 then some (ran.1.2.content, ran.1.2.trailer) else none, ran.2, env.2)
    | .openRecord content trailer, env =>
      let ran := policy.openRecord (recordOf content trailer) env.1
      ((ran.1.1, ran.1.2.content), ran.2, env.2)
    | .acquire block, env => let ran := Q.answer (.acquire block) env.2; (ran.1, env.1, ran.2)
    | .dispose block, env => let ran := Q.answer (.dispose block) env.2; (ran.1, env.1, ran.2)
    | .blockExists block, env =>
      let ran := Q.answer (.blockExists block) env.2; (ran.1, env.1, ran.2)
    | .read block offset count, env =>
      let ran := Q.answer (.read block offset count) env.2; (ran.1, env.1, ran.2)
    | .append block bytes, env =>
      let ran := Q.answer (.append block bytes) env.2; (ran.1, env.1, ran.2)
    | .writeAt block offset bytes, env =>
      let ran := Q.answer (.writeAt block offset bytes) env.2; (ran.1, env.1, ran.2)
    | .size block, env => let ran := Q.answer (.size block) env.2; (ran.1, env.1, ran.2)
    | .getDiscardPolicy, env => let ran := Q.answer .getDiscardPolicy env.2; (ran.1, env.1, ran.2)
    | .getCapacityThreshold, env =>
      let ran := Q.answer .getCapacityThreshold env.2; (ran.1, env.1, ran.2)
    | .onThresholdCrossed, env =>
      let ran := Q.answer .onThresholdCrossed env.2; (ran.1, env.1, ran.2)
    | .report severity category error, env =>
      let ran := Q.answer (.report severity category error) env.2; (ran.1, env.1, ran.2)

/-- The device is the platform's own. -/
theorem secured_faithful {policy : SecurityPolicy τ} {Q : Platform ε} {media : ε → Media}
    (h : Faithful Q media) : Faithful (secured policy Q) (fun env => media env.2) where
  after := by
    intro request env hcovers
    cases request with
    | sealRecord content => rfl
    | openRecord content trailer => rfl
    | acquire | dispose | blockExists | read | append | writeAt | size | getDiscardPolicy
    | getCapacityThreshold | onThresholdCrossed | report => exact h.after _ env.2 hcovers
  acquire block env := h.acquire block env.2
  blockExists block env := h.blockExists block env.2
  read hcontent hwithin := h.read hcontent hwithin
  append block bytes env hpresent := h.append block bytes env.2 hpresent
  writeAt block offset bytes env hcovers := h.writeAt block offset bytes env.2 hcovers
  size hcontent := h.size hcontent

theorem secured_disposesAlways {policy : SecurityPolicy τ} {Q : Platform ε} {media : ε → Media}
    (h : DisposesAlways Q media) : DisposesAlways (secured policy Q) (fun env => media env.2) :=
  fun block env hpresent => h block env.2 hpresent

/-! ## Bodies in place -/

/-- A stretch of a list put in the place of another of its length. -/
theorem replaced_parts {α : Type} {l m : List α} {n k : Nat}
    (h : m.length = ((l.drop n).take k).length) :
    (l.take n ++ m ++ l.drop (n + k)).take n = l.take n ∧
      ((l.take n ++ m ++ l.drop (n + k)).drop n).take k = m ∧
      (l.take n ++ m ++ l.drop (n + k)).drop (n + k) = l.drop (n + k) ∧
      (l.take n ++ m ++ l.drop (n + k)).length = l.length := by
  rw [List.length_take, List.length_drop] at h
  have hlength : (l.take n ++ m ++ l.drop (n + k)).length = l.length := by
    simp only [List.length_append, List.length_take, List.length_drop]
    omega
  by_cases hshort : l.length < n + k
  · -- the stretch reaches the end
    have hrest : l.drop (n + k) = [] := List.drop_of_length_le hshort.le
    rw [hrest, List.append_nil] at hlength ⊢
    rw [List.take_append, List.drop_append, List.length_take, List.take_take, min_self]
    have htake : m.take (n - min n l.length) = [] := by
      apply List.length_eq_zero_iff.1
      rw [List.length_take]
      omega
    have hdrop : (l.take n).drop n = [] := by simp
    have hnone : n - min n l.length = 0 ∨ m = [] := by
      by_cases hn : n ≤ l.length
      · exact .inl (by omega)
      · exact .inr (List.length_eq_zero_iff.1 (by omega))
    refine ⟨by rw [htake, List.append_nil], ?_, List.drop_of_length_le (by rw [hlength]; omega),
      hlength⟩
    rw [hdrop, List.nil_append]
    rcases hnone with hnone | rfl
    · rw [hnone, List.drop_zero, List.take_of_length_le (by omega)]
    · simp
  · have hn : (l.take n).length = n := List.length_take_of_le (by omega)
    have hm : m.length = k := by omega
    rw [List.append_assoc]
    refine ⟨List.take_left' hn, ?_, ?_, List.append_assoc .. ▸ hlength⟩
    · rw [List.drop_left' hn, List.take_left' hm]
    · rw [← List.drop_drop, List.drop_left' hn, List.drop_left' hm]

/-- A body of the same length in the place of a record's own. -/
theorem withBody_parts {content body : Bytes} (trailer : Bytes)
    (h : body.length = (recordOf content trailer).body.length) :
    let changed := ((recordOf content trailer).withBody body).content
    changed.length = content.length ∧
      changed.take contentHeaderSize = content.take contentHeaderSize ∧
      ∀ trailer', (recordOf changed trailer').header = (recordOf content trailer).header ∧
        (recordOf changed trailer').body = body ∧
        ((recordOf changed trailer').withBody (recordOf content trailer).body).content =
          content := by
  intro changed
  obtain ⟨hheader, hbody, hrest, hlength⟩ := replaced_parts h
  refine ⟨hlength, hheader, fun trailer' => ?_⟩
  have hsame : UInt16.ofNat changed.length = UInt16.ofNat content.length :=
    congrArg UInt16.ofNat hlength
  refine ⟨hheader, ?_, ?_⟩
  · unfold SecurityRecord.body recordOf
    rw [hsame]
    exact hbody
  · have hparts : ∀ l : Bytes, ∀ n k, l.take n ++ (l.drop n).take k ++ l.drop (n + k) = l := by
      intro l n k
      rw [List.append_assoc, ← List.drop_drop, List.take_append_drop, List.take_append_drop]
    have hchanged : (recordOf changed trailer').contentLength =
      (recordOf content trailer).contentLength :=
      hsame
    unfold SecurityRecord.withBody
    rw [hchanged]
    exact (congrArg₂ (fun front back => front ++ (recordOf content trailer).body ++ back) hheader
      hrest).trans (hparts content _ _)

/-! ## What is sealed is opened -/

/-- What a scheme seals keeps its length, its header and the length of the trailer, and the same key
opens it. -/
structure Scheme.RoundTrips (scheme : KeyedPolicy.Scheme) (trailerSize : Nat) : Prop where
  content : ∀ {key content trailer sealed}, scheme.seals key (recordOf content trailer) sealed →
    sealed.content.length = content.length ∧
      sealed.content.take contentHeaderSize = content.take contentHeaderSize
  trailer : ∀ {key content trailer sealed}, scheme.seals key (recordOf content trailer) sealed →
    sealed.trailer.length = trailerSize
  opens : ∀ {key content trailer sealed}, scheme.seals key (recordOf content trailer) sealed →
    ∃ opened, scheme.opens key (recordOf sealed.content sealed.trailer) opened ∧
      opened.content = content

theorem tagging_roundTrips (K : Crypto) (M : MaxHmacKeySize) :
    Scheme.RoundTrips (KeyedPolicy.tagging K M) KeyedPolicy.hmacSha256TagSize where
  content := by
    rintro key content trailer _ rfl
    exact ⟨rfl, rfl⟩
  trailer := by
    rintro key content trailer _ rfl
    exact K.hmacSha256_length ..
  opens := by
    rintro key content trailer _ rfl
    exact ⟨_, ⟨rfl, rfl⟩, rfl⟩

theorem gcmSeal_lengths {K : Crypto} {key nonce header plain body tag : Bytes}
    (h : K.gcmSeal key nonce header plain = (body, tag)) :
    body.length = plain.length ∧ tag.length = KeyedPolicy.gcmTagSize := by
  have hbody := K.gcmSeal_body_length key nonce header plain
  have htag := K.gcmSeal_tag_length key nonce header plain
  rw [h] at hbody htag
  exact ⟨hbody, htag⟩

theorem encrypting_roundTrips (K : Crypto) :
    Scheme.RoundTrips (KeyedPolicy.encrypting K) KeyedPolicy.aesGcmTrailerSize where
  content := by
    rintro key content trailer _ ⟨nonce, body, tag, -, hsealed, rfl⟩
    obtain ⟨hlength, hheader, -⟩ := withBody_parts trailer (gcmSeal_lengths hsealed).1
    exact ⟨hlength, hheader⟩
  trailer := by
    rintro key content trailer _ ⟨nonce, body, tag, hnonce, hsealed, rfl⟩
    exact List.length_append.trans (by rw [hnonce, (gcmSeal_lengths hsealed).2]; rfl)
  opens := by
    rintro key content trailer _ ⟨nonce, body, tag, hnonce, hsealed, rfl⟩
    obtain ⟨hlength, htag⟩ := gcmSeal_lengths hsealed
    obtain ⟨-, -, hparts⟩ := withBody_parts trailer hlength
    obtain ⟨hheader, hbody, hback⟩ := hparts (nonce ++ tag)
    refine ⟨_, ⟨(recordOf content trailer).body, ?_, rfl⟩, hback⟩
    have hround := K.gcmOpen_gcmSeal key nonce (recordOf content trailer).header
      (recordOf content trailer).body
    rw [hsealed] at hround
    show K.gcmOpen key ((nonce ++ tag).take _) _ _ (((nonce ++ tag).drop _).take _) = _
    rw [hheader, hbody, List.take_left' hnonce, List.drop_left' hnonce,
      List.take_of_length_le htag.le]
    exact hround

open KeyedPolicy (Keyed GivesKey LibraryWorks)

variable {K : Crypto} {O : Surroundings σ} {M : MaxHmacKeySize} {source : String}
  {policy : SecurityPolicy (KeyedPolicy σ)} {scheme : KeyedPolicy.Scheme}

theorem keyed_roundTrips (h : Keyed K O M policy scheme source) :
    Scheme.RoundTrips scheme policy.trailerSize := by
  cases h with
  | openSslHmacSha256 | mbedTlsHmacSha256 | wolfSslHmacSha256 => exact tagging_roundTrips K M
  | openSslAesGcm | mbedTlsAesGcm | wolfSslAesGcm => exact encrypting_roundTrips K

/-- With a key that stays and a library that works, a policy opens what it seals. -/
theorem secured_sealsInPlace (h : Keyed K O M policy scheme source) {key : Bytes}
    (haccepts : scheme.accepts key) (hgives : GivesKey O key) (hworks : LibraryWorks O)
    (hC : C.trailerSize = policy.trailerSize) (Q : Platform ε) :
      SealsInPlace (secured policy Q) C := by
  have hsealed : ∀ {content sealedContent trailer env},
      ((secured policy Q).answer (.sealRecord content) env).1 = some (sealedContent, trailer) →
      ∃ sealed, scheme.seals key (recordOf content (List.replicate policy.trailerSize 0)) sealed ∧
        sealed.content = sealedContent ∧ sealed.trailer = trailer := by
    intro content sealedContent trailer env hanswer
    have hseal := (h.protects.sealRecord (recordOf content (List.replicate policy.trailerSize 0))
      env.1).2
    cases hok : (policy.sealRecord (recordOf content (List.replicate policy.trailerSize 0))
      env.1).1.1 with
    | true =>
      have hmade : some (_, _) = some (sealedContent, trailer) := (if_pos hok).symm.trans hanswer
      obtain ⟨other, hfetched, -, hseals⟩ := hseal hok
      obtain rfl := hfetched.key_eq hgives
      exact ⟨_, hseals, congrArg Prod.fst (Option.some.inj hmade),
        congrArg Prod.snd (Option.some.inj hmade)⟩
    | false =>
      have hnone : none = some (sealedContent, trailer) :=
        (if_neg (hok ▸ Bool.false_ne_true)).symm.trans hanswer
      cases hnone
  have htrips := keyed_roundTrips h
  constructor
  · intro content sealedContent trailer env hanswer
    obtain ⟨sealed, hseals, rfl, rfl⟩ := hsealed hanswer
    obtain ⟨hlength, hheader⟩ := htrips.content hseals
    rw [fit_of_length_eq hlength]
    exact hheader
  · intro content sealedContent trailer env hanswer env'
    obtain ⟨sealed, hseals, rfl, rfl⟩ := hsealed hanswer
    rw [fit_of_length_eq (htrips.content hseals).1,
      fit_of_length_eq ((htrips.trailer hseals).trans hC.symm)]
    obtain ⟨opened, hopens, hcontent⟩ := htrips.opens hseals
    have hruns := h.protects.opens haccepts hgives hworks hopens env'.1
    show ((policy.openRecord (recordOf sealed.content sealed.trailer) env'.1).1.1,
      (policy.openRecord (recordOf sealed.content sealed.trailer) env'.1).1.2.content) = _
    rw [hruns]
    exact Prod.ext rfl hcontent

/-- A key function that always has its key, and a library that works. -/
def steadyKey : Surroundings Unit :=
  ⟨fun _ _ => (some (List.replicate 32 7), ()), fun count _ => (some (List.replicate count 0), ()),
    fun _ _ => (true, ()), fun bytes _ => bytes⟩

/-- Two blocks that hold one record of the greatest length each, with a trailer of 32 bytes. -/
def taggedConfig : Config :=
  ⟨⟨64, 32, 32, Tunables.small.maxMessageSize_ge, Tunables.small.maxMessageSize_le,
    Nat.le_of_ble_eq_true rfl, Tunables.small.sizeBits_ge⟩, 32, 101, 2, false, le_refl 32⟩

/-- A store in memory over the policy that makes tags. -/
def taggedStore : Platform (KeyedPolicy Unit × Media) :=
  secured (KeyedPolicy.openSslHmacSha256Policy KeyedPolicy.transparent steadyKey
    KeyedPolicy.smallestKeyRoom) (ramDevice .oldest)

/-- It has kept a record of one byte. -/
def keptTagged : BlockStore (KeyedPolicy Unit × Media) :=
  (BlockStore.perform taggedStore (C := taggedConfig) 0 (.write (.one 65))
    (BlockStore.created taggedStore taggedConfig (.initial (), .empty))).2

/-- And has handed it out. -/
def readTagged : BlockStore (KeyedPolicy Unit × Media) :=
  (BlockStore.perform taggedStore (C := taggedConfig) 1 (.readNextUnsent 64) keptTagged).2

end SolidSyslog.Security
