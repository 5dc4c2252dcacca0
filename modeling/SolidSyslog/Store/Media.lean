import SolidSyslog.Store.Rules

/-!
# The media and devices that keep it

What a block device holds is a `Media`: for each number no block, or a block's bytes. A device is
faithful when each call does to the media what it is documented to do and reads return what was
stored; only a dispose may fail. What a run left on such a device can be told from its trace
(`replay`).
-/

namespace SolidSyslog.Store

open Lib

variable {σ : Type}

/-- What a device holds. -/
abbrev Media := Sequence → Option Bytes

namespace Media

def empty : Media := fun _ => none

/-- The media after a call that worked. -/
def after (m : Media) : Request → Media
  | .acquire block => Function.update m block (some [])
  | .dispose block => Function.update m block none
  | .append block bytes => Function.update m block ((m block).map (· ++ bytes))
  | .writeAt block offset bytes =>
    Function.update m block ((m block).map (overwrite · offset bytes))
  | _ => m

/-- A call the device's contract covers: of a block that is there, within its bytes. -/
def Covers (m : Media) : Request → Prop
  | .dispose block => (m block).isSome
  | .read block offset count => ∃ content, m block = some content ∧ offset + count ≤ content.length
  | .append block _ => (m block).isSome
  | .writeAt block offset bytes =>
    ∃ content, m block = some content ∧ offset + bytes.length ≤ content.length
  | .size block => (m block).isSome
  | _ => True

end Media

/-- A call of the block device. -/
def Event.isDeviceCall : Event → Bool
  | .call (.acquire _) _ | .call (.dispose _) _ | .call (.blockExists _) _ | .call (.read _ _ _) _
  | .call (.append _ _) _ | .call (.writeAt _ _ _) _ | .call (.size _) _ => true
  | _ => false

/-- A call of the block device that failed. -/
def Event.isFailure : Event → Bool
  | .call (.acquire _) ok | .call (.dispose _) ok | .call (.append _ _) ok
  | .call (.writeAt _ _ _) ok => !ok
  | .call (.read _ _ _) bytes => bytes.isNone
  | .call (.size _) size => size.isNone
  | _ => false

/-- The media after an event. -/
def Event.effect (m : Media) : Event → Media
  | .call request answer => if Event.isFailure (.call request answer) then m else m.after request
  | _ => m

/-- The media after a trace. -/
def replay (m : Media) (trace : List Event) : Media :=
  trace.foldl Event.effect m

@[simp] theorem replay_nil (m : Media) : replay m [] = m :=
  rfl

@[simp] theorem replay_append (m : Media) (t t' : List Event) :
    replay m (t ++ t') = replay (replay m t) t' := by
  simp [replay]

@[simp] theorem replay_cons (m : Media) (e : Event) (t : List Event) :
    replay m (e :: t) = replay (e.effect m) t :=
  rfl

/-- A platform whose device keeps the media it is given. -/
structure Faithful (P : Platform σ) (media : σ → Media) : Prop where
  after : ∀ request env, (media env).Covers request →
    media (P.answer request env).2 =
      Event.effect (media env) (.call request (P.answer request env).1)
  acquire : ∀ block env, (P.answer (.acquire block) env).1 = true
  blockExists : ∀ block env, (P.answer (.blockExists block) env).1 = (media env block).isSome
  read : ∀ {block offset count env content}, media env block = some content →
    offset + count ≤ content.length →
    (P.answer (.read block offset count) env).1 = some (span content offset count)
  append : ∀ block bytes env, (media env block).isSome →
    (P.answer (.append block bytes) env).1 = true
  writeAt : ∀ block offset bytes env, (media env).Covers (.writeAt block offset bytes) →
    (P.answer (.writeAt block offset bytes) env).1 = true
  size : ∀ {block env content}, media env block = some content →
    (P.answer (.size block) env).1 = some content.length

/-- No dispose of a block that is there fails. -/
def DisposesAlways (P : Platform σ) (media : σ → Media) : Prop :=
  ∀ block env, (media env block).isSome → (P.answer (.dispose block) env).1 = true

/-! ## A device in memory -/

/-- A device in memory with the Null security policy and one answer of the discard policy. -/
def ramDevice (policy : DiscardPolicy) : Platform Media where
  answer
    | .acquire block, m => (true, m.after (.acquire block))
    | .dispose block, m => (true, m.after (.dispose block))
    | .blockExists block, m => ((m block).isSome, m)
    | .read block offset count, m => ((m block).map fun content => span content offset count, m)
    | .append block bytes, m => ((m block).isSome, m.after (.append block bytes))
    | .writeAt block offset bytes, m => ((m block).isSome, m.after (.writeAt block offset bytes))
    | .size block, m => ((m block).map List.length, m)
    | .sealRecord content, m => (some (content, []), m)
    | .openRecord content _, m => ((.opened, content), m)
    | .getDiscardPolicy, m => (policy, m)
    | .getCapacityThreshold, m => (0, m)
    | .onThresholdCrossed, m => ((), m)
    | .report _ _ _, m => ((), m)

theorem ramDevice_disposesAlways (policy : DiscardPolicy) :
    DisposesAlways (ramDevice policy) id :=
  fun _ _ _ => rfl

theorem ramDevice_faithful (policy : DiscardPolicy) : Faithful (ramDevice policy) id where
  after := by
    intro request m hcovers
    cases request with
    | read block offset count => exact (ite_self m).symm
    | append block bytes =>
      have hpresent : (m block).isSome = true := hcovers
      simp [ramDevice, Event.effect, Event.isFailure, hpresent]
    | writeAt block offset bytes =>
      obtain ⟨content, hcontent, -⟩ := hcovers
      have hpresent : (m block).isSome = true := by simp [show m block = some content from hcontent]
      simp [ramDevice, Event.effect, Event.isFailure, hpresent]
    | size block => exact (ite_self m).symm
    | _ => rfl
  acquire := fun _ _ => rfl
  blockExists := fun _ _ => rfl
  read := by
    intro block offset count m content hcontent _
    simp [ramDevice, show m block = some content from hcontent]
  append := fun _ _ _ h => h
  writeAt := by
    rintro block offset bytes m ⟨content, hcontent, -⟩
    simp [ramDevice, show m block = some content from hcontent]
  size := by
    intro block m content hcontent
    simp [ramDevice, show m block = some content from hcontent]

/-! ## Seals that failed -/

/-- A seal that failed. -/
def Event.isFailedSeal : Event → Bool
  | .call (.sealRecord _) outcome => outcome.isNone
  | _ => false

/-- The seals that failed so far. -/
def failedSeals (trace : List Event) : Nat :=
  trace.countP Event.isFailedSeal

theorem failedSeals_append (t t' : List Event) :
    failedSeals (t ++ t') = failedSeals t + failedSeals t' :=
  List.countP_append

end SolidSyslog.Store
