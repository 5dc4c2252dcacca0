import SolidSyslog.Store.Media
import SolidSyslog.Store.RunBoundaries
import SolidSyslog.Lib.Trace
import Mathlib.Data.List.Induction

/-!
# What a store on a faithful device amounts to

A store keeps the same thing several times over: which blocks there are, in its two ends, in its
presence map and on the device; how long they are, in its write position, in a cached size and on
the device. On a faithful device these agree, and a `View` is what is left once they do. An
operation of the sequence is then a function on views, which adds to the main trace the calls that
change the media, the notes and the reports; reads and questions leave no mark there.
-/

namespace SolidSyslog.Store

open Lib

variable {σ : Type} {P : Platform σ} {media : σ → Media} {m₀ m : Media} {t : List Event}

/-! ## The main trace -/

/-- A call that changes the media, asks for a decision or tells the integrator of a loss. -/
def Request.isMain : Request → Bool
  | .acquire _ | .dispose _ | .append _ _ | .writeAt _ _ _ | .sealRecord _ | .getDiscardPolicy =>
    true
  | .report _ category _ => category != .storeThresholdCrossed
  | _ => false

/-- An event of the main trace: such a call, or a note. -/
def Event.isMain : Event → Bool
  | .call request _ => request.isMain
  | _ => true

/-- The main trace. -/
def main (trace : List Event) : List Event :=
  trace.filter Event.isMain

@[simp] theorem main_nil : main [] = [] :=
  rfl

@[simp] theorem main_append (t t' : List Event) : main (t ++ t') = main t ++ main t' :=
  List.filter_append ..

@[simp] theorem main_cons (e : Event) (t : List Event) :
    main (e :: t) = if e.isMain then e :: main t else main t :=
  List.filter_cons

theorem effect_of_not_main {e : Event} (h : e.isMain = false) : e.effect m = m := by
  rcases e with ⟨request, answer⟩ | _ | _ | _ | _
  · cases request <;> first | exact ite_self m | rfl | cases h
  all_goals rfl

/-- The main trace is enough to tell the media. -/
theorem replay_main (m : Media) (trace : List Event) : replay m (main trace) = replay m trace := by
  induction trace generalizing m with
  | nil => rfl
  | cons e trace ih =>
    rw [main_cons, replay_cons]
    by_cases hmain : e.isMain = true
    · rw [if_pos hmain, replay_cons, ih]
    · rw [if_neg hmain, effect_of_not_main (by simpa using hmain), ih]

/-- The run of blocks the store noted last. -/
def lastRun (trace : List Event) : Option (Sequence × Sequence) :=
  trace.foldl (fun run event => match event with
    | .run oldest write => some (oldest, write)
    | _ => run) none

@[simp] theorem lastRun_concat_run (trace : List Event) (oldest write : Sequence) :
    lastRun (trace ++ [.run oldest write]) = some (oldest, write) := by
  simp [lastRun]

@[simp] theorem lastRun_concat_call (trace : List Event) (request : Request)
    (answer : request.Answer) : lastRun (trace ++ [.call request answer]) = lastRun trace := by
  simp [lastRun]

@[simp] theorem lastRun_concat_handedOut (trace : List Event) (block : Sequence)
    (start length : Nat) : lastRun (trace ++ [.handedOut block start length]) = lastRun trace := by
  simp [lastRun]

@[simp] theorem lastRun_concat_steppedPast (trace : List Event) (block : Sequence)
    (start length : Nat) :
    lastRun (trace ++ [.steppedPast block start length]) = lastRun trace := by
  simp [lastRun]

/-- The main trace is enough to tell the run. -/
theorem lastRun_main (trace : List Event) : lastRun (main trace) = lastRun trace := by
  induction trace using List.reverseRecOn with
  | nil => rfl
  | append_singleton trace e ih =>
    rcases e with ⟨request, answer⟩ | _ | _ | _ | _
    · rw [main_append, lastRun_concat_call, main_cons]
      split
      · rw [main_nil, lastRun_concat_call, ih]
      · rw [main_nil, List.append_nil, ih]
    all_goals simp_all [lastRun, Event.isMain]

/-- The last block that came or went is in the run noted last. -/
def settled (trace : List Event) : Bool :=
  match trace.getLast? with
  | some (.call (.acquire _) answer) => !answer
  | some (.call (.dispose _) answer) => !answer
  | _ => true

/-! ## Proper events -/

/-- A call the device's contract covers, of a device whose run of blocks is the one noted, that
acquires no block strictly inside the run; or a note, other than that a loop would not have
ended. -/
def Proper (m₀ : Media) (before : List Event) : Event → Prop
  | .call request answer => (replay m₀ before).Covers request ∧
      (Event.isDeviceCall (.call request answer) = true → settled (main before) = true) ∧
      ∀ block o w, request = .acquire block → lastRun before = some (o, w) → InRun o w block →
        block = o ∨ block = w
  | .endless => False
  | _ => True

/-! ## The world -/

namespace World

variable {w : World σ}

/-- The media and the main trace, with nothing improper so far. -/
structure Kept (media : σ → Media) (m₀ m : Media) (t : List Event) (w : World σ) : Prop where
  media_eq : media w.env = m
  main_eq : main w.trace = t
  replay_eq : replay m₀ t = m
  proper : Always (Proper m₀) w.trace

/-- The same, between two doings of the store. -/
structure Shows (media : σ → Media) (m₀ m : Media) (t : List Event) (w : World σ) : Prop
    extends Kept media m₀ m t w where
  settled : settled t = true

theorem Kept.replay_trace (h : w.Kept media m₀ m t) : replay m₀ w.trace = m := by
  rw [← replay_main, h.main_eq, h.replay_eq]

theorem Kept.lastRun_trace (h : w.Kept media m₀ m t) : lastRun w.trace = lastRun t := by
  rw [← lastRun_main, h.main_eq]

/-- A call. -/
theorem Shows.asked (hP : Faithful P media) (h : w.Shows media m₀ m t) (request : Request)
    (hcovers : m.Covers request)
    (hacquire : ∀ block o o', request = .acquire block → lastRun t = some (o, o') →
      InRun o o' block → block = o ∨ block = o') :
    (w.asked P request).Kept media m₀
      (Event.effect m (.call request (P.answer request w.env).1))
      (t ++ main [.call request (P.answer request w.env).1]) where
  media_eq := by
    have hcovers' : (media w.env).Covers request := by rwa [h.media_eq]
    rw [← h.media_eq]
    exact hP.after request w.env hcovers'
  main_eq := by rw [asked_trace, main_append, h.main_eq]
  replay_eq := by rw [replay_append, h.replay_eq, replay_main, replay_cons, replay_nil]
  proper := by
    apply h.proper.concat
    refine ⟨?_, fun _ => by rw [h.main_eq, h.settled], ?_⟩
    · rwa [h.replay_trace]
    · rwa [h.lastRun_trace]

/-- A call that leaves no mark in the main trace. -/
theorem Shows.quiet (hP : Faithful P media) (h : w.Shows media m₀ m t) (request : Request)
    (hquiet : request.isMain = false) (hcovers : m.Covers request) :
    (w.asked P request).Shows media m₀ m t := by
  have hasked := h.asked hP request hcovers (by rintro block o o' rfl; cases hquiet)
  have hmain : Event.isMain (.call request (P.answer request w.env).1) = false := hquiet
  rw [effect_of_not_main hmain, main_cons, if_neg (by simp [hmain]), main_nil,
    List.append_nil] at hasked
  exact ⟨hasked, h.settled⟩

/-- A call that does. -/
theorem Shows.call (hP : Faithful P media) (h : w.Shows media m₀ m t) (request : Request)
    (hmain : request.isMain = true) (hcovers : m.Covers request)
    (hacquire : ∀ block o o', request = .acquire block → lastRun t = some (o, o') →
      InRun o o' block → block = o ∨ block = o') :
    (w.asked P request).Kept media m₀
      (Event.effect m (.call request (P.answer request w.env).1))
      (t ++ [.call request (P.answer request w.env).1]) := by
  have hasked := h.asked hP request hcovers hacquire
  have hevent : Event.isMain (.call request (P.answer request w.env).1) = true := hmain
  rwa [main_cons, if_pos hevent, main_nil] at hasked

/-- A note. -/
theorem Kept.noted (h : w.Kept media m₀ m t) {event : Event}
    (hnote : ∀ before, event.isDeviceCall = false ∧ event.isMain = true ∧ Proper m₀ before event)
    (heffect : event.effect m = m) (hsettled : settled (t ++ [event]) = true) :
    (w.noted event).Shows media m₀ m (t ++ [event]) where
  media_eq := h.media_eq
  main_eq := by
    rw [noted_trace, main_append, h.main_eq, main_cons, if_pos (hnote []).2.1, main_nil]
  replay_eq := by rw [replay_append, h.replay_eq, replay_cons, heffect, replay_nil]
  proper := h.proper.concat (hnote w.trace).2.2
  settled := hsettled

theorem Kept.noted_run (h : w.Kept media m₀ m t) (o o' : Sequence) :
    (w.noted (.run o o')).Shows media m₀ m (t ++ [.run o o']) :=
  h.noted (fun _ => ⟨rfl, rfl, trivial⟩) rfl (by simp [Store.settled])

theorem Kept.noted_handedOut (h : w.Kept media m₀ m t) (block : Sequence) (start length : Nat) :
    (w.noted (.handedOut block start length)).Shows media m₀ m
      (t ++ [.handedOut block start length]) :=
  h.noted (fun _ => ⟨rfl, rfl, trivial⟩) rfl (by simp [Store.settled])

theorem Kept.noted_steppedPast (h : w.Kept media m₀ m t) (block : Sequence) (start length : Nat) :
    (w.noted (.steppedPast block start length)).Shows media m₀ m
      (t ++ [.steppedPast block start length]) :=
  h.noted (fun _ => ⟨rfl, rfl, trivial⟩) rfl (by simp [Store.settled])

end World

end SolidSyslog.Store
