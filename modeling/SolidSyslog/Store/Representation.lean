import SolidSyslog.Store.RunInvariant
import SolidSyslog.Lib.Run

/-!
# The block sequence and the media

Six pieces of the sequence say the same as the media, in every state of every run on a device that
never fails and has a number free at the start; no call of the device is of a block that is not
there, and none acquires a block inside the run. From an empty device the run keeps to its ceilings.
-/

namespace SolidSyslog.Store

open Lib

variable {σ : Type} {P : Platform σ} {C : Config} {media : σ → Media} {m₀ : Media}

namespace BlockStore

variable {s s' : BlockStore σ} {ops : List (Op C)} {answers : List Answer}

/-! ## Runs -/

/-- What is stable, with its cursor and its room, holds of every state of a run. -/
theorem run_sees (hP : Faithful P media) (hdispose : DisposesAlways P media)
    {I : StoreView → Prop} (hI : StoreView.Stable P C I) (hsound : ∀ V, I V → V.Sound)
    (hroom : ∀ V, I V → V.view.HasRoom) (hrun : Run (Step P) s ops answers s')
    (h : ∃ V, I V ∧ s.Sees media m₀ V) : ∃ V, I V ∧ s'.Sees media m₀ V := by
  apply hrun.invariant (D := fun _ => True) (I := fun s => ∃ V, I V ∧ s.Sees media m₀ V)
    (fun _ _ => trivial) h
  rintro s op answer s' - ⟨V, hV, hs⟩ hstep
  rcases step_sees hP hs (hsound V hV) (fun _ _ _ _ _ => hroom V hV) hstep with
    ⟨V', hperformed, hs'⟩ | hjammed
  · exact ⟨V', hI.performed hV hperformed, hs'⟩
  · exact absurd hjammed (not_jammed hdispose)

theorem created_sees (hP : Faithful P media) (hdispose : DisposesAlways P media) (env : σ) :
    ∃ V, StoreView.Created C (media env) V ∧ (created P C env).Sees media (media env) V := by
  rcases create_sees (C := C) hP env with hcreated | hjammed
  · exact hcreated
  · exact absurd hjammed (not_jammed hdispose)

/-! ## Agreement with the media -/

/-- What the sequence keeps is what the media has. -/
structure Represents (media : σ → Media) (s : BlockStore σ) : Prop where
  readSequence : s.seq.readSequence = s.seq.oldestSequence
  oldest_present : (media s.world.env s.seq.oldestSequence).isSome = true
  write_present : (media s.world.env s.seq.writeSequence).isSome = true
  blockPresent : ∀ x, InRun s.seq.oldestSequence s.seq.writeSequence x →
    s.seq.blockPresent x = (media s.world.env x).isSome
  writePosition : (media s.world.env s.seq.writeSequence).map List.length =
    some s.seq.writePosition
  readBlockSize : s.seq.readBlockSizeKnown = true → s.seq.readSequence ≠ s.seq.writeSequence →
    (media s.world.env s.seq.readSequence).map List.length = some s.seq.readBlockSize

/-- No acquire of a block strictly inside the run noted last, no read, append, write in place or
question of its size for a block that is absent, and no loop without an end. -/
def CallsPresent (m₀ : Media) (before : List Event) : Event → Prop
  | .call (.acquire block) _ => ∀ o w, lastRun before = some (o, w) → InRun o w block →
      block = o ∨ block = w
  | .call (.read block _ _) _ | .call (.append block _) _ | .call (.writeAt block _ _) _
  | .call (.size block) _ => (replay m₀ before block).isSome = true
  | .endless => False
  | _ => True

theorem callsPresent_of_proper {before : List Event} {event : Event} (h : Proper m₀ before event) :
    CallsPresent m₀ before event := by
  rcases event with ⟨request, answer⟩ | _ | _ | _ | _
  · obtain ⟨hcovers, -, hacquire⟩ := h
    cases request with
    | acquire block => exact fun o w hrun hin => hacquire block o w rfl hrun hin
    | read block offset count =>
      obtain ⟨content, hcontent, -⟩ := hcovers
      exact Option.isSome_iff_exists.2 ⟨content, hcontent⟩
    | append block bytes => exact hcovers
    | writeAt block offset bytes =>
      obtain ⟨content, hcontent, -⟩ := hcovers
      exact Option.isSome_iff_exists.2 ⟨content, hcontent⟩
    | size block => exact hcovers
    | _ => exact trivial
  · exact trivial
  · exact trivial
  · exact trivial
  · exact h

theorem Sees.represents {V : StoreView} (h : s.Sees media m₀ V) : s.Represents media := by
  have hmedia : media s.world.env = V.view.media := h.world.media_eq
  have ha := h.agrees
  constructor
  · rw [ha.readSequence, ha.oldestSequence]
  · rw [hmedia, ha.oldestSequence, h.seq.wellFormed.oldest_present]
  · rw [hmedia, ha.writeSequence, h.seq.wellFormed.write_present]
  · rw [hmedia, ha.oldestSequence, ha.writeSequence]
    exact ha.blockPresent
  · rw [hmedia, ha.writeSequence, ha.writePosition]
  · intro hknown _
    rw [hmedia, ha.readSequence, (ha.readBlockSize hknown).2]

/-- What is in use within the ceilings is no more than the capacity, where that can be said. -/
theorem usedBytes_le {b : BlockSequence} (hcount : b.blockCount ≤ C.maxBlocks)
    (hposition : b.writePosition ≤ C.maxBlockSize)
    (hfits : C.maxBlocks * C.maxBlockSize < 2 ^ C.tunables.sizeBits) :
    b.usedBytes C ≤ BlockSequence.totalBytes C := by
  have hused : (b.blockCount - 1) * C.maxBlockSize + b.writePosition ≤
      C.maxBlocks * C.maxBlockSize := by
    obtain ⟨spare, hspare⟩ := Nat.exists_eq_add_of_le hcount
    have hone : b.blockCount = b.blockCount - 1 + 1 := rfl
    rw [hspare, hone, Nat.add_mul, Nat.add_mul]
    simp only [Nat.add_sub_cancel, Nat.one_mul]
    omega
  unfold BlockSequence.usedBytes BlockSequence.totalBytes
  split
  · exact le_refl _
  · rw [Nat.mod_eq_of_lt (hused.trans_lt hfits), Nat.mod_eq_of_lt hfits]
    exact hused

/-- A message that fills a block of `Config.small`. -/
def fullOf (byte : UInt8) : Message .small :=
  ⟨List.replicate 64 byte, List.length_replicate.le⟩

/-- Three records that fill a block each, where there is room for two; those left are handed out and
marked. -/
def crowded : List (Op .small) :=
  [.write (fullOf 1), .write (fullOf 2), .readNextUnsent 64, .write (fullOf 3), .markSent,
    .readNextUnsent 64, .markSent, .readNextUnsent 64, .markSent, .readNextUnsent 64]

/-- The third record takes the place of the one handed out, so the mark after it marks nothing. -/
def crowdedAnswers : List Answer :=
  [.wrote .kept, .wrote .kept, .read (some (fullOf 1).bytes), .wrote .kept, .marked,
    .read (some (fullOf 2).bytes), .marked, .read (some (fullOf 3).bytes), .marked, .read none]

/-- The smallest tunables of a 32-bit target with blocks of 2 GiB. -/
def hugeBlocks : Config :=
  ⟨.small, 0, 2 ^ 31, 2, false, Config.small.trailerFits⟩

end BlockStore

end SolidSyslog.Store
