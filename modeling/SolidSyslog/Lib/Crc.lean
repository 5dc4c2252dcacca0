import Mathlib.Data.List.Basic
import Mathlib.Logic.Function.Iterate
import Mathlib.Tactic.Common

/-!
# Cyclic redundancy checks

The remainder of a bit string, most significant bit first, by a polynomial with a constant term. A
shift of the register is linear and loses nothing, so a string of no more bits than the register has
leaves it empty only if all of them are zero.
-/

namespace SolidSyslog.Lib.Crc

variable {w : Nat} (poly : BitVec w)

/-- One shift of the register. -/
def shift (r : BitVec w) : BitVec w :=
  if r.msb then (r <<< 1) ^^^ poly else r <<< 1

/-- A bit at the top of a register. -/
def top (b : Bool) : BitVec w :=
  if b then BitVec.intMin w else 0#w

/-- A bit string run through the register. -/
def feed (r : BitVec w) (bits : List Bool) : BitVec w :=
  bits.foldl (fun r b => shift poly (r ^^^ top b)) r

/-- A bit string at the top of a register. -/
def placed : List Bool → BitVec w
  | [] => 0#w
  | b :: bits => top b ^^^ (placed bits >>> 1)

variable {poly} {r r' : BitVec w} {b : Bool} {bits bits' : List Bool}

/-! ## The shift -/

theorem shift_xor (r r' : BitVec w) : shift poly (r ^^^ r') = shift poly r ^^^ shift poly r' := by
  have hcancel : ∀ a b p : BitVec w, a ^^^ b = a ^^^ p ^^^ (b ^^^ p) := by
    intro a b p
    rw [BitVec.xor_assoc, ← BitVec.xor_assoc p b p, BitVec.xor_comm p b, BitVec.xor_assoc b p p,
      BitVec.xor_self, BitVec.xor_zero]
  unfold shift
  rw [BitVec.msb_xor, BitVec.shiftLeft_xor_distrib]
  cases r.msb <;> cases r'.msb
  · rfl
  · exact BitVec.xor_assoc _ _ _
  · simp only [Bool.bne_false, if_true, Bool.false_eq_true, if_false]
    rw [BitVec.xor_assoc, BitVec.xor_comm _ poly, ← BitVec.xor_assoc]
  · exact hcancel _ _ _

@[simp] theorem shift_zero : shift poly 0#w = 0#w := by
  simp [shift]

/-- A shift loses nothing: what the top bit takes away comes back in the lowest. -/
theorem shift_eq_zero (hpoly : poly.getLsbD 0 = true) (h : shift poly r = 0#w) : r = 0#w := by
  unfold shift at h
  cases hmsb : r.msb with
  | true =>
    rw [hmsb, if_pos rfl] at h
    have hlow := congrArg (fun x => x.getLsbD 0) h
    simp [hpoly] at hlow
  | false =>
    rw [hmsb, if_neg Bool.false_ne_true] at h
    apply BitVec.eq_of_getLsbD_eq
    intro i hi
    rw [BitVec.getLsbD_zero]
    by_cases hlast : i + 1 < w
    · have hnext := congrArg (fun x => x.getLsbD (i + 1)) h
      rw [BitVec.getLsbD_eq_getElem hi]
      simpa [hlast] using hnext
    · rw [BitVec.msb_eq_getLsbD_last] at hmsb
      rwa [show i = w - 1 by omega]

theorem iterate_shift_eq_zero (hpoly : poly.getLsbD 0 = true) {n : Nat}
    (h : (shift poly)^[n] r = 0#w) : r = 0#w := by
  induction n generalizing r with
  | zero => exact h
  | succ n ih =>
    rw [Function.iterate_succ_apply] at h
    exact shift_eq_zero hpoly (ih h)

theorem feed_append (r : BitVec w) (bits bits' : List Bool) :
    feed poly r (bits ++ bits') = feed poly (feed poly r bits) bits' :=
  List.foldl_append

/-- A string with errors leaves what the string leaves, with what the errors leave. -/
theorem feed_xor (hlength : bits.length = bits'.length) :
    feed poly (r ^^^ r') (List.zipWith xor bits bits') =
      feed poly r bits ^^^ feed poly r' bits' := by
  have htop : ∀ b b' : Bool, (top (xor b b') : BitVec w) = top b ^^^ top b' := by
    intro b b'
    cases b <;> cases b' <;> simp [top]
  have hswap : ∀ a b c d : BitVec w, a ^^^ b ^^^ (c ^^^ d) = a ^^^ c ^^^ (b ^^^ d) := by
    intro a b c d
    rw [BitVec.xor_assoc, ← BitVec.xor_assoc b c d, BitVec.xor_comm b c, BitVec.xor_assoc c b d,
      ← BitVec.xor_assoc]
  induction bits generalizing bits' r r' with
  | nil =>
    obtain rfl := List.length_eq_zero_iff.1 hlength.symm
    rfl
  | cons b bits ih =>
    cases bits' with
    | nil => cases hlength
    | cons b' bits' =>
      rw [List.zipWith_cons_cons]
      change feed poly (shift poly (r ^^^ r' ^^^ top (xor b b'))) (List.zipWith xor bits bits') =
        feed poly (shift poly (r ^^^ top b)) bits ^^^ feed poly (shift poly (r' ^^^ top b')) bits'
      rw [htop, hswap, shift_xor, ih (Nat.succ.inj hlength)]

/-! ## Strings that fit the register -/

/-- A string of zeros shifts the register. -/
theorem feed_zeros (n : Nat) (r : BitVec w) :
    feed poly r (List.replicate n false) = (shift poly)^[n] r := by
  induction n generalizing r with
  | zero => rfl
  | succ n ih =>
    rw [List.replicate_succ, Function.iterate_succ_apply, ← ih]
    change feed poly (shift poly (r ^^^ top false)) _ = _
    rw [top, if_neg Bool.false_ne_true, BitVec.xor_zero]

theorem placed_append (bits bits' : List Bool) :
    (placed (bits ++ bits') : BitVec w) = placed bits ^^^ (placed bits' >>> bits.length) := by
  induction bits with
  | nil => simp [placed]
  | cons b bits ih =>
    rw [List.cons_append, placed, placed, ih, BitVec.ushiftRight_xor_distrib, ← BitVec.xor_assoc,
      ← BitVec.shiftRight_add]
    rfl

/-- The bits below a string at the top of a register are free. -/
theorem placed_low {i : Nat} (hi : i + bits.length < w) :
    (placed bits : BitVec w).getLsbD i = false := by
  induction bits generalizing i with
  | nil => simp [placed]
  | cons b bits ih =>
    rw [List.length_cons] at hi
    have htop : (top b : BitVec w).getLsbD i = false := by
      cases b
      · simp [top]
      · simp only [top, if_true, BitVec.getLsbD_intMin, decide_eq_false_iff_not]
        omega
    rw [placed, BitVec.getLsbD_xor, htop, BitVec.getLsbD_ushiftRight, ih (by omega)]
    rfl

theorem shift_placed (h : bits.length < w) :
    shift poly (placed bits >>> 1) = placed bits := by
  have hmsb : (placed bits >>> 1 : BitVec w).msb = false := by
    rw [BitVec.msb_ushiftRight]
    simp
  have hlow : (placed bits : BitVec w).getLsbD 0 = false := placed_low (by omega)
  rw [shift, hmsb, if_neg Bool.false_ne_true]
  apply BitVec.eq_of_getLsbD_eq
  intro i hi
  cases i with
  | zero => simp [hlow]
  | succ i =>
    simp [hi, Nat.add_comm 1 i]

/-- A string no longer than the register is the same as its bits in place, shifted through. -/
theorem feed_eq_placed (h : bits.length ≤ w) (r : BitVec w) :
    feed poly r bits = (shift poly)^[bits.length] (r ^^^ placed bits) := by
  induction bits generalizing r with
  | nil => simp [feed, placed]
  | cons b bits ih =>
    rw [List.length_cons] at h
    change feed poly (shift poly (r ^^^ top b)) bits = _
    rw [ih (by omega), List.length_cons, Function.iterate_succ_apply, placed, ← BitVec.xor_assoc,
      shift_xor (r ^^^ top b), shift_placed (by omega)]

theorem placed_eq_zero (hle : bits.length ≤ w) (h : (placed bits : BitVec w) = 0#w) :
    ∀ b ∈ bits, b = false := by
  induction bits with
  | nil => exact nofun
  | cons b bits ih =>
    rw [List.length_cons] at hle
    have hb : b = false := by
      have hmsb := congrArg BitVec.msb h
      rw [placed, BitVec.msb_xor, BitVec.msb_ushiftRight] at hmsb
      cases b
      · rfl
      · simp [top, BitVec.msb_intMin] at hmsb
        omega
    rw [placed, hb, top, if_neg Bool.false_ne_true, BitVec.zero_xor] at h
    refine List.forall_mem_cons.2 ⟨hb, ih (by omega) ?_⟩
    rw [← @shift_placed w 0#w bits (by omega), h, shift_zero]

/-- A window of bits no longer than the register, with zeros on both sides, leaves the register
empty only if it is all zeros. -/
theorem feed_window (hpoly : poly.getLsbD 0 = true) (hle : bits.length ≤ w) {before after : Nat}
    (h : feed poly 0#w (List.replicate before false ++ bits ++ List.replicate after false) = 0#w) :
    ∀ b ∈ bits, b = false := by
  have hzeros : (shift poly)^[before] 0#w = 0#w := Function.iterate_fixed shift_zero before
  rw [feed_append, feed_append, feed_zeros, feed_zeros, hzeros, feed_eq_placed hle] at h
  have hplaced := iterate_shift_eq_zero hpoly (iterate_shift_eq_zero hpoly h)
  rw [BitVec.zero_xor] at hplaced
  exact placed_eq_zero hle hplaced

/-- A string behind one it fills the register with: it is what that left just if nothing is left. -/
theorem feed_eq_zero_iff (hpoly : poly.getLsbD 0 = true) (hle : bits.length ≤ w) (r : BitVec w) :
    feed poly r bits = 0#w ↔ r = placed bits := by
  rw [feed_eq_placed hle]
  constructor
  · intro h
    exact BitVec.xor_eq_zero_iff.1 (iterate_shift_eq_zero hpoly h)
  · rintro rfl
    rw [BitVec.xor_self]
    exact Function.iterate_fixed shift_zero _

end SolidSyslog.Lib.Crc
