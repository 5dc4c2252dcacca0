import Mathlib.Data.List.Basic
import Mathlib.Tactic.Common

/-!
# Spans of a list

Memory and media are lists of cells. A read takes a span, an in-place write
overwrites one, and a layout says which cells occur at which position
(`OccursAt`). The lemmas say how the three meet: reading back what was written,
what a disjoint write leaves alone, and how an occurrence splits along `++`.
-/

namespace SolidSyslog.Lib

variable {α : Type}

/-- The `n` cells of `l` from position `a`; fewer where `l` ends first. -/
def span (l : List α) (a n : Nat) : List α :=
  (l.drop a).take n

/-- `l` with the cells from position `a` replaced by `xs`. -/
def overwrite (l : List α) (a : Nat) (xs : List α) : List α :=
  l.take a ++ xs ++ l.drop (a + xs.length)

/-- The cells `xs` lie in `l` from position `a`. -/
def OccursAt (l : List α) (a : Nat) (xs : List α) : Prop :=
  ∃ front back, l = front ++ xs ++ back ∧ front.length = a

namespace OccursAt

theorem le_length {l : List α} {a : Nat} {xs : List α} (h : OccursAt l a xs) :
    a + xs.length ≤ l.length := by
  obtain ⟨front, back, rfl, rfl⟩ := h
  simp only [List.length_append]
  omega

theorem span_eq {l : List α} {a : Nat} {xs : List α} (h : OccursAt l a xs) :
    span l a xs.length = xs := by
  obtain ⟨front, back, rfl, rfl⟩ := h
  simp [span]

theorem nil {l : List α} {a : Nat} (h : a ≤ l.length) : OccursAt l a [] :=
  ⟨l.take a, l.drop a, by simp, by simp [h]⟩

/-- An occurrence of a concatenation is an occurrence of each part. -/
theorem append_iff {l : List α} {a : Nat} {xs ys : List α} :
    OccursAt l a (xs ++ ys) ↔ OccursAt l a xs ∧ OccursAt l (a + xs.length) ys := by
  constructor
  · rintro ⟨front, back, rfl, rfl⟩
    exact ⟨⟨front, ys ++ back, by simp, rfl⟩, ⟨front ++ xs, back, by simp, by simp⟩⟩
  · rintro ⟨⟨front, back, rfl, rfl⟩, front', back', heq, hlen⟩
    have hcut : (front ++ xs) ++ back = front' ++ (ys ++ back') := by
      simpa only [List.append_assoc] using heq
    have hfront : (front ++ xs).length = front'.length := by simp [hlen]
    obtain ⟨-, hback⟩ := List.append_inj hcut hfront
    exact ⟨front, back', by simp [hback], rfl⟩

theorem left {l : List α} {a : Nat} {xs ys : List α} (h : OccursAt l a (xs ++ ys)) :
    OccursAt l a xs :=
  (append_iff.1 h).1

theorem right {l : List α} {a : Nat} {xs ys : List α} (h : OccursAt l a (xs ++ ys)) :
    OccursAt l (a + xs.length) ys :=
  (append_iff.1 h).2

/-- A longer list has every occurrence of its prefix. -/
theorem append_right {l : List α} {a : Nat} {xs : List α} (h : OccursAt l a xs) (ys : List α) :
    OccursAt (l ++ ys) a xs := by
  obtain ⟨front, back, rfl, rfl⟩ := h
  exact ⟨front, back ++ ys, by simp, rfl⟩

theorem getElem? {l : List α} {a : Nat} {xs : List α} (h : OccursAt l a xs) {i : Nat}
    (hi : i < xs.length) : l[a + i]? = xs[i]? := by
  obtain ⟨front, back, rfl, rfl⟩ := h
  simp [List.append_assoc, List.getElem?_append_right, List.getElem?_append_left hi]

end OccursAt

theorem length_span {l : List α} {a n : Nat} (h : a + n ≤ l.length) : (span l a n).length = n := by
  simp only [span, List.length_take, List.length_drop]
  omega

theorem length_overwrite {l : List α} {a : Nat} {xs : List α} (h : a + xs.length ≤ l.length) :
    (overwrite l a xs).length = l.length := by
  simp only [overwrite, List.length_append, List.length_take, List.length_drop]
  omega

theorem occursAt_overwrite {l : List α} {a : Nat} {xs : List α} (h : a ≤ l.length) :
    OccursAt (overwrite l a xs) a xs :=
  ⟨l.take a, l.drop (a + xs.length), rfl, by simp [h]⟩

/-- An overwrite leaves the cells before it. -/
theorem OccursAt.overwrite_after {l : List α} {a b : Nat} {xs ys : List α} (h : OccursAt l b ys)
    (hb : b + ys.length ≤ a) : OccursAt (overwrite l a xs) b ys := by
  have hl := h.le_length
  have hpre : OccursAt (l.take a) b ys := by
    obtain ⟨front, back, rfl, rfl⟩ := h
    refine ⟨front, back.take (a - front.length - ys.length), ?_, rfl⟩
    rw [List.take_append, List.take_of_length_le (by simp only [List.length_append]; omega)]
    congr 2
    simp only [List.length_append]
    omega
  exact (hpre.append_right xs).append_right _

/-- An overwrite leaves the cells after it. -/
theorem OccursAt.overwrite_before {l : List α} {a b : Nat} {xs ys : List α} (h : OccursAt l b ys)
    (hb : a + xs.length ≤ b) : OccursAt (overwrite l a xs) b ys := by
  have hl := h.le_length
  obtain ⟨front, back, rfl, rfl⟩ := h
  refine ⟨overwrite front a xs, back, ?_, length_overwrite hb⟩
  simp only [overwrite, List.append_assoc]
  rw [List.take_append_of_le_length (by omega), List.drop_append_of_le_length hb]

/-- Writing next to an overwrite is one longer overwrite. -/
theorem overwrite_overwrite {l : List α} {a : Nat} {xs ys : List α}
    (h : a + xs.length ≤ l.length) :
    overwrite (overwrite l a xs) (a + xs.length) ys = overwrite l a (xs ++ ys) := by
  have hfront : (l.take a ++ xs).length = a + xs.length := by simp; omega
  have htake : (overwrite l a xs).take (a + xs.length) = l.take a ++ xs := by
    rw [overwrite, ← hfront, List.take_left']
    rfl
  have hdrop : (overwrite l a xs).drop (a + xs.length + ys.length) =
      l.drop (a + (xs ++ ys).length) := by
    rw [← List.drop_drop]
    have : (overwrite l a xs).drop (a + xs.length) = l.drop (a + xs.length) := by
      rw [overwrite, ← hfront, List.drop_left', hfront]
      rfl
    rw [this, List.drop_drop, List.length_append]
    congr 1
    omega
  rw [overwrite, htake, hdrop]
  simp [overwrite]

end SolidSyslog.Lib
