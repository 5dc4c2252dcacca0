import Mathlib.Data.List.Basic
import Mathlib.Tactic.Common

/-!
# Escaped text

A text in which each special character stands behind a mark, and how it is read back up to the
character that closes it.
-/

namespace SolidSyslog.Lib.Escaping

variable {α : Type} (special : α → Bool) (mark close : α)

/-- A text with a mark before each special character. -/
def escape (text : List α) : List α :=
  text.flatMap fun a => if special a then [mark, a] else [a]

variable [DecidableEq α]

/-- An escaped text up to the close that no mark stands before, and what follows it; the flag says
whether a mark has just been read. -/
def readFrom : Bool → List α → Option (List α × List α)
  | _, [] => none
  | true, a :: rest =>
    if special a then (readFrom false rest).map fun read => (a :: read.1, read.2) else none
  | false, a :: rest =>
    if a = close then some ([], rest)
    else if a = mark then readFrom true rest
    else if special a then none
    else (readFrom false rest).map fun read => (a :: read.1, read.2)

/-- The text of a quoted value, from after its opening quote, and what follows its closing one. -/
def readQuoted (text : List α) : Option (List α × List α) :=
  readFrom special mark close false text

section Escape

variable {α : Type} {special : α → Bool} {mark : α}

@[simp] theorem escape_nil : escape special mark [] = [] :=
  rfl

theorem escape_cons (a : α) (text : List α) : escape special mark (a :: text) =
    (if special a then [mark, a] else [a]) ++ escape special mark text :=
  List.flatMap_cons

@[simp] theorem escape_append (text text' : List α) : escape special mark (text ++ text') =
    escape special mark text ++ escape special mark text' :=
  List.flatMap_append

theorem escape_of_plain {text : List α} (h : ∀ a ∈ text, special a = false) :
    escape special mark text = text := by
  induction text with
  | nil => rfl
  | cons a text ih =>
    rw [escape_cons, h a List.mem_cons_self, ih fun b hb => h b (List.mem_cons_of_mem _ hb)]
    rfl

end Escape

variable {special mark close}

/-- An escaped text is read back, whatever follows its close. -/
theorem readQuoted_escape (hmark : special mark = true) (hclose : special close = true)
    (hne : mark ≠ close) (text rest : List α) :
    readQuoted special mark close (escape special mark text ++ close :: rest) =
      some (text, rest) := by
  unfold readQuoted
  induction text with
  | nil =>
    rw [escape_nil, List.nil_append, readFrom, if_pos rfl]
  | cons a text ih =>
    rw [escape_cons]
    by_cases ha : special a = true
    · rw [if_pos ha]
      simp only [List.cons_append, List.nil_append]
      rw [readFrom, if_neg hne, if_pos rfl, readFrom, if_pos ha, ih]
      rfl
    · rw [if_neg ha]
      simp only [List.cons_append, List.nil_append]
      have hnotClose : a ≠ close := by
        rintro rfl
        exact ha hclose
      have hnotMark : a ≠ mark := by
        rintro rfl
        exact ha hmark
      rw [readFrom, if_neg hnotClose, if_neg hnotMark, if_neg ha, ih]
      rfl

end SolidSyslog.Lib.Escaping
