import Mathlib.Logic.Function.Basic
import SolidSyslog.Basic
import SolidSyslog.Lib.Span

/-!
# The file a block device is on

`SolidSyslogFileDefinition.h`: one instance over a filesystem, which holds at most one open file at
a position. What a call does where the contract leaves it open comes with the call: whether it
fails, and what a failure leaves behind. A `SeekTo` has no result, so that one that fails is not
seen by its caller.
-/

namespace SolidSyslog.FileDevice

open Lib

/-- What the file answers in the course of one call of the device, which calls each function of it
at most once beside `IsOpen`. -/
structure FileAnswers where
  opens : Bool
  /-- Whether an `Open` that fails has made the file. -/
  creates : Bool
  sizes : Bool
  /-- The position that a `SeekTo` which fails leaves. -/
  seekFailure : Option Nat
  transfers : Bool
  /-- What a `Write` that fails leaves of the file. -/
  torn : Bytes
  /-- The bytes up to a position beyond the end, once they are written over. -/
  gap : Nat → UInt8
  deletes : Bool
  /-- Whether a `Delete` that fails has removed the file. -/
  removes : Bool
  /-- Whether a call that fails leaves the instance closed. -/
  closes : Bool

/-- The filesystem, and the path and the position of the open file. -/
structure FileState (Path : Type) where
  media : Path → Option Bytes
  openOn : Option (Path × Nat)

/-- The content after a write at a position. -/
def written (content : Bytes) (position : Nat) (bytes : Bytes) (gap : Nat → UInt8) : Bytes :=
  if bytes = [] then content
  else overwrite (content ++ (List.range' content.length (position - content.length)).map gap)
    position bytes

namespace FileState

variable {Path : Type} [DecidableEq Path] (f : FileState Path) (answers : FileAnswers)

def isOpen : Bool :=
  f.openOn.isSome

def close : FileState Path :=
  { f with openOn := none }

/-- A call has failed. -/
def afterFailure : FileState Path :=
  if answers.closes then f.close else f

/-- Open for reading and writing, creating the file empty if it is absent. -/
def openPath (path : Path) : Bool × FileState Path :=
  let isMade := f.media path = none ∧ (answers.opens ∨ answers.creates)
  let media := if isMade then Function.update f.media path (some []) else f.media
  (answers.opens, ⟨media, if answers.opens then some (path, 0) else f.openOn⟩)

/-- Position for the next transfer. -/
def seekTo (offset : Nat) : FileState Path :=
  match answers.seekFailure with
  | none => { f with openOn := f.openOn.map fun (held : Path × Nat) => (held.1, offset) }
  | some position =>
    { f with openOn := f.openOn.map fun (held : Path × Nat) => (held.1, position) }.afterFailure
      answers

/-- Exactly that many bytes at the position. -/
def read (count : Nat) : Option Bytes × FileState Path :=
  match f.openOn with
  | some (path, position) =>
    let content := (f.media path).getD []
    if answers.transfers ∧ count ≤ content.length - position then
      (some (span content position count), { f with openOn := some (path, position + count) })
    else (none, f.afterFailure answers)
  | none => (none, f)

/-- Exactly these bytes at the position. -/
def write (bytes : Bytes) : Bool × FileState Path :=
  match f.openOn with
  | some (path, position) =>
    let content := (f.media path).getD []
    if answers.transfers then
      (true, ⟨Function.update f.media path (some (written content position bytes answers.gap)),
        some (path, position + bytes.length)⟩)
    else
      (false, { f with media := Function.update f.media path (some answers.torn) }.afterFailure
        answers)
  | none => (false, f)

/-- The current length. -/
def size : Option Nat × FileState Path :=
  match f.openOn with
  | some (path, _) =>
    if answers.sizes then (some ((f.media path).getD []).length, f)
      else (none, f.afterFailure answers)
  | none => (none, f)

/-- Discard all content, leaving the file open at length 0. -/
def truncate : FileState Path :=
  match f.openOn with
  | some (path, _) => { f with media := Function.update f.media path (some []) }
  | none => f

def pathExists (path : Path) : Bool :=
  (f.media path).isSome

/-- Remove a path; true also when it was already absent. -/
def delete (path : Path) : Bool × FileState Path :=
  let media :=
    if answers.deletes ∨ answers.removes then Function.update f.media path none else f.media
  (answers.deletes, { f with media := media })

end FileState

end SolidSyslog.FileDevice
