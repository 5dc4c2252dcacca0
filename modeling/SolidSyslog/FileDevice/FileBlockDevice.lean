import SolidSyslog.FileDevice.File

/-!
# The block device on a file

`SolidSyslogFileBlockDevice.c`: each block is a file, and one handle remembers the block whose file
is open. The names of the blocks' files are given. Uses of the handle, and what befalls it, are
listed.
-/

namespace SolidSyslog.FileDevice

/-- `struct OpenHandle`, beside its file. -/
structure OpenHandle where
  blockIndex : Nat
  isOpen : Bool
  deriving DecidableEq

/-- The handle is opened on a block, used for one, on the path that is open then, or its block is
disposed of. -/
inductive HandleEvent (Path : Type) where
  | opened (block : Nat)
  | used (block : Nat) (path : Option Path)
  | disposed (block : Nat)

/-- `struct SolidSyslogFileBlockDevice`, and what happened to its handle so far. -/
structure FileBlockDevice (Path : Type) where
  file : FileState Path
  handle : OpenHandle
  trace : List (HandleEvent Path)

/-- `MAX_BLOCK_INDEX`. -/
def maxBlockIndex : Nat := 99

/-- `FileBlockDevice_IsValidBlockIndex`. -/
def isValidBlockIndex (blockIndex : Nat) : Bool :=
  blockIndex ≤ maxBlockIndex

theorem isValidBlockIndex_iff {blockIndex : Nat} :
    isValidBlockIndex blockIndex = true ↔ blockIndex ≤ maxBlockIndex := by
  simp [isValidBlockIndex]

/-- A call of the device. -/
inductive DeviceCall where
  | acquire (block : Nat)
  | dispose (block : Nat)
  | blockExists (block : Nat)
  | read (block offset count : Nat)
  | append (block : Nat) (bytes : Bytes)
  | writeAt (block offset : Nat) (bytes : Bytes)
  | size (block : Nat)
  deriving DecidableEq

/-- What a call answers: a verdict, the bytes read or the size. -/
inductive DeviceAnswer where
  | done (ok : Bool)
  | bytes (read : Option Bytes)
  | size (known : Option Nat)
  deriving DecidableEq

namespace FileBlockDevice

variable {Path : Type} [DecidableEq Path] (formatBlockFilename : Nat → Path)
  (s : FileBlockDevice Path) (answers : FileAnswers)

def note (event : HandleEvent Path) : FileBlockDevice Path :=
  { s with trace := s.trace ++ [event] }

/-- A call of the file through the handle. -/
def use (blockIndex : Nat) (file : FileState Path) : FileBlockDevice Path :=
  { s.note (.used blockIndex (s.file.openOn.map Prod.fst)) with file := file }

/-- `FileBlockDevice_IsHandleAlreadyOpenOnBlock`. -/
def isHandleAlreadyOpenOnBlock (underlyingFileIsOpen : Bool) (blockIndex : Nat) : Bool :=
  s.handle.isOpen && underlyingFileIsOpen && s.handle.blockIndex = blockIndex

/-- `FileBlockDevice_OpenHandleOnBlock`. -/
def openHandleOnBlock (blockIndex : Nat) : Bool × FileBlockDevice Path :=
  let file := if s.file.isOpen then s.file.close else s.file
  let s := { s with file := file, handle := ⟨s.handle.blockIndex, false⟩ }
  let opened := s.file.openPath answers (formatBlockFilename blockIndex)
  let s := { s with file := opened.2 }
  if opened.1 then (true, { s with handle := ⟨blockIndex, true⟩ }.note (.opened blockIndex))
  else (false, s)

/-- `FileBlockDevice_EnsureHandleOpenOnBlock`. -/
def ensureHandleOpenOnBlock (blockIndex : Nat) : Bool × FileBlockDevice Path :=
  if s.isHandleAlreadyOpenOnBlock s.file.isOpen blockIndex then (true, s)
  else s.openHandleOnBlock formatBlockFilename answers blockIndex

/-- `FileBlockDevice_Acquire`. -/
def acquire (blockIndex : Nat) : Bool × FileBlockDevice Path :=
  if isValidBlockIndex blockIndex then
    let ready := s.ensureHandleOpenOnBlock formatBlockFilename answers blockIndex
    if ready.1 then (true, ready.2.use blockIndex ready.2.file.truncate) else (false, ready.2)
  else (false, s)

/-- `FileBlockDevice_CloseIfHoldingBlock`. -/
def closeIfHoldingBlock (blockIndex : Nat) : FileBlockDevice Path :=
  if s.handle.isOpen && s.handle.blockIndex = blockIndex then
    { s with file := s.file.close, handle := ⟨s.handle.blockIndex, false⟩ }
  else s

/-- `FileBlockDevice_Dispose`. -/
def dispose (blockIndex : Nat) : Bool × FileBlockDevice Path :=
  if isValidBlockIndex blockIndex then
    let s := s.closeIfHoldingBlock blockIndex
    let deleted := s.file.delete answers (formatBlockFilename blockIndex)
    (deleted.1, { s.note (.disposed blockIndex) with file := deleted.2 })
  else (false, s)

/-- `FileBlockDevice_Exists`. -/
def blockExists (blockIndex : Nat) : Bool :=
  if isValidBlockIndex blockIndex then s.file.pathExists (formatBlockFilename blockIndex) else false

/-- `SolidSyslogFile_SeekTo` and `SolidSyslogFile_Read`. -/
def readFrom (blockIndex offset count : Nat) : Option Bytes × FileBlockDevice Path :=
  let s := s.use blockIndex (s.file.seekTo answers offset)
  let transfer := s.file.read answers count
  (transfer.1, s.use blockIndex transfer.2)

/-- `FileBlockDevice_Read`. -/
def read (blockIndex offset count : Nat) : Option Bytes × FileBlockDevice Path :=
  if isValidBlockIndex blockIndex then
    let ready := s.ensureHandleOpenOnBlock formatBlockFilename answers blockIndex
    if ready.1 then ready.2.readFrom answers blockIndex offset count else (none, ready.2)
  else (none, s)

/-- `SolidSyslogFile_SeekTo` and `SolidSyslogFile_Write`. -/
def writeTo (blockIndex offset : Nat) (bytes : Bytes) : Bool × FileBlockDevice Path :=
  let s := s.use blockIndex (s.file.seekTo answers offset)
  let transfer := s.file.write answers bytes
  (transfer.1, s.use blockIndex transfer.2)

/-- `FileBlockDevice_Append`. -/
def append (blockIndex : Nat) (bytes : Bytes) : Bool × FileBlockDevice Path :=
  if isValidBlockIndex blockIndex then
    let ready := s.ensureHandleOpenOnBlock formatBlockFilename answers blockIndex
    if ready.1 then
      let measured := ready.2.file.size answers
      let s := ready.2.use blockIndex measured.2
      match measured.1 with
      | some atEnd => s.writeTo answers blockIndex atEnd bytes
      | none => (false, s)
    else (false, ready.2)
  else (false, s)

/-- `FileBlockDevice_WriteAt`. -/
def writeAt (blockIndex offset : Nat) (bytes : Bytes) : Bool × FileBlockDevice Path :=
  if isValidBlockIndex blockIndex then
    let ready := s.ensureHandleOpenOnBlock formatBlockFilename answers blockIndex
    if ready.1 then ready.2.writeTo answers blockIndex offset bytes else (false, ready.2)
  else (false, s)

/-- `FileBlockDevice_Size`. -/
def size (blockIndex : Nat) : Option Nat × FileBlockDevice Path :=
  if isValidBlockIndex blockIndex then
    let ready := s.ensureHandleOpenOnBlock formatBlockFilename answers blockIndex
    if ready.1 then
      let measured := ready.2.file.size answers
      (measured.1, ready.2.use blockIndex measured.2)
    else (none, ready.2)
  else (none, s)

/-! ## Runs -/

/-- A call of the device, and what it answers. -/
def call : DeviceCall → DeviceAnswer × FileBlockDevice Path
  | .acquire block =>
    let r := s.acquire formatBlockFilename answers block
    (.done r.1, r.2)
  | .dispose block =>
    let r := s.dispose formatBlockFilename answers block
    (.done r.1, r.2)
  | .blockExists block => (.done (s.blockExists formatBlockFilename block), s)
  | .read block offset count =>
    let r := s.read formatBlockFilename answers block offset count
    (.bytes r.1, r.2)
  | .append block bytes =>
    let r := s.append formatBlockFilename answers block bytes
    (.done r.1, r.2)
  | .writeAt block offset bytes =>
    let r := s.writeAt formatBlockFilename answers block offset bytes
    (.done r.1, r.2)
  | .size block =>
    let r := s.size formatBlockFilename answers block
    (.size r.1, r.2)

/-- A call of the device, or the file is found closed. -/
inductive Move where
  | call (call : DeviceCall) (answers : FileAnswers)
  | foundClosed

def move : Move → Option (FileBlockDevice Path)
  | .call call answers => some (s.call formatBlockFilename answers call).2
  | .foundClosed => some { s with file := s.file.close }

/-- `SolidSyslogFileBlockDevice_Initialise`, over a file in any state. -/
def initialise (file : FileState Path) : FileBlockDevice Path :=
  ⟨file, ⟨0, false⟩, []⟩

end FileBlockDevice

end SolidSyslog.FileDevice
