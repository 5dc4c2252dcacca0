import SolidSyslog.FileDevice.FileBlockDevice
import SolidSyslog.Lib.Interleaving
import SolidSyslog.Lib.Trace

/-!
# The block device refines a map from block index to bytes

Blocks `0` to `99` have a file each. What a call answers and does is what a map answers and does
(`Refines`), as long as no `SeekTo` fails without a word, and the open handle is only used for the
block it was opened on. The invariant is that an open handle goes with the path of its block
(`Paired`).
-/

namespace SolidSyslog.FileDevice

open Lib

/-- What the device is for. -/
abbrev BlockMap := Nat → Option Bytes

namespace DeviceCall

def block : DeviceCall → Nat
  | .acquire block | .dispose block | .blockExists block | .read block _ _ | .append block _
  | .writeAt block _ _ | .size block => block

/-- A call of a block that is there. -/
def namesExisting : DeviceCall → Bool
  | .read _ _ _ | .append _ _ | .writeAt _ _ _ | .size _ => true
  | .acquire _ | .dispose _ | .blockExists _ => false

/-- A call that changes nothing. -/
def onlyAsks : DeviceCall → Bool
  | .blockExists _ | .read _ _ _ | .size _ => true
  | .acquire _ | .dispose _ | .append _ _ | .writeAt _ _ _ => false

/-- A call that seeks. -/
def seeks : DeviceCall → Bool
  | .read _ _ _ | .append _ _ | .writeAt _ _ _ => true
  | .acquire _ | .dispose _ | .blockExists _ | .size _ => false

/-- How a call is refused. -/
def refusal : DeviceCall → DeviceAnswer
  | .acquire _ | .dispose _ | .blockExists _ | .append _ _ | .writeAt _ _ _ => .done false
  | .read _ _ _ => .bytes none
  | .size _ => .size none

end DeviceCall

namespace BlockMap

/-- What a map answers. -/
def answer (m : BlockMap) : DeviceCall → DeviceAnswer
  | .acquire _ | .dispose _ | .append _ _ | .writeAt _ _ _ => .done true
  | .blockExists block => .done (m block).isSome
  | .read block offset count =>
    .bytes ((m block).bind fun content =>
      if count ≤ content.length - offset then some (span content offset count) else none)
  | .size block => .size ((m block).map List.length)

/-- The map after a call, with what fills a gap ahead of the bytes written. -/
def after (m : BlockMap) (gap : Nat → UInt8) : DeviceCall → BlockMap
  | .acquire block => Function.update m block (some [])
  | .dispose block => Function.update m block none
  | .append block bytes => Function.update m block ((m block).map (· ++ bytes))
  | .writeAt block offset bytes =>
    Function.update m block ((m block).map (written · offset bytes gap))
  | .blockExists _ | .read _ _ _ | .size _ => m

end BlockMap

/-- No call of the file fails. -/
structure FileAnswers.Well (answers : FileAnswers) : Prop where
  opens : answers.opens = true
  sizes : answers.sizes = true
  seeks : answers.seekFailure = none
  transfers : answers.transfers = true
  deletes : answers.deletes = true

/-- A call goes as it does on a map: another block never changes, an index that is too great is
refused, whether a block exists is always told, and a call that does not fail answers and does what
a map does. -/
structure Refines (m m' : BlockMap) (call : DeviceCall) (answers : FileAnswers)
    (answer : DeviceAnswer) :
    Prop where
  others : ∀ block ≠ call.block, m' block = m block
  refused : maxBlockIndex < call.block → answer = call.refusal ∧ m' = m
  asks : call.onlyAsks = true → m' = m
  existing : ∀ block, call = .blockExists block → answer = m.answer call
  succeeds : (call.seeks = true → answers.seekFailure = none) → answer ≠ call.refusal →
    answer = m.answer call ∧ m' = m.after answers.gap call
  works : call.block ≤ maxBlockIndex → answers.Well → answer = m.answer call

/-- The block whose file the handle was opened on, unless it was disposed of since. -/
def heldOn {Path : Type} (t : List (HandleEvent Path)) : Option Nat :=
  t.foldl (fun held event => match event with
    | .opened block => some block
    | .used _ _ => held
    | .disposed block => if held = some block then none else held) none

/-- The handle is used for the block it was opened on, with no other file open. -/
def UsesItsBlock {Path : Type} (formatBlockFilename : Nat → Path)
    (before : List (HandleEvent Path)) :
    HandleEvent Path → Prop
  | .used block path => heldOn before = some block ∧ ∀ p ∈ path, p = formatBlockFilename block
  | .opened _ | .disposed _ => True

/-! ## The file -/

variable {Path : Type} {p : Path} {f f' : FileState Path} {answers : FileAnswers}

/-- No path but `p` is open, and `p` is there. -/
structure On (p : Path) (f : FileState Path) : Prop where
  only : ∀ held ∈ f.openOn, held.1 = p
  present : (f.media p).isSome = true

/-- Only the file at `p` differs. -/
def Beside (p : Path) (f f' : FileState Path) : Prop :=
  ∀ q ≠ p, f'.media q = f.media q

theorem Beside.refl (p : Path) (f : FileState Path) : Beside p f f :=
  fun _ _ => rfl

theorem Beside.trans {f'' : FileState Path} (h : Beside p f f') (h' : Beside p f' f'') :
    Beside p f f'' :=
  fun q hq => (h' q hq).trans (h q hq)

@[simp] theorem afterFailure_media (f : FileState Path) (answers : FileAnswers) :
    (f.afterFailure answers).media = f.media := by
  unfold FileState.afterFailure
  split
  · rfl
  · rfl

theorem On.close (h : On p f) : On p f.close :=
  ⟨nofun, h.present⟩

theorem On.afterFailure (h : On p f) : On p (f.afterFailure answers) := by
  unfold FileState.afterFailure
  split
  · exact h.close
  · exact h

@[simp] theorem seekTo_media (f : FileState Path) (answers : FileAnswers) (offset : Nat) :
    (f.seekTo answers offset).media = f.media := by
  unfold FileState.seekTo
  split
  · rfl
  · exact afterFailure_media _ _

theorem On.seekTo (h : On p f) (offset : Nat) : On p (f.seekTo answers offset) := by
  have hmoved : ∀ position, On p { f with openOn := f.openOn.map fun held =>
    (held.1, position) } := by
    intro position
    refine ⟨fun held hheld => ?_, h.present⟩
    obtain ⟨before, hbefore, rfl⟩ := Option.map_eq_some_iff.1 hheld
    exact h.only before hbefore
  unfold FileState.seekTo
  split
  · exact hmoved offset
  · exact (hmoved _).afterFailure

variable {position : Nat} {content : Bytes}

theorem seekTo_openOn (h : answers.seekFailure = none) (hopen : f.openOn = some (p, position))
    (offset : Nat) : (f.seekTo answers offset).openOn = some (p, offset) := by
  simp only [FileState.seekTo, h, hopen, Option.map_some]

theorem size_media (f : FileState Path) (answers : FileAnswers) :
    (f.size answers).2.media = f.media := by
  unfold FileState.size
  split
  · split
    · rfl
    · exact afterFailure_media _ _
  · rfl

theorem On.size (h : On p f) : On p (f.size answers).2 := by
  unfold FileState.size
  split
  · split
    · exact h
    · exact h.afterFailure
  · exact h

/-- A size that is known is that of the content, and leaves the file as it is. -/
theorem size_eq (hopen : f.openOn = some (p, position)) (hcontent : f.media p = some content) :
    f.size answers = if answers.sizes then (some content.length, f)
      else (none, f.afterFailure answers) := by
  unfold FileState.size
  rw [hopen]
  simp only [hcontent, Option.getD_some]

theorem read_media (f : FileState Path) (answers : FileAnswers) (count : Nat) :
    (f.read answers count).2.media = f.media := by
  unfold FileState.read
  split
  · dsimp only
    split
    · rfl
    · exact afterFailure_media _ _
  · rfl

theorem On.read (h : On p f) (count : Nat) : On p (f.read answers count).2 := by
  unfold FileState.read
  split
  · next path position hopen =>
    dsimp only
    split
    · refine ⟨fun held hheld => ?_, h.present⟩
      obtain rfl := Option.some.inj hheld
      exact h.only (path, position) hopen
    · exact h.afterFailure
  · exact h

theorem read_eq (hopen : f.openOn = some (p, position)) (hcontent : f.media p = some content)
    (count : Nat) :
    (f.read answers count).1 = if answers.transfers ∧ count ≤ content.length - position
      then some (span content position count) else none := by
  unfold FileState.read
  rw [hopen]
  simp only [hcontent, Option.getD_some]
  split
  · rfl
  · rfl

section Write

variable [DecidableEq Path]

theorem On.update (h : ∀ held ∈ f'.openOn, held.1 = p)
    (hmedia : f'.media = Function.update f.media p (some content)) :
    On p f' ∧ Beside p f f' := by
  refine ⟨⟨h, by simp [hmedia]⟩, fun q hq => ?_⟩
  rw [hmedia, Function.update_of_ne hq]

theorem On.write (h : On p f) (bytes : Bytes) :
    On p (f.write answers bytes).2 ∧ Beside p f (f.write answers bytes).2 := by
  unfold FileState.write
  split
  · next path position hopen =>
    obtain rfl : path = p := h.only (path, position) hopen
    dsimp only
    split
    · refine On.update (fun held hheld => ?_) rfl
      obtain rfl := Option.some.inj hheld
      rfl
    · have htorn : On path { f with media := Function.update f.media path (some answers.torn) } ∧
          Beside path f { f with media := Function.update f.media path (some answers.torn) } :=
        On.update h.only rfl
      refine ⟨htorn.1.afterFailure, fun q hq => ?_⟩
      rw [afterFailure_media]
      exact htorn.2 q hq
  · exact ⟨h, .refl p f⟩

/-- A write that succeeds writes at the position. -/
theorem write_eq (hopen : f.openOn = some (p, position)) (hcontent : f.media p = some content)
    (bytes : Bytes) :
    (f.write answers bytes).1 = answers.transfers ∧
      (answers.transfers = true → (f.write answers bytes).2.media =
        Function.update f.media p (some (written content position bytes answers.gap))) := by
  unfold FileState.write
  rw [hopen]
  simp only [hcontent, Option.getD_some]
  split
  · next hok => exact ⟨hok.symm, fun _ => rfl⟩
  · next hfailed => exact ⟨by simpa using hfailed, fun hok => absurd hok hfailed⟩

theorem On.truncate (h : On p f) : On p f.truncate ∧ Beside p f f.truncate := by
  unfold FileState.truncate
  split
  · next path position hopen =>
    obtain rfl : path = p := h.only (path, position) hopen
    exact On.update h.only rfl
  · exact ⟨h, .refl p f⟩

theorem truncate_eq (hopen : f.openOn = some (p, position)) :
    f.truncate.media = Function.update f.media p (some []) := by
  simp only [FileState.truncate, hopen]

end Write

/-! ## The handle -/

namespace FileBlockDevice

variable {formatBlockFilename : Nat → Path} {s s' : FileBlockDevice Path} {block : Nat}

/-- The map a device stands for. -/
def blocks (formatBlockFilename : Nat → Path) (s : FileBlockDevice Path) : BlockMap := fun block =>
  if block ≤ maxBlockIndex then s.file.media (formatBlockFilename block) else none

/-- An open handle goes with its block and the path of that. -/
structure Paired (formatBlockFilename : Nat → Path) (s : FileBlockDevice Path) : Prop where
  handle : s.handle.isOpen = true → s.handle.blockIndex ≤ maxBlockIndex ∧
    heldOn s.trace = some s.handle.blockIndex ∧ On (formatBlockFilename s.handle.blockIndex) s.file
  uses : Always (UsesItsBlock formatBlockFilename) s.trace

/-- The handle is open on a block. -/
structure Using (formatBlockFilename : Nat → Path) (block : Nat) (s : FileBlockDevice Path) :
    Prop where
  valid : block ≤ maxBlockIndex
  handle : s.handle = ⟨block, true⟩
  held : heldOn s.trace = some block
  on : On (formatBlockFilename block) s.file
  uses : Always (UsesItsBlock formatBlockFilename) s.trace

theorem Using.paired (h : Using formatBlockFilename block s) : Paired formatBlockFilename s := by
  refine ⟨fun _ => ?_, h.uses⟩
  rw [h.handle]
  exact ⟨h.valid, h.held, h.on⟩

/-- A use of the handle that leaves its file. -/
theorem Using.use (h : Using formatBlockFilename block s) {file : FileState Path}
    (hfile : On (formatBlockFilename block) file) :
    Using formatBlockFilename block (s.use block file) := by
  refine ⟨h.valid, h.handle, ?_, hfile, h.uses.concat ⟨h.held, fun p hp => ?_⟩⟩
  · simpa [FileBlockDevice.use, note, heldOn] using h.held
  · obtain ⟨held, hheld, rfl⟩ := Option.map_eq_some_iff.1 hp
    exact h.on.only held hheld

theorem paired_initialise (file : FileState Path) :
    Paired formatBlockFilename (initialise file) :=
  ⟨nofun, Always.nil⟩

theorem Paired.foundClosed (h : Paired formatBlockFilename s) :
    Paired formatBlockFilename { s with file := s.file.close } := by
  refine ⟨fun hopen => ?_, h.uses⟩
  obtain ⟨hvalid, hheld, hon⟩ := h.handle hopen
  exact ⟨hvalid, hheld, hon.close⟩

/-- A read through the handle changes nothing, and gives the bytes where it can seek. -/
theorem Using.readFrom (h : Using formatBlockFilename block s) (offset count : Nat) :
    Using formatBlockFilename block (s.readFrom answers block offset count).2 ∧
      (s.readFrom answers block offset count).2.file.media = s.file.media := by
  have hsought := h.use (@On.seekTo _ _ _ answers h.on offset)
  refine ⟨hsought.use (hsought.on.read count), ?_⟩
  exact (read_media _ answers count).trans (seekTo_media s.file answers offset)

theorem Using.readFrom_eq {position : Nat} {content : Bytes}
    (hopen : s.file.openOn = some (formatBlockFilename block, position))
    (hcontent : s.file.media (formatBlockFilename block) = some content)
    (hseek : answers.seekFailure = none) (offset count : Nat) :
    (s.readFrom answers block offset count).1 =
      if answers.transfers ∧ count ≤ content.length - offset then some (span content offset count)
      else none :=
  read_eq (seekTo_openOn hseek hopen offset)
    ((congrFun (seekTo_media _ _ _) _).trans hcontent) count

theorem closeIfHoldingBlock_handle (h : (s.closeIfHoldingBlock block).handle.isOpen = true) :
    s.closeIfHoldingBlock block = s ∧ s.handle.blockIndex ≠ block := by
  unfold closeIfHoldingBlock at h ⊢
  split at h
  · cases h
  · next hother =>
    rw [if_neg hother]
    refine ⟨rfl, fun heq => ?_⟩
    simp [heq, show s.handle.isOpen = true from h] at hother

theorem closeIfHoldingBlock_media : (s.closeIfHoldingBlock block).file.media = s.file.media := by
  unfold closeIfHoldingBlock
  split
  · rfl
  · rfl

theorem closeIfHoldingBlock_trace : (s.closeIfHoldingBlock block).trace = s.trace := by
  unfold closeIfHoldingBlock
  split
  · rfl
  · rfl

theorem heldOn_disposed (t : List (HandleEvent Path)) (block : Nat) :
    heldOn (t ++ [.disposed block]) = if heldOn t = some block then none else heldOn t := by
  rw [heldOn, List.foldl_concat]
  rfl

/-! ## The map a device stands for -/

/-- The names of different blocks differ. -/
def NamesDistinct (formatBlockFilename : Nat → Path) : Prop :=
  ∀ i ≤ maxBlockIndex, ∀ j ≤ maxBlockIndex, formatBlockFilename i = formatBlockFilename j → i = j

theorem blocks_eq (hblock : block ≤ maxBlockIndex) :
    blocks formatBlockFilename s block = s.file.media (formatBlockFilename block) :=
  if_pos hblock

theorem blocks_of_media (h : s'.file.media = s.file.media) :
    blocks formatBlockFilename s' = blocks formatBlockFilename s := by
  unfold blocks
  rw [h]

theorem blocks_of_beside (hnames : NamesDistinct formatBlockFilename)
    (hblock : block ≤ maxBlockIndex)
    (h : Beside (formatBlockFilename block) s.file s'.file) :
    blocks formatBlockFilename s' = Function.update (blocks formatBlockFilename s) block
      (s'.file.media (formatBlockFilename block)) := by
  funext other
  by_cases hother : other = block
  · subst hother
    rw [Function.update_self, blocks, if_pos hblock]
  · rw [Function.update_of_ne hother]
    unfold blocks
    split
    · next hvalid => exact h _ fun hname => hother (hnames other hvalid block hblock hname)
    · rfl

theorem beside_of_media (h : s'.file.media = s.file.media) (p : Path) : Beside p s.file s'.file :=
  fun q _ => congrFun h q

theorem after_eq_update (m : BlockMap) (gap : Nat → UInt8) (call : DeviceCall) :
    m.after gap call = Function.update m call.block (m.after gap call call.block) := by
  cases call with
  | acquire block => simp [BlockMap.after, DeviceCall.block]
  | dispose block => simp [BlockMap.after, DeviceCall.block]
  | append block bytes => simp [BlockMap.after, DeviceCall.block]
  | writeAt block offset bytes => simp [BlockMap.after, DeviceCall.block]
  | blockExists block => simp [BlockMap.after]
  | read block offset count => simp [BlockMap.after]
  | size block => simp [BlockMap.after]

theorem refines_of_beside (hnames : NamesDistinct formatBlockFilename) {call : DeviceCall}
    {answer : DeviceAnswer} (hblock : call.block ≤ maxBlockIndex)
    (hbeside : Beside (formatBlockFilename call.block) s.file s'.file)
    (hasks : call.onlyAsks = true → s'.file.media = s.file.media)
    (hexisting : ∀ block, call = .blockExists block →
      answer = (blocks formatBlockFilename s).answer call)
    (hsucceeds : (call.seeks = true → answers.seekFailure = none) → answer ≠ call.refusal →
      answer = (blocks formatBlockFilename s).answer call ∧
        s'.file.media (formatBlockFilename call.block) =
          (blocks formatBlockFilename s).after answers.gap call call.block)
    (hworks : answers.Well → answer = (blocks formatBlockFilename s).answer call) :
    Refines (blocks formatBlockFilename s) (blocks formatBlockFilename s') call answers answer where
  others other hother := by
    rw [blocks_of_beside hnames hblock hbeside, Function.update_of_ne hother]
  refused hgreat := absurd hblock (Nat.not_le.2 hgreat)
  asks honly := blocks_of_media (hasks honly)
  existing := hexisting
  succeeds hseek hsuccess := by
    obtain ⟨hanswer, hcontent⟩ := hsucceeds hseek hsuccess
    refine ⟨hanswer, ?_⟩
    rw [after_eq_update, ← hcontent]
    exact blocks_of_beside hnames hblock hbeside
  works _ hwell := hworks hwell

/-- An index that is too great is refused. -/
theorem refines_refusal {call : DeviceCall} (hblock : ¬ call.block ≤ maxBlockIndex) :
    Refines (blocks formatBlockFilename s) (blocks formatBlockFilename s) call answers
      call.refusal where
  others _ _ := rfl
  refused _ := ⟨rfl, rfl⟩
  asks _ := rfl
  existing block hcall := by
    subst hcall
    have hnone : blocks formatBlockFilename s block = none := if_neg hblock
    simp only [BlockMap.answer, DeviceCall.refusal, hnone, Option.isSome_none]
  succeeds _ hsuccess := absurd rfl hsuccess
  works hvalid := absurd hvalid hblock

/-- A call that only asks and fails. -/
theorem refines_failed (hnames : NamesDistinct formatBlockFilename) {call : DeviceCall}
    (hblock : call.block ≤ maxBlockIndex) (hcall : call.namesExisting = true)
    (hbeside : Beside (formatBlockFilename call.block) s.file s'.file)
    (hasks : call.onlyAsks = true → s'.file.media = s.file.media) (hfails : ¬ answers.Well) :
    Refines (blocks formatBlockFilename s) (blocks formatBlockFilename s') call answers
      call.refusal :=
  refines_of_beside hnames hblock hbeside hasks
    (fun block heq => absurd hcall (by rw [heq]; exact nofun))
    (fun _ hsuccess => absurd rfl hsuccess)
    fun hwell => absurd hwell hfails

/-! ## Calls -/

variable [DecidableEq Path]

/-- What `FileBlockDevice_EnsureHandleOpenOnBlock` leads to. -/
structure Readied (formatBlockFilename : Nat → Path) (block : Nat) (answers : FileAnswers)
    (s : FileBlockDevice Path) (r : Bool × FileBlockDevice Path) : Prop where
  paired : Paired formatBlockFilename r.2
  ready : r.1 = true → Using formatBlockFilename block r.2 ∧
    ∃ position, r.2.file.openOn = some (formatBlockFilename block, position)
  beside : Beside (formatBlockFilename block) s.file r.2.file
  kept : (s.file.media (formatBlockFilename block)).isSome = true → r.2.file.media = s.file.media
  works : answers.opens = true → r.1 = true

theorem readied_openHandleOnBlock (h : Paired formatBlockFilename s)
    (hblock : block ≤ maxBlockIndex) :
    Readied formatBlockFilename block answers s
      (s.openHandleOnBlock formatBlockFilename answers block) := by
  have hclosed : (if s.file.isOpen then s.file.close else s.file) = s.file.close := by
    cases s with
    | mk file handle trace =>
      obtain ⟨media, openOn⟩ := file
      cases openOn with
      | none => rfl
      | some held => rfl
  unfold openHandleOnBlock
  dsimp only
  rw [hclosed]
  have hmedia : Beside (formatBlockFilename block) s.file
      (s.file.close.openPath answers (formatBlockFilename block)).2 := by
    intro q hq
    dsimp only [FileState.openPath]
    split
    · rw [Function.update_of_ne hq]
      rfl
    · rfl
  have hkept : (s.file.media (formatBlockFilename block)).isSome = true →
      (s.file.close.openPath answers (formatBlockFilename block)).2.media = s.file.media := by
    intro hpresent
    have hsome : s.file.media (formatBlockFilename block) ≠ none :=
      Option.isSome_iff_ne_none.1 hpresent
    exact if_neg fun hnone => hsome hnone.1
  split
  · next hopens =>
    have hopens : answers.opens = true := hopens
    have hopened : (s.file.close.openPath answers (formatBlockFilename block)).2.openOn =
        some (formatBlockFilename block, 0) := if_pos hopens
    have hon : On (formatBlockFilename block)
        (s.file.close.openPath answers (formatBlockFilename block)).2 := by
      refine ⟨?_, ?_⟩
      · rw [hopened]
        intro held hheld
        rw [← Option.some.inj hheld]
      · cases hpath : s.file.media (formatBlockFilename block) with
        | none => simp [FileState.openPath, FileState.close, hpath, hopens]
        | some content => simp [hkept (by simp [hpath]), hpath]
    have husing : Using formatBlockFilename block
        ({ s with file := (s.file.close.openPath answers (formatBlockFilename block)).2,
                  handle := ⟨block, true⟩ }.note (.opened block)) :=
      ⟨hblock, rfl, by simp [note, heldOn], hon, h.uses.concat trivial⟩
    exact ⟨husing.paired, fun _ => ⟨husing, 0, hopened⟩, hmedia, hkept, fun _ => rfl⟩
  · next hfailed => exact ⟨⟨nofun, h.uses⟩, nofun, hmedia, hkept, fun hopens =>
      absurd hopens hfailed⟩

theorem readied_ensureHandleOpenOnBlock (h : Paired formatBlockFilename s)
    (hblock : block ≤ maxBlockIndex) :
    Readied formatBlockFilename block answers s
      (s.ensureHandleOpenOnBlock formatBlockFilename answers block) := by
  unfold ensureHandleOpenOnBlock
  split
  · next hready =>
    simp only [isHandleAlreadyOpenOnBlock, Bool.and_eq_true, decide_eq_true_eq] at hready
    obtain ⟨⟨hopen, hfile⟩, rfl⟩ := hready
    obtain ⟨hvalid, hheld, hon⟩ := h.handle hopen
    obtain ⟨⟨path, position⟩, hopenOn⟩ := Option.isSome_iff_exists.1 hfile
    obtain rfl : path = _ := hon.only (path, position) hopenOn
    have husing : Using formatBlockFilename s.handle.blockIndex s :=
      ⟨hvalid, by rw [← hopen], hheld, hon, h.uses⟩
    exact ⟨h, fun _ => ⟨husing, position, hopenOn⟩, .refl _ _, fun _ => rfl, fun _ => rfl⟩
  · exact readied_openHandleOnBlock h hblock

/-- What a call keeps and how it goes. -/
def Goes (formatBlockFilename : Nat → Path) (s : FileBlockDevice Path) (answers : FileAnswers)
    (call : DeviceCall) : Prop :=
  Paired formatBlockFilename (s.call formatBlockFilename answers call).2 ∧
    Refines (blocks formatBlockFilename s)
      (blocks formatBlockFilename (s.call formatBlockFilename answers call).2) call answers
      (s.call formatBlockFilename answers call).1

theorem acquire_goes (hnames : NamesDistinct formatBlockFilename) (h : Paired formatBlockFilename s)
    (block : Nat) : Goes formatBlockFilename s answers (.acquire block) := by
  unfold Goes
  simp only [call, acquire]
  by_cases hblock : block ≤ maxBlockIndex
  · rw [if_pos (isValidBlockIndex_iff.2 hblock)]
    have hready : Readied formatBlockFilename block answers s _  :=
      readied_ensureHandleOpenOnBlock h hblock
    generalize s.ensureHandleOpenOnBlock formatBlockFilename answers block = r at hready
    by_cases hok : r.1 = true
    · obtain ⟨husing, position, hopen⟩ := hready.ready hok
      obtain ⟨hon, hbeside⟩ := husing.on.truncate
      rw [if_pos hok]
      refine ⟨(husing.use hon).paired, refines_of_beside hnames hblock
        (hready.beside.trans hbeside) nofun nofun (fun _ _ => ⟨rfl, ?_⟩) fun _ => rfl⟩
      change r.2.file.truncate.media (formatBlockFilename block) = _
      rw [truncate_eq hopen]
      simp [BlockMap.after, DeviceCall.block]
    · rw [if_neg hok]
      exact ⟨hready.paired, refines_of_beside hnames hblock hready.beside nofun nofun
        (fun _ hsuccess => absurd rfl hsuccess) fun hwell => absurd (hready.works hwell.opens) hok⟩
  · rw [if_neg (mt isValidBlockIndex_iff.1 hblock)]
    exact ⟨h, refines_refusal hblock⟩

theorem delete_beside (f : FileState Path) (p : Path) : Beside p f (f.delete answers p).2 := by
  intro q hq
  unfold FileState.delete
  dsimp only
  split
  · rw [Function.update_of_ne hq]
  · rfl

theorem dispose_goes (hnames : NamesDistinct formatBlockFilename) (h : Paired formatBlockFilename s)
    (block : Nat) : Goes formatBlockFilename s answers (.dispose block) := by
  unfold Goes
  simp only [call, dispose]
  by_cases hblock : block ≤ maxBlockIndex
  · rw [if_pos (isValidBlockIndex_iff.2 hblock)]
    have hdeleted := @delete_beside _ answers _ (s.closeIfHoldingBlock block).file
      (formatBlockFilename block)
    refine ⟨⟨fun hopen => ?_, ?_⟩, refines_of_beside hnames hblock ?_ nofun nofun ?_ ?_⟩
    · -- The handle that stays open is on another block, whose file stays.
      obtain ⟨hsame, hother⟩ := closeIfHoldingBlock_handle hopen
      rw [hsame] at hopen hdeleted ⊢
      obtain ⟨hvalid, hheld, hon⟩ := h.handle hopen
      have hname : formatBlockFilename s.handle.blockIndex ≠ formatBlockFilename block :=
        fun heq => hother (hnames _ hvalid _ hblock heq)
      have hpresent : ((s.file.delete answers (formatBlockFilename block)).2.media
          (formatBlockFilename s.handle.blockIndex)).isSome = true := by
        rw [hdeleted _ hname]
        exact hon.present
      refine ⟨hvalid, ?_, hon.only, hpresent⟩
      dsimp only [note]
      rw [heldOn_disposed, hheld, if_neg fun heq => hother (Option.some.inj heq)]
    · dsimp only [note]
      rw [closeIfHoldingBlock_trace]
      exact h.uses.concat trivial
    · intro q hq
      rw [← closeIfHoldingBlock_media (s := s)]
      exact hdeleted q hq
    · intro _ hsuccess
      have hdeletes : answers.deletes = true := by
        by_contra hfails
        exact hsuccess (congrArg DeviceAnswer.done (Bool.eq_false_iff.2 hfails))
      refine ⟨congrArg DeviceAnswer.done hdeletes, ?_⟩
      simp [FileState.delete, hdeletes, BlockMap.after, DeviceCall.block]
    · intro hwell
      exact congrArg DeviceAnswer.done hwell.deletes
  · rw [if_neg (mt isValidBlockIndex_iff.1 hblock)]
    exact ⟨h, refines_refusal hblock⟩

theorem blockExists_goes (hnames : NamesDistinct formatBlockFilename)
    (h : Paired formatBlockFilename s)
    (block : Nat) : Goes formatBlockFilename s answers (.blockExists block) := by
  unfold Goes
  simp only [call, blockExists]
  by_cases hblock : block ≤ maxBlockIndex
  · rw [if_pos (isValidBlockIndex_iff.2 hblock)]
    have hanswer : DeviceAnswer.done (s.file.pathExists (formatBlockFilename block)) =
        (blocks formatBlockFilename s).answer (.blockExists block) := by
      simp only [BlockMap.answer, blocks_eq hblock]
      rfl
    exact ⟨h, refines_of_beside hnames hblock (.refl _ _) (fun _ => rfl) (fun _ _ => hanswer)
      (fun _ _ => ⟨hanswer, (blocks_eq hblock).symm⟩) fun _ => hanswer⟩
  · rw [if_neg (mt isValidBlockIndex_iff.1 hblock)]
    exact ⟨h, refines_refusal hblock⟩

/-- The handle is made ready for a block that is there, or stays closed. -/
theorem ready_or_closed (h : Paired formatBlockFilename s) (hblock : block ≤ maxBlockIndex)
    (hexisting : (blocks formatBlockFilename s block).isSome = true) (answers : FileAnswers) :
    ∃ r content, s.ensureHandleOpenOnBlock formatBlockFilename answers block = r ∧
      blocks formatBlockFilename s block = some content ∧ r.2.file.media = s.file.media ∧
      (r.1 = true ∧ Using formatBlockFilename block r.2 ∧
        (∃ position, r.2.file.openOn = some (formatBlockFilename block, position)) ∧
        r.2.file.media (formatBlockFilename block) = some content ∨
      r.1 = false ∧ Paired formatBlockFilename r.2 ∧ ¬ answers.Well) := by
  have hready : Readied formatBlockFilename block answers s _ :=
    readied_ensureHandleOpenOnBlock h hblock
  obtain ⟨content, hcontent⟩ := Option.isSome_iff_exists.1 hexisting
  have hmedia := hcontent
  rw [blocks_eq hblock] at hmedia hexisting
  refine ⟨_, content, rfl, hcontent, hready.kept hexisting, ?_⟩
  cases hok : (s.ensureHandleOpenOnBlock formatBlockFilename answers block).1 with
  | true =>
    obtain ⟨husing, hopen⟩ := hready.ready hok
    refine .inl ⟨rfl, husing, hopen, ?_⟩
    rw [hready.kept hexisting]
    exact hmedia
  | false =>
    refine .inr ⟨rfl, hready.paired, fun hwell => ?_⟩
    rw [hready.works hwell.opens] at hok
    cases hok

theorem read_goes (hnames : NamesDistinct formatBlockFilename) (h : Paired formatBlockFilename s)
    (hexisting : block ≤ maxBlockIndex → (blocks formatBlockFilename s block).isSome = true)
    (offset count : Nat) : Goes formatBlockFilename s answers (.read block offset count) := by
  unfold Goes
  simp only [call, FileBlockDevice.read]
  by_cases hblock : block ≤ maxBlockIndex
  · rw [if_pos (isValidBlockIndex_iff.2 hblock)]
    obtain ⟨r, content, hr, hcontent, hkept, hready⟩ :=
      ready_or_closed h hblock (hexisting hblock) answers
    rw [hr]
    obtain ⟨hok, husing, ⟨position, hopen⟩, hheld⟩ | ⟨hok, hpaired, hfails⟩ := hready
    · obtain ⟨hafter, hmedia⟩ := @Using.readFrom _ answers _ _ _ husing offset count
      have hsame := hmedia.trans hkept
      have hread := fun hseek =>
        @Using.readFrom_eq _ answers _ _ _ _ _ hopen hheld hseek offset count
      rw [if_pos hok]
      refine ⟨hafter.paired, refines_of_beside hnames hblock (beside_of_media hsame _)
        (fun _ => hsame)
        nofun ?_ ?_⟩
      · intro hseek hsuccess
        refine ⟨?_, ?_⟩
        · rw [hread (hseek rfl)] at hsuccess ⊢
          split at hsuccess
          · next hbytes => simp [BlockMap.answer, hcontent, hbytes]
          · exact absurd rfl hsuccess
        · rw [hsame]
          exact (blocks_eq hblock).symm
      · intro hwell
        rw [hread hwell.seeks]
        simp [BlockMap.answer, hcontent, hwell.transfers]
    · rw [if_neg (by simp [hok])]
      exact ⟨hpaired, refines_failed hnames hblock rfl (beside_of_media hkept _)
        (fun _ => hkept) hfails⟩
  · rw [if_neg (mt isValidBlockIndex_iff.1 hblock)]
    exact ⟨h, refines_refusal hblock⟩

theorem size_goes (hnames : NamesDistinct formatBlockFilename) (h : Paired formatBlockFilename s)
    (hexisting : block ≤ maxBlockIndex → (blocks formatBlockFilename s block).isSome = true) :
    Goes formatBlockFilename s answers (.size block) := by
  unfold Goes
  simp only [call, FileBlockDevice.size]
  by_cases hblock : block ≤ maxBlockIndex
  · rw [if_pos (isValidBlockIndex_iff.2 hblock)]
    obtain ⟨r, content, hr, hcontent, hkept, hready⟩ :=
      ready_or_closed h hblock (hexisting hblock) answers
    rw [hr]
    obtain ⟨hok, husing, ⟨position, hopen⟩, hheld⟩ | ⟨hok, hpaired, hfails⟩ := hready
    · have hsame : (r.2.file.size answers).2.media = s.file.media :=
        (size_media r.2.file answers).trans hkept
      have hsize : (r.2.file.size answers).1 =
          if answers.sizes then some content.length else none := by
        rw [size_eq hopen hheld]
        split
        · rfl
        · rfl
      rw [if_pos hok]
      refine ⟨(husing.use husing.on.size).paired, refines_of_beside hnames hblock
        (beside_of_media hsame _) (fun _ => hsame) nofun ?_ ?_⟩
      · intro _ hsuccess
        refine ⟨?_, ?_⟩
        · dsimp only at hsuccess ⊢
          rw [hsize] at hsuccess ⊢
          split at hsuccess
          · next hsizes => simp [BlockMap.answer, hcontent, hsizes]
          · exact absurd rfl hsuccess
        · change (r.2.file.size answers).2.media _ = _
          rw [hsame]
          exact (blocks_eq hblock).symm
      · intro hwell
        dsimp only
        rw [hsize]
        simp [BlockMap.answer, hcontent, hwell.sizes]
    · rw [if_neg (by simp [hok])]
      exact ⟨hpaired, refines_failed hnames hblock rfl (beside_of_media hkept _)
        (fun _ => hkept) hfails⟩
  · rw [if_neg (mt isValidBlockIndex_iff.1 hblock)]
    exact ⟨h, refines_refusal hblock⟩

/-- A write through the handle changes its block alone. -/
theorem Using.writeTo (h : Using formatBlockFilename block s) (offset : Nat) (bytes : Bytes) :
    Using formatBlockFilename block (s.writeTo answers block offset bytes).2 ∧
      Beside (formatBlockFilename block) s.file (s.writeTo answers block offset bytes).2.file := by
  have hsought := h.use (@On.seekTo _ _ _ answers h.on offset)
  obtain ⟨hon, hbeside⟩ := @On.write _ _ _ answers _ hsought.on bytes
  refine ⟨hsought.use hon, ?_⟩
  exact Beside.trans (fun q _ => congrFun (seekTo_media s.file answers offset) q) hbeside

theorem Using.writeTo_eq {position : Nat} {content : Bytes}
    (hopen : s.file.openOn = some (formatBlockFilename block, position))
    (hcontent : s.file.media (formatBlockFilename block) = some content)
    (hseek : answers.seekFailure = none) (offset : Nat) (bytes : Bytes) :
    (s.writeTo answers block offset bytes).1 = answers.transfers ∧
      (answers.transfers = true →
        (s.writeTo answers block offset bytes).2.file.media (formatBlockFilename block) =
          some (written content offset bytes answers.gap)) := by
  obtain ⟨hanswer, hmedia⟩ := write_eq (seekTo_openOn hseek hopen offset)
    ((congrFun (seekTo_media _ _ _) _).trans hcontent) bytes
  refine ⟨hanswer, fun htransfers => ?_⟩
  have hwritten := congrFun (hmedia htransfers) (formatBlockFilename block)
  rwa [Function.update_self] at hwritten

/-- A call that writes at a position of its block goes so. -/
theorem refines_writeTo (hnames : NamesDistinct formatBlockFilename) {s₁ : FileBlockDevice Path}
    {call : DeviceCall} (hblock : call.block ≤ maxBlockIndex)
    (hkept : s₁.file.media = s.file.media) (husing : Using formatBlockFilename call.block s₁)
    {position offset : Nat} {content bytes : Bytes}
    (hopen : s₁.file.openOn = some (formatBlockFilename call.block, position))
    (hcontent : s₁.file.media (formatBlockFilename call.block) = some content)
    (hcall : call.seeks = true ∧ call.onlyAsks = false ∧ call.refusal = .done false)
    (hanswers : (blocks formatBlockFilename s).answer call = .done true)
    (hafter : (blocks formatBlockFilename s).after answers.gap call call.block =
      some (written content offset bytes answers.gap)) :
    Refines (blocks formatBlockFilename s)
      (blocks formatBlockFilename (s₁.writeTo answers call.block offset bytes).2) call answers
      (.done (s₁.writeTo answers call.block offset bytes).1) := by
  obtain ⟨hseeks, hasks, hrefusal⟩ := hcall
  have hbeside := (@Using.writeTo _ answers _ _ _ _ husing offset bytes).2
  have hwrite := fun hseek =>
    @Using.writeTo_eq _ answers _ _ _ _ _ _ hopen hcontent hseek offset bytes
  refine refines_of_beside hnames hblock ((beside_of_media hkept _).trans hbeside)
    (fun h => absurd h (by simp [hasks])) ?_ ?_ ?_
  · intro block heq
    rw [heq] at hseeks
    cases hseeks
  · intro hseek hsuccess
    obtain ⟨hanswer, hmedia⟩ := hwrite (hseek hseeks)
    have htransfers : answers.transfers = true := by
      by_contra hfails
      rw [Bool.eq_false_iff.2 hfails] at hanswer
      rw [hanswer, hrefusal] at hsuccess
      exact hsuccess rfl
    refine ⟨?_, (hmedia htransfers).trans hafter.symm⟩
    rw [hanswer, htransfers, hanswers]
  · intro hwell
    rw [(hwrite hwell.seeks).1, hwell.transfers, hanswers]

theorem writeAt_goes (hnames : NamesDistinct formatBlockFilename) (h : Paired formatBlockFilename s)
    (hexisting : block ≤ maxBlockIndex → (blocks formatBlockFilename s block).isSome = true)
    (offset : Nat) (bytes : Bytes) :
    Goes formatBlockFilename s answers (.writeAt block offset bytes) := by
  unfold Goes
  simp only [call, FileBlockDevice.writeAt]
  by_cases hblock : block ≤ maxBlockIndex
  · rw [if_pos (isValidBlockIndex_iff.2 hblock)]
    obtain ⟨r, content, hr, hcontent, hkept, hready⟩ :=
      ready_or_closed h hblock (hexisting hblock) answers
    rw [hr]
    obtain ⟨hok, husing, ⟨position, hopen⟩, hheld⟩ | ⟨hok, hpaired, hfails⟩ := hready
    · rw [if_pos hok]
      refine ⟨(husing.writeTo offset bytes).1.paired, ?_⟩
      refine @refines_writeTo _ _ _ s _ hnames r.2 (.writeAt block offset bytes) hblock hkept husing
        position offset content bytes hopen hheld ⟨rfl, rfl, rfl⟩ rfl ?_
      simp only [BlockMap.after, DeviceCall.block, hcontent, Option.map_some, Function.update_self]
    · rw [if_neg (by simp [hok])]
      exact ⟨hpaired, refines_failed hnames hblock rfl (beside_of_media hkept _)
        (by rintro ⟨⟩) hfails⟩
  · rw [if_neg (mt isValidBlockIndex_iff.1 hblock)]
    exact ⟨h, refines_refusal hblock⟩

theorem written_length (content bytes : Bytes) (gap : Nat → UInt8) :
    written content content.length bytes gap = content ++ bytes := by
  unfold written
  split
  · next hnone => rw [hnone, List.append_nil]
  · simp [overwrite]

theorem append_goes (hnames : NamesDistinct formatBlockFilename) (h : Paired formatBlockFilename s)
    (hexisting : block ≤ maxBlockIndex → (blocks formatBlockFilename s block).isSome = true)
    (bytes : Bytes) : Goes formatBlockFilename s answers (.append block bytes) := by
  unfold Goes
  simp only [call, FileBlockDevice.append]
  by_cases hblock : block ≤ maxBlockIndex
  · rw [if_pos (isValidBlockIndex_iff.2 hblock)]
    obtain ⟨r, content, hr, hcontent, hkept, hready⟩ :=
      ready_or_closed h hblock (hexisting hblock) answers
    rw [hr]
    obtain ⟨hok, husing, ⟨position, hopen⟩, hheld⟩ | ⟨hok, hpaired, hfails⟩ := hready
    · rw [if_pos hok, size_eq hopen hheld]
      by_cases hsizes : answers.sizes = true
      · -- The size is known, and the file is left as it is.
        rw [if_pos hsizes]
        have hmeasured := husing.use husing.on
        refine ⟨(hmeasured.writeTo content.length bytes).1.paired, ?_⟩
        refine @refines_writeTo _ _ _ s _ hnames (r.2.use block r.2.file)
          (.append block bytes) hblock
          hkept hmeasured position content.length content bytes hopen hheld ⟨rfl, rfl, rfl⟩ rfl ?_
        simp only [BlockMap.after, DeviceCall.block, hcontent, Option.map_some,
          Function.update_self, written_length]
      · rw [if_neg hsizes]
        have hsame : (r.2.file.afterFailure answers).media = s.file.media :=
          (afterFailure_media _ _).trans hkept
        exact ⟨(husing.use husing.on.afterFailure).paired, refines_failed hnames hblock rfl
          (beside_of_media hsame _) (by rintro ⟨⟩) fun hwell => hsizes hwell.sizes⟩
    · rw [if_neg (by simp [hok])]
      exact ⟨hpaired, refines_failed hnames hblock rfl (beside_of_media hkept _)
        (by rintro ⟨⟩) hfails⟩
  · rw [if_neg (mt isValidBlockIndex_iff.1 hblock)]
    exact ⟨h, refines_refusal hblock⟩

/-! ## Runs -/

/-- A call that needs a block names one that is there, or an index that is too great. -/
def NamesExisting (formatBlockFilename : Nat → Path) (s : FileBlockDevice Path) : Move → Prop
  | .call call _ => call.namesExisting = true → call.block ≤ maxBlockIndex →
    (blocks formatBlockFilename s call.block).isSome = true
  | .foundClosed => True

/-- What one call keeps and how it goes. -/
theorem call_goes (hnames : NamesDistinct formatBlockFilename) (h : Paired formatBlockFilename s)
    {call : DeviceCall} (hexisting : NamesExisting formatBlockFilename s (.call call answers)) :
    Goes formatBlockFilename s answers call := by
  cases call with
  | acquire block => exact acquire_goes hnames h block
  | dispose block => exact dispose_goes hnames h block
  | blockExists block => exact blockExists_goes hnames h block
  | read block offset count => exact read_goes hnames h (hexisting rfl) offset count
  | append block bytes => exact append_goes hnames h (hexisting rfl) bytes
  | writeAt block offset bytes => exact writeAt_goes hnames h (hexisting rfl) offset bytes
  | size block => exact size_goes hnames h (hexisting rfl)

theorem paired_of_reached {file : FileState Path} (hnames : NamesDistinct formatBlockFilename)
    (h : Reached (move formatBlockFilename) (NamesExisting formatBlockFilename)
      (initialise file) s) :
    Paired formatBlockFilename s := by
  refine h.invariant (I := Paired formatBlockFilename) (paired_initialise file) ?_
  intro s₁ move s₂ hs hexisting hmoved
  cases move with
  | call call answers =>
    obtain rfl := Option.some.inj hmoved
    exact (call_goes hnames hs hexisting).1
  | foundClosed =>
    obtain rfl := Option.some.inj hmoved
    exact hs.foundClosed

/-- In every run, over a file whose calls may fail and that may be found closed, each call goes as
it does on a map and uses the handle for its own block. -/
theorem refines_block_map {file : FileState Path} (hnames : NamesDistinct formatBlockFilename)
    (h : Reached (move formatBlockFilename) (NamesExisting formatBlockFilename) (initialise file) s)
    (call : DeviceCall) (answers : FileAnswers)
    (hexisting : NamesExisting formatBlockFilename s (.call call answers)) :
    Refines (blocks formatBlockFilename s)
        (blocks formatBlockFilename (s.call formatBlockFilename answers call).2) call answers
        (s.call formatBlockFilename answers call).1 ∧
      Always (UsesItsBlock formatBlockFilename)
        (s.call formatBlockFilename answers call).2.trace := by
  obtain ⟨hpaired, hrefines⟩ := call_goes hnames (paired_of_reached hnames h) hexisting
  exact ⟨hrefines, hpaired.uses⟩

/-! ## A run on fixed input -/

instance (s : FileBlockDevice Path) (move : Move) :
    Decidable (NamesExisting formatBlockFilename s move) :=
  match move with
  | .call call _ => inferInstanceAs (Decidable (call.namesExisting = true →
      call.block ≤ maxBlockIndex → (blocks formatBlockFilename s call.block).isSome = true))
  | .foundClosed => .isTrue trivial

/-- No call of the file fails but for a `SeekTo` where it is said to. -/
def seekingAnswers (seekFailure : Option Nat) : FileAnswers :=
  ⟨true, false, true, seekFailure, true, [], fun _ => 0, true, false, false⟩

/-- Each block is a file of its own number, and none is there. -/
def noFiles : FileBlockDevice Nat :=
  initialise ⟨fun _ => none, none⟩

/-- Two blocks are acquired and the second has two bytes; the file is found closed after that. -/
def twoBytesWritten : List Move :=
  [.call (.acquire 0) (seekingAnswers none), .call (.acquire 7) (seekingAnswers none),
    .call (.append 7 [1, 2]) (seekingAnswers none), .foundClosed]

theorem written_block_refines : ∃ s, runMoves (move id) (NamesExisting id) noFiles twoBytesWritten =
    some s ∧ blocks id s 7 = some [1, 2] ∧
      Refines (blocks id s) (blocks id (s.call id (seekingAnswers none) (.writeAt 7 1 [9])).2)
        (.writeAt 7 1 [9]) (seekingAnswers none) (.done true) := by
  have hrun : ∃ s, runMoves (move id) (NamesExisting id) noFiles twoBytesWritten = some s ∧
      blocks id s 7 = some [1, 2] ∧
      (s.call id (seekingAnswers none) (.writeAt 7 1 [9])).1 = .done true :=
    ⟨_, rfl, rfl, rfl⟩
  obtain ⟨s, hs, hblock, hanswer⟩ := hrun
  have hexisting : NamesExisting id s (.call (.writeAt 7 1 [9]) (seekingAnswers none)) :=
    fun _ _ => congrArg Option.isSome hblock
  have hnames : NamesDistinct (id : Nat → Nat) := fun _ _ _ _ h => h
  have hrefines := (refines_block_map hnames (Reached.of_runMoves hs)
    (.writeAt 7 1 [9]) (seekingAnswers none) hexisting).1
  rw [hanswer] at hrefines
  exact ⟨s, hs, hblock, hrefines⟩

/-- A `SeekTo` fails and leaves the position at the start, where the write that follows succeeds. -/
theorem failed_seek_writes_elsewhere : ¬ ∀ s : FileBlockDevice Nat,
    Reached (move id) (NamesExisting id) noFiles s → ∀ call answers,
      NamesExisting id s (.call call answers) → (s.call id answers call).1 ≠ call.refusal →
      blocks id (s.call id answers call).2 = (blocks id s).after answers.gap call := by
  intro hall
  have hrun : ∃ s, runMoves (move id) (NamesExisting id) noFiles twoBytesWritten = some s ∧
      blocks id s 7 = some [1, 2] ∧
      (s.call id (seekingAnswers (some 0)) (.writeAt 7 1 [9])).1 = .done true ∧
      blocks id (s.call id (seekingAnswers (some 0)) (.writeAt 7 1 [9])).2 7 = some [9, 2] :=
    ⟨_, rfl, rfl, rfl, rfl⟩
  obtain ⟨s, hs, hblock, hanswer, hafter⟩ := hrun
  have hmap := hall s (Reached.of_runMoves hs) (.writeAt 7 1 [9]) (seekingAnswers (some 0))
    (fun _ _ => congrArg Option.isSome hblock) (by rw [hanswer]; decide)
  rw [hmap] at hafter
  have hwritten : (blocks id s).after (seekingAnswers (some 0)).gap (.writeAt 7 1 [9]) 7 =
      some [1, 9] := by
    simp only [BlockMap.after, Function.update_self, hblock]
    rfl
  rw [hwritten] at hafter
  cases hafter

end FileBlockDevice

end SolidSyslog.FileDevice
