import SolidSyslog.FileDevice.BlockFilename
import SolidSyslog.FileDevice.BlockMap
import SolidSyslog.Store.CrashRecovery

/-!
# The block store on files

A store whose block device is the one on a file. Where no call of the file fails the device keeps
the media a store is given, whatever happens to its handle: so a store over files is a queue, under
the names the device forms.
-/

namespace SolidSyslog.FileDevice

open Lib Store FileBlockDevice

variable {Path : Type} {names : Nat → Path} {ε : Type}

/-! ## Any call of the device -/

/-- The path is no block's. -/
def NoBlock (names : Nat → Path) (path : Path) : Prop :=
  ∀ block ≤ maxBlockIndex, path ≠ names block

/-- The handle goes with its block, and no file but the blocks' has changed. -/
structure Within (names : Nat → Path) (s s' : FileBlockDevice Path) : Prop where
  paired : Paired names s'
  others : ∀ path, NoBlock names path → s'.file.media path = s.file.media path

section Handle

variable {s : FileBlockDevice Path} {answers : FileAnswers} {block : Nat}

theorem Within.of_beside {s' : FileBlockDevice Path} (hblock : block ≤ maxBlockIndex)
    (hpaired : Paired names s') (hbeside : Beside (names block) s.file s'.file) :
      Within names s s' :=
  ⟨hpaired, fun path hpath => hbeside path (hpath block hblock)⟩

variable [DecidableEq Path]

/-- A call that makes the handle ready and uses it for its block. -/
theorem within_validated {α : Type} (h : Paired names s) (refusal : α)
    (use : FileBlockDevice Path → α × FileBlockDevice Path)
    (huse : ∀ s', Using names block s' →
      Using names block (use s').2 ∧ Beside (names block) s'.file (use s').2.file) :
    Within names s (if isValidBlockIndex block then
      let ready := s.ensureHandleOpenOnBlock names answers block
      if ready.1 then use ready.2 else (refusal, ready.2)
    else (refusal, s)).2 := by
  by_cases hblock : block ≤ maxBlockIndex
  · rw [if_pos (isValidBlockIndex_iff.2 hblock)]
    have hready : Readied names block answers s _ := readied_ensureHandleOpenOnBlock h hblock
    dsimp only
    split
    · next hok =>
      obtain ⟨husing, hbeside⟩ := huse _ (hready.ready hok).1
      exact .of_beside hblock husing.paired (hready.beside.trans hbeside)
    · exact .of_beside hblock hready.paired hready.beside
  · rw [if_neg (mt isValidBlockIndex_iff.1 hblock)]
    exact ⟨h, fun _ _ => rfl⟩

theorem append_eq (s : FileBlockDevice Path) (answers : FileAnswers) (block : Nat) (bytes : Bytes) :
    s.append names answers block bytes = if isValidBlockIndex block then
      let ready := s.ensureHandleOpenOnBlock names answers block
      if ready.1 then
        let measured := ready.2.use block (ready.2.file.size answers).2
        (ready.2.file.size answers).1.elim (false, measured)
        (measured.writeTo answers block · bytes)
      else (false, ready.2)
    else (false, s) := by
  unfold FileBlockDevice.append
  dsimp only
  cases ((s.ensureHandleOpenOnBlock names answers block).2.file.size answers).1 with
  | some atEnd => rfl
  | none => rfl

theorem within_append (h : Paired names s) (bytes : Bytes) :
    Within names s (s.append names answers block bytes).2 := by
  rw [append_eq]
  refine within_validated h false (fun s =>
    let measured := s.use block (s.file.size answers).2
    (s.file.size answers).1.elim (false, measured) (measured.writeTo answers block · bytes)) ?_
  intro s' hs
  have hmeasured := hs.use (@On.size _ _ _ answers hs.on)
  have hsame : Beside (names block) s'.file (s'.file.size answers).2 :=
    fun path _ => congrFun (size_media s'.file answers) path
  dsimp only
  cases (s'.file.size answers).1 with
  | some atEnd =>
    obtain ⟨husing, hbeside⟩ := @Using.writeTo _ answers _ _ _ _ hmeasured atEnd bytes
    exact ⟨husing, hsame.trans hbeside⟩
  | none => exact ⟨hmeasured, hsame⟩

/-- Every call keeps the handle with its block and the files that are no block's, one of a block
that is not there as well. -/
theorem within_call (hnames : NamesDistinct names) (h : Paired names s) (call : DeviceCall) :
    Within names s (s.call names answers call).2 := by
  cases call with
  | acquire block =>
    refine within_validated h false (fun s => (true, s.use block s.file.truncate)) fun s' hs => ?_
    exact ⟨hs.use hs.on.truncate.1, hs.on.truncate.2⟩
  | dispose block =>
    refine ⟨(dispose_goes hnames h block).1, fun path hpath => ?_⟩
    unfold FileBlockDevice.call FileBlockDevice.dispose
    dsimp only
    split
    · next hvalid =>
      have hblock : block ≤ maxBlockIndex := isValidBlockIndex_iff.1 hvalid
      exact (@delete_beside _ answers _ _ _ path (hpath block hblock)).trans
        (congrFun closeIfHoldingBlock_media path)
    · rfl
  | blockExists block => exact ⟨h, fun _ _ => rfl⟩
  | read block offset count =>
    refine within_validated h none (·.readFrom answers block offset count) fun s' hs => ?_
    obtain ⟨husing, hmedia⟩ := @Using.readFrom _ answers _ _ _ hs offset count
    exact ⟨husing, beside_of_media hmedia _⟩
  | append block bytes => exact within_append h bytes
  | writeAt block offset bytes =>
    exact within_validated h false (·.writeTo answers block offset bytes) fun s' hs =>
      hs.writeTo offset bytes
  | size block =>
    refine within_validated h none
      (fun s => ((s.file.size answers).1, s.use block (s.file.size answers).2)) fun s' hs => ?_
    exact ⟨hs.use hs.on.size, fun path _ => congrFun (size_media s'.file answers) path⟩

end Handle

/-! ## The device as a store calls it -/

/-- What the file answers call by call, none of which fails, and before which calls it is found
closed. -/
structure HealthyFile where
  answers : Nat → FileAnswers
  foundClosed : Nat → Bool
  well : ∀ call, (answers call).Well

/-- Names of files that differ from block to block. -/
structure BlockNames (Path : Type) where
  name : Nat → Path
  distinct : NamesDistinct name

/-- A device whose open handle goes with its block, over a filesystem that has changed since
`original` in the blocks' files alone, with the calls it had so far, beside whatever else the store
calls. -/
structure BlockFiles (N : BlockNames Path) (original : Path → Option Bytes) (ε : Type) where
  device : FileBlockDevice Path
  calls : Nat
  others : ε
  paired : Paired N.name device
  besides : ∀ path, NoBlock N.name path → device.file.media path = original path

namespace BlockFiles

variable {N : BlockNames Path} {original : Path → Option Bytes}

/-- The device before its next call. -/
def found (F : HealthyFile) (w : BlockFiles N original ε) : FileBlockDevice Path :=
  if F.foundClosed w.calls then { w.device with file := w.device.file.close } else w.device

theorem found_media (F : HealthyFile) (w : BlockFiles N original ε) :
    (w.found F).file.media = w.device.file.media := by
  unfold found
  split
  · rfl
  · rfl

theorem paired_found (F : HealthyFile) (w : BlockFiles N original ε) :
    Paired N.name (w.found F) := by
  unfold found
  split
  · exact w.paired.foundClosed
  · exact w.paired

/-- `SolidSyslogFileBlockDevice_Initialise`, with no file open. -/
def initial (N : BlockNames Path) (original : Path → Option Bytes) (others : ε) :
    BlockFiles N original ε :=
  ⟨initialise ⟨original, none⟩, 0, others, paired_initialise _, fun _ _ => rfl⟩

/-- What is on the files. -/
def media (w : BlockFiles N original ε) : Media :=
  fun block => blocks N.name w.device block

theorem blocks_found (F : HealthyFile) (w : BlockFiles N original ε) :
    blocks N.name (w.found F) = blocks N.name w.device :=
  blocks_of_media (w.found_media F)

variable [DecidableEq Path]

/-- A call of the device. -/
def call (F : HealthyFile) (w : BlockFiles N original ε) (call : DeviceCall) :
    DeviceAnswer × BlockFiles N original ε :=
  let called := (w.found F).call N.name (F.answers w.calls) call
  have hwithin := within_call N.distinct (w.paired_found F) call
  (called.1, ⟨called.2, w.calls + 1, w.others, hwithin.paired, fun path hpath =>
    ((hwithin.others path hpath).trans (congrFun (w.found_media F) path)).trans
      (w.besides path hpath)⟩)

/-- A call of anything else. -/
def elsewhere (Q : Platform ε) (w : BlockFiles N original ε) (request : Request) :
    request.Answer × BlockFiles N original ε :=
  let answered := Q.answer request w.others
  (answered.1, { w with others := answered.2 })

/-- A call of a block that is there, or one that needs none, answers and does what a map does. -/
theorem call_refines (F : HealthyFile) (w : BlockFiles N original ε) (call : DeviceCall)
    (hblock : call.block ≤ maxBlockIndex)
    (hexisting : call.namesExisting = true → (blocks N.name w.device call.block).isSome = true) :
    (w.call F call).1 = (blocks N.name w.device).answer call ∧
      (call.onlyAsks = true → (w.call F call).2.media = w.media) ∧
      ((blocks N.name w.device).answer call ≠ call.refusal → (w.call F call).2.media =
        fun x : Sequence => (blocks N.name w.device).after (F.answers w.calls).gap call x) := by
  have hgoes : Goes N.name (w.found F) (F.answers w.calls) call := by
    refine call_goes N.distinct (w.paired_found F) fun hcall _ => ?_
    rw [blocks_found]
    exact hexisting hcall
  obtain ⟨-, hrefines⟩ := hgoes
  rw [blocks_found] at hrefines
  have hanswer := hrefines.works hblock (F.well _)
  refine ⟨hanswer, fun hasks => funext fun x => congrFun (hrefines.asks hasks) x,
    fun hsuccess => funext fun x => ?_⟩
  have hafter := hrefines.succeeds (fun _ => (F.well _).seeks) (by rw [hanswer]; exact hsuccess)
  exact congrFun hafter.2 x

end BlockFiles

/-! ## A store over files -/

section Platform

variable [DecidableEq Path] {N : BlockNames Path} {original : Path → Option Bytes}

def DeviceAnswer.isDone : DeviceAnswer → Bool
  | .done ok => ok
  | _ => false

def DeviceAnswer.read : DeviceAnswer → Option Bytes
  | .bytes read => read
  | _ => none

def DeviceAnswer.known : DeviceAnswer → Option Nat
  | .size known => known
  | _ => none

/-- What a store calls where its device is the one on files, and everything else is as given. -/
def onFiles (N : BlockNames Path) (F : HealthyFile) (Q : Platform ε) :
    Platform (BlockFiles N original ε) where
  answer
    | .acquire block, w => Prod.map (·.isDone) id (w.call F (.acquire block))
    | .dispose block, w => Prod.map (·.isDone) id (w.call F (.dispose block))
    | .blockExists block, w => Prod.map (·.isDone) id (w.call F (.blockExists block))
    | .read block offset count, w => Prod.map (·.read) id (w.call F (.read block offset count))
    | .append block bytes, w => Prod.map (·.isDone) id (w.call F (.append block bytes))
    | .writeAt block offset bytes, w =>
        Prod.map (·.isDone) id (w.call F (.writeAt block offset bytes))
    | .size block, w => Prod.map (·.known) id (w.call F (.size block))
    | .sealRecord content, w => w.elsewhere Q (.sealRecord content)
    | .openRecord content trailer, w => w.elsewhere Q (.openRecord content trailer)
    | .getDiscardPolicy, w => w.elsewhere Q .getDiscardPolicy
    | .getCapacityThreshold, w => w.elsewhere Q .getCapacityThreshold
    | .onThresholdCrossed, w => w.elsewhere Q .onThresholdCrossed
    | .report severity category error, w => w.elsewhere Q (.report severity category error)

theorem validBlock (block : Sequence) : (block : Nat) ≤ maxBlockIndex :=
  Nat.le_of_lt_succ block.isLt

/-- A map that changes at one block changes a media there. -/
theorem media_update {m : BlockMap} {block : Sequence} {content : Option Bytes} :
    (fun x : Sequence => Function.update m (block : Nat) content x) =
      Function.update (fun x : Sequence => m x) block content := by
  funext x
  by_cases hx : x = block
  · subst hx
    rw [Function.update_self, Function.update_self]
  · rw [Function.update_of_ne hx, Function.update_of_ne fun heq => hx (Fin.ext heq)]

/-- Bytes that fit a content are written over it. -/
theorem written_within {content bytes : Bytes} {offset : Nat} (gap : Nat → UInt8)
    (h : offset + bytes.length ≤ content.length) :
    written content offset bytes gap = overwrite content offset bytes := by
  have hnone : offset - content.length = 0 := by omega
  unfold written
  split
  · next hempty => simp [hempty, overwrite]
  · rw [hnone, List.range'_zero, List.map_nil, List.append_nil]

namespace BlockFiles

variable (F : HealthyFile) (w : BlockFiles N original ε) {block : Sequence} {content : Bytes}

theorem acquired (block : Sequence) : (w.call F (.acquire block)).1 = .done true ∧
    (w.call F (.acquire block)).2.media = w.media.after (.acquire block) := by
  obtain ⟨hanswer, -, hafter⟩ := w.call_refines F (.acquire block) (validBlock block) (by rintro ⟨⟩)
  exact ⟨hanswer, (hafter (by rintro ⟨⟩)).trans media_update⟩

theorem disposed (block : Sequence) : (w.call F (.dispose block)).1 = .done true ∧
    (w.call F (.dispose block)).2.media = w.media.after (.dispose block) := by
  obtain ⟨hanswer, -, hafter⟩ := w.call_refines F (.dispose block) (validBlock block) (by rintro ⟨⟩)
  exact ⟨hanswer, (hafter (by rintro ⟨⟩)).trans media_update⟩

theorem toldExists (block : Sequence) :
    (w.call F (.blockExists block)).1 = .done (w.media block).isSome ∧
      (w.call F (.blockExists block)).2.media = w.media := by
  obtain ⟨hanswer, hafter, -⟩ :=
    w.call_refines F (.blockExists block) (validBlock block) (by rintro ⟨⟩)
  exact ⟨hanswer, hafter rfl⟩

theorem gaveBytes (h : w.media block = some content) {offset count : Nat}
    (hwithin : offset + count ≤ content.length) :
    (w.call F (.read block offset count)).1 = .bytes (some (span content offset count)) ∧
      (w.call F (.read block offset count)).2.media = w.media := by
  have hcontent : blocks N.name w.device block = some content := h
  obtain ⟨hanswer, hafter, -⟩ := w.call_refines F (.read block offset count) (validBlock block)
    fun _ => congrArg Option.isSome hcontent
  have hbytes : (blocks N.name w.device).answer (.read block offset count) =
      .bytes (some (span content offset count)) := by
    have hroom : count ≤ content.length - offset := by omega
    simp only [BlockMap.answer, hcontent, Option.bind_some, if_pos hroom]
  exact ⟨hanswer.trans hbytes, hafter rfl⟩

theorem appended (h : w.media block = some content) (bytes : Bytes) :
    (w.call F (.append block bytes)).1 = .done true ∧
      (w.call F (.append block bytes)).2.media = w.media.after (.append block bytes) := by
  have hcontent : blocks N.name w.device block = some content := h
  obtain ⟨hanswer, -, hafter⟩ := w.call_refines F (.append block bytes) (validBlock block)
    fun _ => congrArg Option.isSome hcontent
  exact ⟨hanswer, (hafter (by rintro ⟨⟩)).trans media_update⟩

theorem wroteAt (h : w.media block = some content) {offset : Nat} {bytes : Bytes}
    (hwithin : offset + bytes.length ≤ content.length) :
    (w.call F (.writeAt block offset bytes)).1 = .done true ∧
      (w.call F (.writeAt block offset bytes)).2.media =
        w.media.after (.writeAt block offset bytes) := by
  have hcontent : blocks N.name w.device block = some content := h
  obtain ⟨hanswer, -, hafter⟩ := w.call_refines F (.writeAt block offset bytes) (validBlock block)
    fun _ => congrArg Option.isSome hcontent
  have hnew : (blocks N.name w.device block).map (written · offset bytes (F.answers w.calls).gap) =
      (w.media block).map (overwrite · offset bytes) := by
    rw [hcontent, h, Option.map_some, Option.map_some, written_within _ hwithin]
  exact ⟨hanswer, (hafter (by rintro ⟨⟩)).trans
    (media_update.trans (congrArg (Function.update w.media block) hnew))⟩

theorem toldSize (h : w.media block = some content) :
    (w.call F (.size block)).1 = .size (some content.length) ∧
      (w.call F (.size block)).2.media = w.media := by
  have hcontent : blocks N.name w.device block = some content := h
  obtain ⟨hanswer, hafter, -⟩ := w.call_refines F (.size block) (validBlock block)
    fun _ => congrArg Option.isSome hcontent
  have hknown : (blocks N.name w.device).answer (.size block) = .size (some content.length) := by
    simp only [BlockMap.answer, hcontent, Option.map_some]
  exact ⟨hanswer.trans hknown, hafter rfl⟩

end BlockFiles

/-- The device on files keeps the media it is given. -/
theorem onFiles_faithful (F : HealthyFile) (Q : Platform ε) :
    Faithful (onFiles N F Q) (fun w : BlockFiles N original ε => w.media) where
  after := by
    intro request w hcovers
    cases request with
    | acquire block =>
      obtain ⟨hanswer, hmedia⟩ := w.acquired F block
      change (w.call F (.acquire block)).2.media =
        Event.effect w.media (.call (.acquire block) (w.call F (.acquire block)).1.isDone)
      rw [hanswer]
      exact hmedia
    | dispose block =>
      obtain ⟨hanswer, hmedia⟩ := w.disposed F block
      change (w.call F (.dispose block)).2.media =
        Event.effect w.media (.call (.dispose block) (w.call F (.dispose block)).1.isDone)
      rw [hanswer]
      exact hmedia
    | blockExists block => exact (w.toldExists F block).2
    | read block offset count =>
      obtain ⟨content, hcontent, hwithin⟩ := hcovers
      exact (w.gaveBytes F hcontent hwithin).2.trans (ite_self _).symm
    | append block bytes =>
      obtain ⟨content, hcontent⟩ := Option.isSome_iff_exists.1 hcovers
      obtain ⟨hanswer, hmedia⟩ := w.appended F hcontent bytes
      change (w.call F (.append block bytes)).2.media =
        Event.effect w.media (.call (.append block bytes) (w.call F (.append block bytes)).1.isDone)
      rw [hanswer]
      exact hmedia
    | writeAt block offset bytes =>
      obtain ⟨content, hcontent, hwithin⟩ := hcovers
      obtain ⟨hanswer, hmedia⟩ := w.wroteAt F hcontent hwithin
      change (w.call F (.writeAt block offset bytes)).2.media =
        Event.effect w.media (.call (.writeAt block offset bytes)
          (w.call F (.writeAt block offset bytes)).1.isDone)
      rw [hanswer]
      exact hmedia
    | size block =>
      obtain ⟨content, hcontent⟩ := Option.isSome_iff_exists.1 hcovers
      exact (w.toldSize F hcontent).2.trans (ite_self _).symm
    | sealRecord content => rfl
    | openRecord content trailer => rfl
    | getDiscardPolicy => rfl
    | getCapacityThreshold => rfl
    | onThresholdCrossed => rfl
    | report severity category error => rfl
  acquire block w := congrArg DeviceAnswer.isDone (w.acquired F block).1
  blockExists block w := congrArg DeviceAnswer.isDone (w.toldExists F block).1
  read h hwithin := congrArg DeviceAnswer.read (BlockFiles.gaveBytes F _ h hwithin).1
  append block bytes w h := by
    obtain ⟨content, hcontent⟩ := Option.isSome_iff_exists.1 h
    exact congrArg DeviceAnswer.isDone (w.appended F hcontent bytes).1
  writeAt block offset bytes w h := by
    obtain ⟨content, hcontent, hwithin⟩ := h
    exact congrArg DeviceAnswer.isDone (w.wroteAt F hcontent hwithin).1
  size h := congrArg DeviceAnswer.known (BlockFiles.toldSize F _ h).1

theorem onFiles_disposesAlways (F : HealthyFile) (Q : Platform ε) :
    DisposesAlways (onFiles N F Q) (fun w : BlockFiles N original ε => w.media) :=
  fun block w _ => congrArg DeviceAnswer.isDone (w.disposed F block).1

theorem onFiles_sealsInPlace {F : HealthyFile} {Q : Platform ε} {C : Config}
    (h : SealsInPlace Q C) :
    SealsInPlace (onFiles N F Q : Platform (BlockFiles N original ε)) C where
  header hsealed := h.header hsealed
  opens hsealed env' := h.opens hsealed env'.others

end Platform

/-! ## The names the device forms -/

/-- A path prefix of which no more is written than the names leave room for. -/
structure PathPrefix (maxPathSize : MaxPathSize) where
  bytes : Bytes
  fits : (writtenPrefix maxPathSize bytes).length ≤ maxPrefixLength maxPathSize

def PathPrefix.blockNames {maxPathSize : MaxPathSize} (pathPrefix : PathPrefix maxPathSize) :
    BlockNames Bytes where
  name := formatBlockFilename maxPathSize pathPrefix.bytes
  distinct i hi j hj hsame := by
    rw [name_of_fits pathPrefix.fits hi, name_of_fits pathPrefix.fits hj] at hsame
    exact nameEnd_inj hi hj (List.append_cancel_left hsame)

/-! ## Runs -/

/-- Every sequence of calls returns, and is answered as a queue may answer it. -/
def ServesAs {σ : Type} (P : Platform σ) (C : Config) (s : BlockStore σ) (q : FifoQueue) : Prop :=
  ∀ {ops : List (BlockStore.Op C)}, (∀ op ∈ ops, BlockStore.IsQueueCall op) →
    (∃ observed s', Run (BlockStore.Returns P) s ops observed s') ∧
    ∀ {observed s'}, Run (BlockStore.Returns P) s ops observed s' →
      ∃ q', Run FifoQueue.Allows q ops observed q'

theorem servesAs_of_queues {σ : Type} {P : Platform σ} {C : Config} {media : σ → Media} {m₀ : Media}
    {s : BlockStore σ} {q : FifoQueue} (hP : Faithful P media) (hdispose : DisposesAlways P media)
    (hpolicy : SealsInPlace P C) (h : s.Queues P C media m₀ q) : ServesAs P C s q :=
  fun hops => ⟨h.exists_run hP hdispose hpolicy hops,
    fun hrun => h.allows hP hdispose hpolicy hops hrun⟩

/-- A store started on an empty device is an empty queue. -/
theorem created_queues {σ : Type} {P : Platform σ} {C : Config} {media : σ → Media}
    (hP : Faithful P media)
    (hdispose : DisposesAlways P media) {env : σ} (hempty : ∀ x, media env x = none) :
    (BlockStore.created P C env).Queues P C media (media env) .empty := by
  obtain ⟨V, hcreated, hs⟩ := BlockStore.created_sees (C := C) hP hdispose env
  obtain ⟨S, hholds, hnone, hunread⟩ := hcreated.holds_empty hempty
  refine ⟨V, hs, hcreated.sound, hcreated.hasRoom ⟨0, hempty 0⟩, S, hholds, ?_, ?_⟩
  · rw [hnone]
    exact fun _ he => absurd he List.not_mem_nil
  · rw [hnone, hunread]
    rfl

section Runs

variable {maxPathSize : MaxPathSize} {pathPrefix : PathPrefix maxPathSize}
  {original : Bytes → Option Bytes} {F : HealthyFile} {Q : Platform ε} {C : Config}

end Runs

/-- No call of the file fails, and every call finds it closed. -/
def closedEachTime : HealthyFile :=
  ⟨fun _ => seekingAnswers none, fun _ => true, fun _ => ⟨rfl, rfl, rfl, rfl, rfl⟩⟩

/-- "b". -/
def onePrefix : PathPrefix .byDefault :=
  ⟨[98], by decide +kernel⟩

def noFileYet : BlockFiles onePrefix.blockNames (fun _ => none) Media :=
  .initial _ _ .empty

/-- A store on no files yet, over the Null security policy. -/
def storeOnFiles : Platform (BlockFiles onePrefix.blockNames (fun _ => none) Media) :=
  onFiles onePrefix.blockNames closedEachTime (ramDevice .oldest)

/-- It has kept a record of one byte. -/
def keptOnFiles : BlockStore (BlockFiles onePrefix.blockNames (fun _ => none) Media) :=
  (BlockStore.perform storeOnFiles (C := .small) 0 (.write (.one 65))
    (BlockStore.created storeOnFiles .small noFileYet)).2

end SolidSyslog.FileDevice
