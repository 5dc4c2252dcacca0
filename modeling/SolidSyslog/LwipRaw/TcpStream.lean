import SolidSyslog.Basic
import SolidSyslog.Lib.Handles
import SolidSyslog.Lib.Interleaving
import SolidSyslog.Lib.Ring

/-!
# The TCP stream over lwIP's raw API

`SolidSyslogLwipRawTcpStream.c`. The stream's calls run on the caller's thread, the hops they
marshal and the callbacks of lwIP on lwIP's. Each read of a field on the caller's thread, each hop
and each callback is one move; lwIP calls back for the pcbs that still have the stream as their
argument.
-/

namespace SolidSyslog.LwipRaw

open Lib

/-- `err_t`, as far as the stream tells its values apart. -/
inductive LwipErr where
  | ok
  | mem
  | other
  deriving DecidableEq

/-- The tunables of the connect wait. -/
structure TcpConfig where
  pollMs : UInt32
  timeoutMsMax : UInt32

/-- A chain of pbufs. Its `tot_len` is the sum of its links. -/
structure Chain where
  links : List Bytes
  fits : links.flatten.length < 65536

def Chain.payload (c : Chain) : Bytes :=
  c.links.flatten

def Chain.totLen (c : Chain) : Nat :=
  c.payload.length

/-- `pbuf_copy_partial`: what it copies. -/
def Chain.copyPartial (c : Chain) (length offset : Nat) : Bytes :=
  (c.payload.drop offset).take length

/-- A chain the stream has accepted, with its place among all it has accepted. -/
structure Pbuf where
  number : Nat
  chain : Chain

/-- A call of lwIP with the pcb it is made with, or lwIP's release of a pcb around `tcp_err`. -/
inductive TcpEvent where
  | new (pcb : Nat)
  | connect (pcb : Option Nat) (err : LwipErr)
  | write (pcb : Option Nat) (data : Bytes) (err : LwipErr)
  | output (pcb : Option Nat) (err : LwipErr)
  | recved (pcb : Option Nat) (length : Nat)
  | close (pcb : Option Nat) (err : LwipErr)
  | abort (pcb : Option Nat)
  | err (pcb : Nat)
  deriving DecidableEq

/-- What lwIP's calls do with pcbs. -/
def pcbs : Handling TcpEvent Nat where
  obtains
    | .new pcb => some pcb
    | _ => none
  uses
    | .new _ | .err _ => none
    | .connect pcb _ | .write pcb _ _ | .output pcb _ | .recved pcb _ | .close pcb _ | .abort pcb =>
      some pcb
  releases
    | .close pcb .ok | .abort pcb => pcb
    | .err pcb => some pcb
    | _ => none

/-- What a call has returned. -/
inductive TcpAnswer where
  | opened (ok : Bool)
  | sent (ok : Bool)
  | read (data : Option Bytes)
  | closed
  deriving DecidableEq

/-- Where the caller's thread is: between two calls, before a hop or before the next field it
reads. -/
inductive TcpCaller where
  | idle (last : Option TcpAnswer)
  | openHop
  | readConnected (elapsedMs deadlineMs : UInt32)
  | readErrored (elapsedMs deadlineMs : UInt32)
  | waited
  | abortHop
  | sendErrored (data : Bytes)
  | sendHop (data : Bytes)
  | readQueued (size : Nat)
  | readEnded (size : Nat)
  | readHop (size : Nat)
  | closeQueued
  | closeHop
  deriving DecidableEq

/-- `struct SolidSyslogLwipRawTcpStream`, where its caller is, the pcbs whose argument it is, and
what has happened so far: the calls of lwIP, the chains accepted and on which pcb, those freed,
whether its caller takes it to be open, the pcb of the last attempt to connect and that of the last
one that succeeded, and since then what was read and from which chain. -/
structure TcpStream (n : Nat) where
  pcb : Option Nat
  connected : Bool
  errored : Bool
  rxQueue : Ring Pbuf n
  rxHeadOffset : Nat
  caller : TcpCaller
  attached : List Nat
  trace : List TcpEvent
  accepted : List (Nat × Pbuf)
  freed : List Nat
  takenOpen : Bool
  attempt : Option Nat
  connection : Option Nat
  received : Bytes
  readFrom : List (Option Nat × Pbuf)

/-- What lwIP and the integrator's getter answer in a step of the caller's thread. -/
structure Outside where
  pcbCreated : Bool
  connect : LwipErr
  write : LwipErr
  output : LwipErr
  close : LwipErr
  timeoutMs : UInt32

/-- What either thread can do next. -/
inductive TcpMove where
  | openStream
  | send (data : Bytes)
  | read (size : Nat)
  | close
  | goOn (outside : Outside)
  | connectedCallback (pcb : Nat) (err : LwipErr)
  | recvCallback (pcb : Nat) (p : Option Chain)
  | errCallback (pcb : Nat)

namespace TcpStream

variable {n : Nat}

def emit (s : TcpStream n) (event : TcpEvent) : TcpStream n :=
  { s with trace := s.trace ++ [event] }

/-- The call returns, and its caller takes the stream to be open or closed accordingly. -/
def answer (s : TcpStream n) (a : TcpAnswer) : TcpStream n :=
  { s with
    caller := .idle (some a)
    takenOpen := match a with
      | .opened ok => ok
      | .sent false | .read none | .closed => false
      | .sent true | .read (some _) => s.takenOpen }

/-- An `Open` returns true: what is read from now on is read on its connection. -/
def openSucceeds (s : TcpStream n) : TcpStream n :=
  { s.answer (.opened true) with connection := s.attempt, received := [] }

/-- A call begins with the read of `Pcb`. -/
def start (s : TcpStream n) (isOpen isClosed : TcpStream n) : Option (TcpStream n) :=
  match s.caller with
  | .idle _ => if s.pcb.isSome then some isOpen else some isClosed
  | _ => none

/-- A call begins between two calls, and goes by whether there is a pcb. -/
theorem start_cases {s s' isOpen isClosed : TcpStream n} (h : s.start isOpen isClosed = some s') :
    (∃ last, s.caller = .idle last) ∧
      ((∃ pcb, s.pcb = some pcb) ∧ s' = isOpen ∨ s.pcb = none ∧ s' = isClosed) := by
  unfold start at h
  split at h
  · next last hcaller =>
    refine ⟨⟨last, hcaller⟩, ?_⟩
    cases hpcb : s.pcb with
    | some pcb =>
      rw [hpcb] at h
      exact .inl ⟨⟨pcb, rfl⟩, (Option.some.inj h).symm⟩
    | none =>
      rw [hpcb] at h
      exact .inr ⟨rfl, (Option.some.inj h).symm⟩
  · cases h

/-- lwIP calls back for a pcb whose argument the stream is. -/
def called (s : TcpStream n) (pcb : Nat) (s' : TcpStream n) : Option (TcpStream n) :=
  if pcb ∈ s.attached then some s' else none

theorem called_cases {s s' told : TcpStream n} {pcb : Nat} (h : s.called pcb told = some s') :
    pcb ∈ s.attached ∧ told = s' := by
  unfold called at h
  split at h
  · next hattached => exact ⟨hattached, Option.some.inj h⟩
  · cases h

/-- `tcp_new` gives a pcb that was never given before. -/
def freshPcb (s : TcpStream n) : Nat :=
  (pcbs.obtained s.trace).length

/-- `LwipRawTcpStream_DetachPcb`. -/
def detachPcb (s : TcpStream n) (pcb : Nat) : TcpStream n :=
  { s with attached := s.attached.erase pcb }

def pbufFree (s : TcpStream n) (p : Pbuf) : TcpStream n :=
  { s with freed := s.freed ++ [p.number] }

/-- `LwipRawTcpStream_DoOpenAndConnect`. -/
def doOpenAndConnect (s : TcpStream n) (outside : Outside) : TcpStream n :=
  if outside.pcbCreated then
    let pcb := s.freshPcb
    let s := { s.emit (.new pcb) with
      pcb := some pcb
      attached := pcb :: s.attached
      attempt := some pcb
      connected := false
      errored := false }
    s.emit (.connect s.pcb outside.connect)
  else { s with pcb := none }

/-- `LwipRawTcpStream_DoAbort`. -/
def doAbort (s : TcpStream n) : TcpStream n :=
  match s.pcb with
  | some pcb => { (s.detachPcb pcb).emit (.abort (some pcb)) with pcb := none }
  | none => s

variable [NeZero n]

/-- The loop of `LwipRawTcpStream_DrainAllQueuedPbufs`, where that many pbufs are queued. -/
def drainQueued (s : TcpStream n) : Nat → TcpStream n
  | 0 => s
  | queued + 1 =>
    match s.rxQueue.front with
    | some p => drainQueued { s.pbufFree p with rxQueue := s.rxQueue.dequeue } queued
    | none => drainQueued { s with rxQueue := s.rxQueue.dequeue } queued

/-- `LwipRawTcpStream_DrainAllQueuedPbufs`. -/
def drainAllQueuedPbufs (s : TcpStream n) : TcpStream n :=
  { s.drainQueued s.rxQueue.count with rxHeadOffset := 0 }

/-- `LwipRawTcpStream_ClosePcb`. -/
def closePcb (s : TcpStream n) (outside : Outside) : TcpStream n :=
  let s := s.drainAllQueuedPbufs
  match s.pcb with
  | some pcb =>
    let s := ({ s with pcb := none }.detachPcb pcb).emit (.close (some pcb) outside.close)
    if outside.close = .ok then s else s.emit (.abort (some pcb))
  | none => s

/-- `LwipRawTcpStream_SendOrCloseOnFailure`. -/
def sendOrCloseOnFailure (s : TcpStream n) (data : Bytes) (outside : Outside) :
    Bool × TcpStream n :=
  let s := s.emit (.write s.pcb (data.take (toUint16 data.length)) outside.write)
  if outside.write = .ok then
    let s := s.emit (.output s.pcb outside.output)
    if outside.output = .ok ∨ outside.output = .mem then (true, s) else (false, s.closePcb outside)
  else (false, s.closePcb outside)

/-- What `LwipRawTcpStream_DrainHeadBytes` copies out of the head. -/
def copyHead (s : TcpStream n) (head : Pbuf) (size : Nat) : Bytes :=
  let available := head.chain.totLen - s.rxHeadOffset
  let toCopy := if size < available then size else available
  head.chain.copyPartial (toUint16 toCopy) (toUint16 s.rxHeadOffset)

/-- `LwipRawTcpStream_DrainHeadBytes`. -/
def drainHeadBytes (s : TcpStream n) (size : Nat) : Bytes × TcpStream n :=
  match s.rxQueue.front with
  | some head =>
    let copied := s.copyHead head size
    let s := { s with
      rxHeadOffset := s.rxHeadOffset + copied.length
      received := s.received ++ copied
      readFrom := s.readFrom ++ [(s.connection, head)] }
    if head.chain.totLen ≤ s.rxHeadOffset then
      (copied, { s.pbufFree head with rxQueue := s.rxQueue.dequeue, rxHeadOffset := 0 })
    else (copied, s)
  | none => ([], s)

/-- `LwipRawTcpStream_DoRead`. -/
def doRead (s : TcpStream n) (size : Nat) (outside : Outside) : TcpStream n :=
  if 0 < s.rxQueue.count then
    let (copied, s) := s.drainHeadBytes size
    (s.emit (.recved s.pcb (toUint16 copied.length))).answer (.read (some copied))
  else (s.closePcb outside).answer (.read none)

/-- `LwipRawTcpStream_ResolveConnectTimeoutMs`. -/
def resolveConnectTimeoutMs (C : TcpConfig) (ms : UInt32) : UInt32 :=
  if ms > C.timeoutMsMax then C.timeoutMsMax else ms

/-- The next step of the caller's thread within a call. -/
def goOn (C : TcpConfig) (s : TcpStream n) (outside : Outside) : Option (TcpStream n) :=
  match s.caller with
  | .idle _ => none
  | .openHop =>
    let s := s.doOpenAndConnect outside
    if outside.pcbCreated then
      if outside.connect = .ok then
        some { s with caller := .readConnected 0 (resolveConnectTimeoutMs C outside.timeoutMs) }
      else some { s with caller := .abortHop }
    else some (s.answer (.opened false))
  | .readConnected elapsedMs deadlineMs =>
    if s.connected then some { s with caller := .waited }
    else some { s with caller := .readErrored elapsedMs deadlineMs }
  | .readErrored elapsedMs deadlineMs =>
    if s.errored ∨ ¬ elapsedMs < deadlineMs then some { s with caller := .waited }
    else some { s with caller := .readConnected (elapsedMs + C.pollMs) deadlineMs }
  | .waited =>
    if s.connected then some s.openSucceeds else some { s with caller := .abortHop }
  | .abortHop => some (s.doAbort.answer (.opened false))
  | .sendErrored data =>
    if s.errored then some (s.answer (.sent false)) else some { s with caller := .sendHop data }
  | .sendHop data =>
    let (ok, s) := s.sendOrCloseOnFailure data outside
    some (s.answer (.sent ok))
  | .readQueued size =>
    if 0 < s.rxQueue.count then some { s with caller := .readHop size }
    else some { s with caller := .readEnded size }
  | .readEnded size =>
    if s.errored then some { s with caller := .readHop size }
    else some (s.answer (.read (some [])))
  | .readHop size => some (s.doRead size outside)
  | .closeQueued =>
    if 0 < s.rxQueue.count then some { s with caller := .closeHop } else some (s.answer .closed)
  | .closeHop => some ((s.closePcb outside).answer .closed)

/-- `LwipRawTcpStream_ConnectedCallback`. -/
def connectedCallback (s : TcpStream n) (err : LwipErr) : TcpStream n :=
  if err = .ok then { s with connected := true } else { s with errored := true }

/-- `LwipRawTcpStream_RecvCallback`. -/
def recvCallback (s : TcpStream n) (pcb : Nat) (p : Option Chain) : TcpStream n :=
  match p with
  | none => { s with errored := true }
  | some chain =>
    if n ≤ s.rxQueue.count then s
    else { s with
      rxQueue := s.rxQueue.enqueue ⟨s.accepted.length, chain⟩
      accepted := s.accepted ++ [(pcb, ⟨s.accepted.length, chain⟩)] }

/-- `LwipRawTcpStream_ErrCallback`, around which lwIP releases the pcb. -/
def errCallback (s : TcpStream n) (pcb : Nat) : TcpStream n :=
  { s.emit (.err pcb) with attached := s.attached.erase pcb, pcb := none, errored := true }

/-- One move, if it is possible. -/
def move (C : TcpConfig) (s : TcpStream n) : TcpMove → Option (TcpStream n)
  | .openStream => s.start (s.answer (.opened false)) { s with caller := .openHop }
  | .send data => s.start { s with caller := .sendErrored data } (s.answer (.sent false))
  | .read size => s.start { s with caller := .readQueued size } (s.answer (.read none))
  | .close => s.start { s with caller := .closeHop } { s with caller := .closeQueued }
  | .goOn outside => s.goOn C outside
  | .connectedCallback pcb err => s.called pcb (s.connectedCallback err)
  | .recvCallback pcb p => s.called pcb (s.recvCallback pcb p)
  | .errCallback pcb => s.called pcb (s.errCallback pcb)

/-- The caller's thread waits for its connection. -/
def IsWaiting : TcpCaller → Prop
  | .readConnected .. | .readErrored .. | .waited => True
  | _ => False

/-- What a step of the caller's thread does, by where it stands. -/
inductive WentOn (s : TcpStream n) (outside : Outside) : TcpStream n → Prop
  | setUp (stands : s.caller = .openHop) (created : outside.pcbCreated = true) {next : TcpCaller}
      (goes : IsWaiting next ∨ next = .abortHop) :
      WentOn s outside { s.doOpenAndConnect outside with caller := next }
  | notSetUp (stands : s.caller = .openHop) (failed : ¬ outside.pcbCreated = true) :
      WentOn s outside ((s.doOpenAndConnect outside).answer (.opened false))
  | waits (stands : IsWaiting s.caller) {next : TcpCaller} (goes : IsWaiting next) :
      WentOn s outside { s with caller := next }
  | opens (stands : s.caller = .waited) : WentOn s outside s.openSucceeds
  | givesUp (stands : s.caller = .waited) : WentOn s outside { s with caller := .abortHop }
  | aborts (stands : s.caller = .abortHop) : WentOn s outside (s.doAbort.answer (.opened false))
  | findsErrored {data : Bytes} (stands : s.caller = .sendErrored data) :
      WentOn s outside (s.answer (.sent false))
  | findsWell {data : Bytes} (stands : s.caller = .sendErrored data) (well : ¬ s.errored = true) :
      WentOn s outside { s with caller := .sendHop data }
  | sends {data : Bytes} (stands : s.caller = .sendHop data) :
      WentOn s outside ((s.sendOrCloseOnFailure data outside).2.answer
        (.sent (s.sendOrCloseOnFailure data outside).1))
  | looks {size : Nat} (stands : s.caller = .readQueued size ∨ s.caller = .readEnded size)
      {next : TcpCaller} (goes : next = .readEnded size ∨ next = .readHop size) :
      WentOn s outside { s with caller := next }
  | readsNothing {size : Nat} (stands : s.caller = .readEnded size) :
      WentOn s outside (s.answer (.read (some [])))
  | reads {size : Nat} (stands : s.caller = .readHop size) :
      WentOn s outside (s.doRead size outside)
  | findsQueued (stands : s.caller = .closeQueued) : WentOn s outside { s with caller := .closeHop }
  | findsNothing (stands : s.caller = .closeQueued) (empty : s.rxQueue.count = 0) :
      WentOn s outside (s.answer .closed)
  | closes (stands : s.caller = .closeHop) : WentOn s outside ((s.closePcb outside).answer .closed)

theorem goOn_cases {s s' : TcpStream n} {C : TcpConfig} {outside : Outside}
    (h : s.goOn C outside = some s') : WentOn s outside s' := by
  unfold goOn at h
  split at h
  · cases h
  · next stands =>
    dsimp only at h
    split at h
    · next created =>
      split at h
      · cases h
        exact .setUp stands created (.inl trivial)
      · cases h
        exact .setUp stands created (.inr rfl)
    · next failed =>
      cases h
      exact .notSetUp stands failed
  · next stands =>
    split at h
    · cases h
      exact .waits (by rw [stands]; trivial) trivial
    · cases h
      exact .waits (by rw [stands]; trivial) trivial
  · next stands =>
    split at h
    · cases h
      exact .waits (by rw [stands]; trivial) trivial
    · cases h
      exact .waits (by rw [stands]; trivial) trivial
  · next stands =>
    split at h
    · cases h
      exact .opens stands
    · cases h
      exact .givesUp stands
  · next stands =>
    cases h
    exact .aborts stands
  · next stands =>
    split at h
    · cases h
      exact .findsErrored stands
    · next well =>
      cases h
      exact .findsWell stands well
  · next stands =>
    cases h
    exact .sends stands
  · next stands =>
    split at h
    · cases h
      exact .looks (.inl stands) (.inr rfl)
    · cases h
      exact .looks (.inl stands) (.inl rfl)
  · next stands =>
    split at h
    · cases h
      exact .looks (.inr stands) (.inr rfl)
    · cases h
      exact .readsNothing stands
  · next stands =>
    cases h
    exact .reads stands
  · next stands =>
    split at h
    · cases h
      exact .findsQueued stands
    · next hnone =>
      cases h
      exact .findsNothing stands (Nat.eq_zero_of_not_pos hnone)
  · next stands =>
    cases h
    exact .closes stands

/-- A stream that was never opened. -/
def initial : TcpStream n where
  pcb := none
  connected := false
  errored := false
  rxQueue := .empty
  rxHeadOffset := 0
  caller := .idle none
  attached := []
  trace := []
  accepted := []
  freed := []
  takenOpen := false
  attempt := none
  connection := none
  received := []
  readFrom := []

end TcpStream

end SolidSyslog.LwipRaw
