import SolidSyslog.Event
import SolidSyslog.Lib.Interleaving
import SolidSyslog.Lib.Latch
import SolidSyslog.Lib.Trace

/-!
# The sender over several senders

`SolidSyslogSwitchingSender.c`. A selector names the sender of each record by its place in an array
of the integrator's; leaving a sender disconnects it, and a place beyond the array stands for the
null sender. The senders behind it are of any kind: a vtable says what a call of one answers and
leaves.
-/

namespace SolidSyslog.Sender

open Lib

/-- `struct SolidSyslogSender`: what a call leaves of a sender, for what is answered to it. -/
structure Vtable (σ ω : Type) where
  send : σ → Bytes → ω → Bool × σ
  disconnect : σ → σ

/-- A call of a sender through its vtable. -/
inductive VtableCall (ω : Type) where
  | send (record : Bytes) (answers : ω)
  | disconnect

def Vtable.call {σ ω : Type} (V : Vtable σ ω) (s : σ) : VtableCall ω → Option σ
  | .send record answers => some (V.send s record answers).2
  | .disconnect => some (V.disconnect s)

/-- What the switch does. A sender that is not there is the null sender. -/
inductive SwitchEvent (ι : Type) where
  | selected (sender : Option ι) (inRange : Bool)
  | reported (event : ErrorEvent)
  | disconnected (sender : Option ι)
  | sent (sender : Option ι) (record : Bytes) (ok : Bool)
  deriving DecidableEq

/-- `struct SolidSyslogSwitchingSender`, the senders its array names, and what it has done so
far. -/
structure SwitchingSender (ι σ : Type) where
  senders : List (Option ι)
  inner : ι → σ
  currentSender : Option ι
  outOfRangeReported : Bool
  trace : List (SwitchEvent ι)

namespace SwitchingSender

variable {ι σ ω : Type} [DecidableEq ι] (V : Vtable σ ω) (s : SwitchingSender ι σ)

/-- `SOLIDSYSLOG_SWITCHING_SENDER_ERROR_SELECTOR_OUT_OF_RANGE`, as it is raised. -/
def selectorOutOfRange : ErrorEvent :=
  ⟨.critical, .senderRecordsLost, false, "SwitchingSender", 7, 0⟩

/-- `SolidSyslogSwitchingSender_Initialise`. -/
def initial (senders : List (Option ι)) (inner : ι → σ) : SwitchingSender ι σ :=
  ⟨senders, inner, none, false, []⟩

def emit (event : SwitchEvent ι) : SwitchingSender ι σ :=
  { s with trace := s.trace ++ [event] }

/-- `SwitchingSender_ReportOutOfRange`. -/
def reportOutOfRange : SwitchingSender ι σ :=
  if !s.outOfRangeReported then
    { s.emit (.reported selectorOutOfRange) with outOfRangeReported := true }
  else s

/-- `SwitchingSender_RequestedSender`, for what the selector answers. -/
def requestedSender (index : UInt8) : Option ι × SwitchingSender ι σ :=
  if index.toNat < s.senders.length then
    let requested := s.senders.getD index.toNat none
    (requested, { s.emit (.selected requested true) with outOfRangeReported := false })
  else
    (none, (s.emit (.selected none false)).reportOutOfRange)

/-- `SolidSyslogSender_Disconnect` on one of the senders. -/
def disconnectSender (sender : Option ι) : SwitchingSender ι σ :=
  let s := s.emit (.disconnected sender)
  match sender with
  | some i => { s with inner := Function.update s.inner i (V.disconnect (s.inner i)) }
  | none => s

@[simp] theorem currentSender_disconnectSender (sender : Option ι) :
    (s.disconnectSender V sender).currentSender = s.currentSender := by
  cases sender <;> rfl

@[simp] theorem trace_disconnectSender (sender : Option ι) :
    (s.disconnectSender V sender).trace = s.trace ++ [.disconnected sender] := by
  cases sender <;> rfl

/-- `SwitchingSender_SenderChanged`. -/
def senderChanged (requested : Option ι) : Bool :=
  requested ≠ s.currentSender

/-- `SwitchingSender_SwitchTo`. -/
def switchTo (newCurrent : Option ι) : SwitchingSender ι σ :=
  { s.disconnectSender V s.currentSender with currentSender := newCurrent }

/-- `SwitchingSender_SelectSender`. -/
def selectSender (index : UInt8) : SwitchingSender ι σ :=
  let requested := s.requestedSender index
  if requested.2.senderChanged requested.1 then requested.2.switchTo V requested.1 else requested.2

/-- `SolidSyslogSender_Send` on one of the senders; `NullSender_Send` answers true. -/
def sendThrough (sender : Option ι) (record : Bytes) (answers : ω) : Bool × SwitchingSender ι σ :=
  match sender with
  | some i =>
    let sent := V.send (s.inner i) record answers
    (sent.1, { s.emit (.sent sender record sent.1) with inner := Function.update s.inner i sent.2 })
  | none => (true, s.emit (.sent none record true))

/-- `SwitchingSender_Send`. -/
def send (record : Bytes) (index : UInt8) (answers : ω) : Bool × SwitchingSender ι σ :=
  let s := s.selectSender V index
  s.sendThrough V s.currentSender record answers

/-- `SwitchingSender_Disconnect`. -/
def disconnect : SwitchingSender ι σ :=
  s.disconnectSender V s.currentSender

/-- A call of the switch, with what the selector and everything behind the sender answer, or the
integrator replaces elements of its array. -/
inductive Move (ι ω : Type) where
  | send (record : Bytes) (index : UInt8) (answers : ω)
  | disconnect
  | rewire (senders : List (Option ι))

def move : Move ι ω → Option (SwitchingSender ι σ)
  | .send record index answers => some (s.send V record index answers).2
  | .disconnect => some (s.disconnect V)
  | .rewire senders =>
      if senders.length = s.senders.length then some { s with senders := senders } else none

/-! ## What a run shows -/

/-- The records that went through a sender, with what their `Send` answered. -/
def handedTo (t : List (SwitchEvent ι)) (i : ι) : List (Bytes × Bool) :=
  t.filterMap fun
    | .sent (some j) record ok => if j = i then some (record, ok) else none
    | _ => none

/-- What an entry says of the run of selectors out of range. -/
def observation : SwitchEvent ι → Option Observation
  | .selected _ true => some .clear
  | .selected _ false => some .fault
  | .reported _ => some .report
  | _ => none

end SwitchingSender

end SolidSyslog.Sender
