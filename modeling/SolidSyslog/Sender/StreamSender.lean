import SolidSyslog.Event
import SolidSyslog.Format.Formatter
import SolidSyslog.Lib.Interleaving
import SolidSyslog.Lib.Trace

/-!
# The sender over a stream

`SolidSyslogStreamSender.c`. The sender keeps one connection of its stream open across sends, closes
it when either configuration moves and on the first stream send that fails, and sends each record
behind its length. The trace lists its calls of the stream and of the version getters.
-/

namespace SolidSyslog.Sender

open Format Lib

/-- A call the sender makes, or the start or end of one of its own. Of a stream send that fails some
first bytes may have gone out. -/
inductive StreamEvent where
  | called (record : Bytes)
  | versions (endpoint stream : UInt32)
  | opened (ok : Bool)
  | sent (asked put : Bytes) (ok : Bool)
  | closed
  | returned (ok : Bool)
  deriving DecidableEq

/-- `struct SolidSyslogStreamSender`, with what it has called and reported so far. -/
structure StreamSender where
  connected : Bool
  deliveryHealthy : Bool
  lastEndpointVersion : UInt32
  lastStreamVersion : UInt32
  trace : List StreamEvent
  events : List ErrorEvent

/-- What the getters, the resolver and the stream answer in one `Send`. A stream send that fails
puts out that many bytes. -/
structure SendAnswers where
  endpointVersion : UInt32
  streamVersion : UInt32
  resolved : Bool
  opened : Bool
  lengthFails : Option Nat
  recordFails : Option Nat

/-- The calls of a sender. -/
inductive SenderCall where
  | send (record : Bytes) (answers : SendAnswers)
  | disconnect

namespace StreamSender

/-- `OCTET_COUNTING_PREFIX_CAPACITY`. -/
def octetCountingCapacity : Nat :=
  12

/-- `SolidSyslogStreamSender_Initialise`. -/
def initial : StreamSender :=
  ⟨false, true, 0, 0, [], []⟩

def emit (s : StreamSender) (event : StreamEvent) : StreamSender :=
  { s with trace := s.trace ++ [event] }

/-- `StreamSender_CloseStream`. -/
def closeStream (s : StreamSender) : StreamSender :=
  { s.emit .closed with connected := false }

/-- `StreamSender_Disconnect`. -/
def disconnect (s : StreamSender) : StreamSender :=
  if s.connected then s.closeStream else s

/-- `StreamSender_ConfigurationMoved`. -/
def configurationMoved (s : StreamSender) (endpointVersion streamVersion : UInt32) : Bool :=
  endpointVersion ≠ s.lastEndpointVersion || streamVersion ≠ s.lastStreamVersion

/-- `StreamSender_DisconnectIfStale`. -/
def disconnectIfStale (s : StreamSender) (answers : SendAnswers) : StreamSender :=
  let s := s.emit (.versions answers.endpointVersion answers.streamVersion)
  if s.configurationMoved answers.endpointVersion answers.streamVersion then
    { s.disconnect with
      lastEndpointVersion := answers.endpointVersion
      lastStreamVersion := answers.streamVersion }
  else s

/-- `StreamSender_Connect`. -/
def connect (s : StreamSender) (answers : SendAnswers) : Bool × StreamSender :=
  if answers.resolved then
    let s := { s.emit (.opened answers.opened) with connected := answers.opened }
    (s.connected, s)
  else (s.connected, s)

/-- `StreamSender_EnsureConnected`. -/
def ensureConnected (s : StreamSender) (answers : SendAnswers) : Bool × StreamSender :=
  if s.connected then (true, s) else s.connect answers

/-- `StreamSender_Reconcile`. -/
def reconcile (s : StreamSender) (answers : SendAnswers) : Bool × StreamSender :=
  (s.disconnectIfStale answers).ensureConnected answers

/-- `StreamSender_SendBytes`. -/
def sendBytes (s : StreamSender) (data : Bytes) (fails : Option Nat) : Bool × StreamSender :=
  match fails with
  | none => (true, s.emit (.sent data data true))
  | some put => (false, (s.emit (.sent data (data.take put) false)).closeStream)

/-- `StreamSender_FormatOctetCountingPrefix`. -/
def formatOctetCountingPrefix (messageSize : Nat) : Formatter :=
  ((Formatter.create octetCountingCapacity).uint32 (toUint32 messageSize)).asciiCharacter 0x20

/-- `StreamSender_TransmitFramed`. -/
def transmitFramed (s : StreamSender) (record : Bytes) (answers : SendAnswers) :
    Bool × StreamSender :=
  let length := (formatOctetCountingPrefix record.length).asFormattedBuffer
  match s.sendBytes length.bytes answers.lengthFails with
  | (true, s) => s.sendBytes record answers.recordFails
  | (false, s) => (false, s)

/-- `StreamSender_UpdateDeliveryHealth`. -/
def updateDeliveryHealth (s : StreamSender) (delivered : Bool) : StreamSender :=
  if delivered ≠ s.deliveryHealthy then
    let event : ErrorEvent :=
      if delivered then ⟨.notice, .senderDeliveryRestored, false, "StreamSender", 7, 0⟩
      else ⟨.warning, .senderDeliveryFailed, false, "StreamSender", 6, 0⟩
    { s with deliveryHealthy := delivered, events := s.events ++ [event] }
  else s

/-- `StreamSender_Send`. -/
def send (s : StreamSender) (record : Bytes) (answers : SendAnswers) : Bool × StreamSender :=
  let s := s.emit (.called record)
  let (delivered, s) :=
    match s.reconcile answers with
    | (true, s) => s.transmitFramed record answers
    | (false, s) => (false, s)
  (delivered, (s.updateDeliveryHealth delivered).emit (.returned delivered))

/-- One call of the sender. -/
def call (s : StreamSender) : SenderCall → Option StreamSender
  | .send record answers => some (s.send record answers).2
  | .disconnect => some s.disconnect

end StreamSender

/-! ## What went out -/

/-- A connection of the stream: the versions the `Send` that opened it saw, the bytes that have gone
out on it, the records whose `Send` returned true on it, and the record of the stream send that
failed. -/
structure Connection where
  endpointVersion : UInt32
  streamVersion : UInt32
  out : Bytes
  delivered : List Bytes
  torn : Option Bytes
  isOpen : Bool
  deriving DecidableEq

/-- What a trace shows: the versions seen last, the record of the last `Send` and whether a stream
send of it has failed, the last connection and those before it. -/
structure Wire where
  endpointVersion : UInt32
  streamVersion : UInt32
  record : Bytes
  failed : Bool
  connection : Option Connection
  ended : List Connection
  deriving DecidableEq

namespace Wire

def initial : Wire :=
  ⟨0, 0, [], false, none, []⟩

/-- The connections so far. -/
def connections (w : Wire) : List Connection :=
  w.ended ++ w.connection.toList

/-- The connection that an open stream has. -/
def live (w : Wire) : Option Connection :=
  w.connection.filter (·.isOpen)

/-- What one more entry shows. -/
def observe (w : Wire) : StreamEvent → Wire
  | .called record => { w with record := record, failed := false }
  | .versions endpoint stream => { w with endpointVersion := endpoint, streamVersion := stream }
  | .opened true => { w with
      connection := some ⟨w.endpointVersion, w.streamVersion, [], [], none, true⟩
      ended := w.connections }
  | .opened false => w
  | .sent _ put true =>
      { w with connection := w.connection.map fun c => { c with out := c.out ++ put } }
  | .sent _ put false => { w with
      failed := true
      connection := w.connection.map fun c =>
        { c with out := c.out ++ put, torn := some w.record } }
  | .closed => { w with connection := w.connection.map fun c => { c with isOpen := false } }
  | .returned true => { w with
      connection := w.connection.map fun c => { c with delivered := c.delivered ++ [w.record] } }
  | .returned false => w

/-- What a trace shows. -/
def of (t : List StreamEvent) : Wire :=
  t.foldl observe initial

theorem of_concat (t : List StreamEvent) (event : StreamEvent) :
    of (t ++ [event]) = (of t).observe event := by
  simp [of]

end Wire

end SolidSyslog.Sender
