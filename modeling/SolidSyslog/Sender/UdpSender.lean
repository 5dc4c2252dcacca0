import SolidSyslog.Event
import SolidSyslog.Lib.Latch
import SolidSyslog.Sender.UdpPayload

/-!
# The sender over datagrams

`SolidSyslogUdpSender.c`. A record is offered whole; one the path is too small for is offered once
more, trimmed, and discarded if it is refused for size again. The trace lists the calls the sender
makes and the events it raises.
-/

namespace SolidSyslog.Sender

open Format Lib

/-- `enum SolidSyslogDatagramSendResult`. -/
inductive DatagramResult where
  | sent
  | oversize
  | failed
  deriving DecidableEq

/-- A call the sender makes, with its answer, or an event it raises. -/
inductive UdpEvent where
  | version (endpoint : UInt32)
  | opened (ok : Bool)
  | resolved (ok : Bool)
  | closed
  | sentTo (datagram : Bytes) (result : DatagramResult)
  | maxPayload (answer : Nat)
  | reported (event : ErrorEvent)
  deriving DecidableEq

/-- `struct SolidSyslogUdpSender`, with what it has called and reported so far. -/
structure UdpSender where
  connected : Bool
  deliveryHealthy : Bool
  recordTooLargeReported : Bool
  lastEndpointVersion : UInt32
  trace : List UdpEvent

/-- What the getter, the resolver and the datagram answer in one `Send`: the payload limit once
after a failure, and once before the record is trimmed. -/
structure DatagramAnswers where
  endpointVersion : UInt32
  opened : Bool
  resolved : Bool
  whole : DatagramResult
  failedPayload : Nat
  trimPayload : Nat
  trimmed : DatagramResult

/-- The calls of a sender. -/
inductive UdpCall where
  | send (buffer : Option Bytes) (answers : DatagramAnswers)
  | disconnect

namespace UdpSender

/-- `SolidSyslogUdpSender_Initialise`. -/
def initial : UdpSender :=
  ⟨false, true, false, 0, []⟩

def emit (s : UdpSender) (event : UdpEvent) : UdpSender :=
  { s with trace := s.trace ++ [event] }

/-- `SOLIDSYSLOG_UDP_SENDER_ERROR_SEND_NULL_BUFFER`, as it is raised. -/
def sendNullBuffer : ErrorEvent :=
  ⟨.critical, .unreported 2, false, "UdpSender", 5, 0⟩

/-- `SOLIDSYSLOG_UDP_SENDER_ERROR_DELIVERY_FAILED`, as it is raised. -/
def deliveryFailed : ErrorEvent :=
  ⟨.warning, .senderDeliveryFailed, false, "UdpSender", 8, 0⟩

/-- `SOLIDSYSLOG_UDP_SENDER_ERROR_DELIVERY_RESTORED`, as it is raised. -/
def deliveryRestored : ErrorEvent :=
  ⟨.notice, .senderDeliveryRestored, false, "UdpSender", 9, 0⟩

/-- `SOLIDSYSLOG_UDP_SENDER_ERROR_RECORD_TOO_LARGE`, as it is raised. -/
def recordTooLarge : ErrorEvent :=
  ⟨.error, .senderRecordsLost, false, "UdpSender", 10, 0⟩

/-- `UdpSender_CloseSocket`. -/
def closeSocket (s : UdpSender) : UdpSender :=
  { s.emit .closed with connected := false }

/-- `UdpSender_Disconnect`. -/
def disconnect (s : UdpSender) : UdpSender :=
  if s.connected then s.closeSocket else s

/-- `UdpSender_DisconnectIfStale`. -/
def disconnectIfStale (s : UdpSender) (answers : DatagramAnswers) : UdpSender :=
  let s := s.emit (.version answers.endpointVersion)
  if answers.endpointVersion ≠ s.lastEndpointVersion then
    { s.disconnect with lastEndpointVersion := answers.endpointVersion }
  else s

/-- `UdpSender_Connect`. -/
def connect (s : UdpSender) (answers : DatagramAnswers) : UdpSender :=
  let s := s.emit (.opened answers.opened)
  if answers.opened then
    let s := s.emit (.resolved answers.resolved)
    if answers.resolved then { s with connected := true } else s.closeSocket
  else s.closeSocket

/-- `UdpSender_Reconcile`, with `UdpSender_EnsureConnected`. -/
def reconcile (s : UdpSender) (answers : DatagramAnswers) : UdpSender :=
  let s := s.disconnectIfStale answers
  if s.connected then s else s.connect answers

/-- `UdpSender_SendTo`. -/
def sendTo (s : UdpSender) (datagram : Bytes) (result : DatagramResult) : UdpSender :=
  let s := s.emit (.sentTo datagram result)
  if result = .sent then { s with recordTooLargeReported := false } else s

/-- `UdpSender_FailureWasOversize`. -/
def failureWasOversize (s : UdpSender) (size maxPayload : Nat) : Bool × UdpSender :=
  (0 < maxPayload && maxPayload < size, s.emit (.maxPayload maxPayload))

/-- `UdpSender_ReportRecordTooLarge`. -/
def reportRecordTooLarge (s : UdpSender) : UdpSender :=
  if !s.recordTooLargeReported then
    { s.emit (.reported recordTooLarge) with recordTooLargeReported := true }
  else s

/-- `UdpSender_RetryAfterOversize`. -/
def retryAfterOversize (s : UdpSender) (record : Bytes) (answers : DatagramAnswers) :
    DatagramResult × UdpSender :=
  let maxPayload := answers.trimPayload
  let s := s.emit (.maxPayload maxPayload)
  let clipLimit := if record.length < maxPayload then record.length else maxPayload
  let trimmed := trimToCodepointBoundary record clipLimit
  let (result, s) :=
    if 0 < trimmed then (answers.trimmed, s.sendTo (record.take trimmed) answers.trimmed)
    else (.oversize, s)
  if result = .oversize then (result, s.reportRecordTooLarge) else (result, s)

/-- `UdpSender_TransmitDatagram`. -/
def transmitDatagram (s : UdpSender) (record : Bytes) (answers : DatagramAnswers) :
    DatagramResult × UdpSender :=
  let s := s.sendTo record answers.whole
  let (result, s) :=
    if answers.whole = .failed then
      let (wasOversize, s) := s.failureWasOversize record.length answers.failedPayload
      (if wasOversize then .oversize else .failed, s)
    else (answers.whole, s)
  if result = .oversize then s.retryAfterOversize record answers else (result, s)

/-- `UdpSender_Deliver`. -/
def deliver (s : UdpSender) (record : Bytes) (answers : DatagramAnswers) :
    DatagramResult × UdpSender :=
  let s := s.reconcile answers
  if s.connected then s.transmitDatagram record answers else (.failed, s)

/-- `UdpSender_UpdateDeliveryHealth`, with `SolidSyslogSenderHealth_Update`. -/
def updateDeliveryHealth (s : UdpSender) (delivered : Bool) : UdpSender :=
  if delivered ≠ s.deliveryHealthy then
    { s.emit (.reported (if delivered then deliveryRestored else deliveryFailed)) with
      deliveryHealthy := delivered }
  else s

/-- `UdpSender_Send`. -/
def send (s : UdpSender) (buffer : Option Bytes) (answers : DatagramAnswers) : Bool × UdpSender :=
  match buffer with
  | none => (false, s.emit (.reported sendNullBuffer))
  | some record =>
    let (outcome, s) := s.deliver record answers
    (outcome ≠ .failed, if outcome = .oversize then s else s.updateDeliveryHealth (outcome = .sent))

end UdpSender

/-- A `Send`: what it was given, what it did and answered, and the sender before and after it. -/
structure UdpSend where
  buffer : Option Bytes
  entries : List UdpEvent
  ok : Bool
  before : UdpSender
  after : UdpSender

/-- The sends of a run. -/
def UdpSender.sends (s : UdpSender) : List UdpCall → List UdpSend
  | [] => []
  | .disconnect :: calls => s.disconnect.sends calls
  | .send buffer answers :: calls =>
    let sent := s.send buffer answers
    ⟨buffer, sent.2.trace.drop s.trace.length, sent.1, s, sent.2⟩ :: sent.2.sends calls

/-! ## What a send shows -/

/-- The `SendTo` of an entry. -/
def UdpEvent.transmission : UdpEvent → Option (Bytes × DatagramResult)
  | .sentTo datagram result => some (datagram, result)
  | _ => none

/-- The answer of `MaxPayload` in an entry. -/
def UdpEvent.limit : UdpEvent → Option Nat
  | .maxPayload answer => some answer
  | _ => none

/-- What an entry says of the run of records too large. -/
def UdpEvent.observation : UdpEvent → Option Observation
  | .sentTo _ .sent => some .clear
  | .reported event => if event = UdpSender.recordTooLarge then some .report else none
  | _ => none

/-- What an entry says of the delivery. -/
def UdpEvent.health : UdpEvent → Option Bool
  | .reported event =>
    if event.category = .senderDeliveryRestored then some true
    else if event.category = .senderDeliveryFailed then some false
    else none
  | _ => none

namespace UdpSend

/-- The `SendTo` calls of a send. -/
def transmissions (sent : UdpSend) : List (Bytes × DatagramResult) :=
  sent.entries.filterMap UdpEvent.transmission

/-- The answers of `MaxPayload` in a send. -/
def limits (sent : UdpSend) : List Nat :=
  sent.entries.filterMap UdpEvent.limit

/-- The record was taken for too large: it was refused for its size, or failed where the limit says
it could not have fitted. -/
def takenForTooLarge (sent : UdpSend) (record : Bytes) : Bool :=
  match sent.transmissions, sent.limits with
  | (_, .oversize) :: _, _ => true
  | (_, .failed) :: _, known :: _ => 0 < known && known < record.length
  | _, _ => false

/-- It was taken for too large, and either nothing was left of it to offer again or that was refused
for its size as well. -/
def discarded (sent : UdpSend) : Bool :=
  match sent.buffer with
  | some record =>
    sent.takenForTooLarge record && (sent.transmissions[1]?).all fun second => second.2 = .oversize
  | none => false

/-- What a send says of the run of records too large. -/
def observations (sent : UdpSend) : List Observation :=
  (if sent.discarded then [.fault] else []) ++ sent.entries.filterMap UdpEvent.observation

/-- What a send reports of the delivery. -/
def healthEvents (sent : UdpSend) : List Bool :=
  sent.entries.filterMap UdpEvent.health

end UdpSend

end SolidSyslog.Sender
