import SolidSyslog.Event
import SolidSyslog.Lib.Ensures
import SolidSyslog.Lib.Handles

/-!
# The TCP streams over sockets

`SolidSyslogPosixTcpStream.c`, `SolidSyslogWinsockTcpStream.c`, `SolidSyslogLwipSocketTcpStream.c`,
`SolidSyslogVxWorks64TcpStream.c`, `SolidSyslogPlusTcpTcpStream.c` and
`SolidSyslogStreamOpenHealth.c`. What the streams do alike stands once, over the dialect of the
socket layer; each stream then has its own part. The trace lists the calls of the socket layer and
the outcomes of the attempts to connect.
-/

namespace SolidSyslog.Tcp

open Lib

/-- The address a connection is made to. -/
structure Address where
  ip : UInt32
  port : UInt16
  deriving DecidableEq

/-- The socket options the streams set. The two timings of a keepalive are in seconds, or in
milliseconds for `keepaliveMs`. -/
inductive SocketOption where
  | noDelay
  | keepalive
  | keepIdle
  | keepInterval
  | keepCount
  | userTimeout
  | keepaliveMs
  | sendTimeout
  | receiveTimeout
  deriving DecidableEq

/-- A call of the socket layer, or of the stack under it. -/
inductive TcpCall where
  | socket
  | setOption (option : SocketOption) (value : Nat)
  | getFlags
  | setFlags (flags : Nat)
  | setNonBlocking
  | connect (address : Address)
  | connectWithTimeout (address : Address) (seconds microseconds : Nat)
  | select (seconds microseconds : Nat)
  | getSocketError
  | peek
  | send (data : Bytes) (length : Int)
  | recv (length : Int)
  | close
  | isInArpCache (ip : UInt32)
  | outputArpRequest (ip : UInt32)
  | taskDelay (ticks : Nat)
  deriving DecidableEq

/-- What a call returns: its result, the error code it leaves, whether `select` flags the socket in
the write set and in the error set, the socket error that is read and the bytes that are copied. -/
structure Reply where
  result : Int
  code : Int
  writable : Bool
  exceptional : Bool
  socketError : Int
  data : Bytes
  deriving DecidableEq

/-- `enum SolidSyslogTcpStreamErrors`, those of an `Open`. -/
inductive TcpError where
  | endpointUnavailable
  | connectNotStarted
  | connectRefused
  | connectTimedOut
  | socketOptionRefused
  | alreadyOpen
  deriving DecidableEq

def TcpError.detail : TcpError → Int
  | .endpointUnavailable => 4
  | .connectNotStarted => 5
  | .connectRefused => 6
  | .connectTimedOut => 7
  | .socketOptionRefused => 8
  | .alreadyOpen => 9

/-- `SOLIDSYSLOG_CAT_BAD_ARGUMENT`. -/
def badArgument : Category :=
  .unreported 0x0002

/-- `SOLIDSYSLOG_CAT_STREAM_CONNECT_FAILED`. -/
def streamConnectFailed : Category :=
  .unreported 0x0301

/-- `SOLIDSYSLOG_CAT_STREAM_OPTION_REFUSED`. -/
def streamOptionRefused : Category :=
  .unreported 0x0302

/-- A failed attempt to connect, as the stream tells it. -/
structure Failure where
  severity : Severity
  error : TcpError
  nativeCode : Option Int
  deriving DecidableEq

/-- A call of the socket layer with the socket it is made with or gives, or the outcome of an
attempt to connect. -/
inductive TcpEvent where
  | called (socket : Option Nat) (call : TcpCall) (reply : Reply)
  | failed (failure : Failure)
  | connected (socket : Option Nat)
  deriving DecidableEq

/-- What the calls do with sockets. The invalid descriptor is no socket. -/
def sockets : Handling TcpEvent Nat where
  obtains
    | .called socket .socket _ => socket
    | _ => none
  uses
    | .called _ .socket _ => none
    | .called socket _ _ => socket.map some
    | _ => none
  releases
    | .called socket .close _ => socket
    | _ => none

/-! ## The health of `Open` -/

/-- `struct SolidSyslogStreamOpenHealth`. -/
structure OpenHealth where
  failing : Bool
  failedDetail : Int

/-- `StreamOpenHealth_Admit`. -/
def OpenHealth.admitted (h : OpenHealth) (detail : Int) : Bool × OpenHealth :=
  if h.failing ∧ h.failedDetail = detail then (false, h) else (true, ⟨true, detail⟩)

/-- `SolidSyslogStreamOpenHealth_Opened`. -/
def OpenHealth.opened (h : OpenHealth) : OpenHealth :=
  { h with failing := false }

/-! ## The streams -/

/-- The tunables, in seconds and milliseconds. -/
structure Tunables where
  keepaliveIdleSeconds : Nat
  keepaliveIntervalSeconds : Nat
  keepaliveProbeCount : Nat
  connectTimeoutMs : UInt32

/-- `SOLIDSYSLOG_TCP_CONNECT_TIMEOUT_MS_MAX`. -/
def connectTimeoutMsMax : UInt32 :=
  300000

/-- The error codes of a socket layer, none of which is zero, and its `O_NONBLOCK`. -/
structure Codes where
  inProgress : Int
  connRefused : Int
  timedOut : Int
  notConn : Int
  wouldBlock : Int
  again : Int
  nonBlock : Nat
  inProgress_ne : inProgress ≠ 0
  connRefused_ne : connRefused ≠ 0
  timedOut_ne : timedOut ≠ 0

/-- What a stream is given: how the socket layer answers a call made with a socket, and the getter
of its config. -/
structure SocketLayer (ε : Type) where
  answer : Option Nat → TcpCall → ε → Reply × ε
  getConnectTimeoutMs : Option (ε → UInt32 × ε)

/-- One of the five stream structs, with the calls it has made and the events it has raised. -/
structure TcpStream (ε : Type) where
  fd : Option Nat
  openHealth : OpenHealth
  trace : List TcpEvent
  events : List ErrorEvent
  env : ε

abbrev Action (ε α : Type) :=
  StateM (TcpStream ε) α

/-- A stream as its `Initialise` leaves it. -/
def TcpStream.initial (env : ε) : TcpStream ε :=
  ⟨none, ⟨false, 0⟩, [], [], env⟩

/-- The calls of a stream. -/
structure StreamOps (ε : Type) where
  openStream : Address → Action ε Bool
  send : Bytes → Action ε Bool
  read : Nat → Action ε Int
  close : Action ε Unit

variable {ε : Type}

def TcpStream.ask (L : SocketLayer ε) (socket : Option Nat) (request : TcpCall) (s : TcpStream ε) :
    Reply × TcpStream ε :=
  ((L.answer socket request s.env).1,
    { s with
      trace := s.trace ++ [.called socket request (L.answer socket request s.env).1]
      env := (L.answer socket request s.env).2 })

/-- A call made with the stream's socket. -/
def call (L : SocketLayer ε) (request : TcpCall) : Action ε Reply :=
  modifyGet fun s => s.ask L s.fd request

/-- A call of the stack that no socket takes part in. -/
def callStack (L : SocketLayer ε) (request : TcpCall) : Action ε Reply :=
  modifyGet (·.ask L none request)

/-- A socket that was never given before. -/
def TcpStream.freshSocket (s : TcpStream ε) : Nat :=
  (sockets.obtained s.trace).length

/-- `socket` returns, with the socket that it gives. -/
def TcpStream.given (L : SocketLayer ε) (given : Option Nat) (s : TcpStream ε) : TcpStream ε :=
  { s with
    fd := given
    trace := s.trace ++ [.called given .socket (L.answer none .socket s.env).1]
    env := (L.answer none .socket s.env).2 }

/-- `socket`: where its result is a valid descriptor, the stream has a new socket. -/
def socket (L : SocketLayer ε) (isValid : Int → Bool) : Action ε Reply :=
  modifyGet fun s =>
    let reply := (L.answer none .socket s.env).1
    (reply, s.given L (if isValid reply.result then some s.freshSocket else none))

def isOpen : Action ε Bool := do
  return (← get).fd.isSome

/-- An event raised by the stream. -/
def report (severity : Severity) (category : Category) (source : String) (error : TcpError) :
    Action ε Unit :=
  modify fun s => { s with events := s.events ++
    [⟨severity, category, false, source, error.detail, 0⟩] }

/-- The event of a failed attempt to connect. -/
def Failure.event (source : String) (failure : Failure) : ErrorEvent :=
  ⟨failure.severity, streamConnectFailed, failure.nativeCode.isSome, source, failure.error.detail,
    failure.nativeCode.getD 0⟩

/-- `SolidSyslogStreamOpenHealth_ReportFailure` and
`SolidSyslogStreamOpenHealth_ReportFailureWithNativeCode`. -/
def TcpStream.reportFailure (source : String) (failure : Failure) (s : TcpStream ε) : TcpStream ε :=
  let (isNews, openHealth) := s.openHealth.admitted failure.error.detail
  { s with
    openHealth := openHealth
    trace := s.trace ++ [.failed failure]
    events := if isNews then s.events ++ [failure.event source] else s.events }

/-- `<Stream>_ReportConnectFailure`. -/
def reportConnectFailure (source : String) (severity : Severity) (error : TcpError) :
    Action ε Unit :=
  modify (·.reportFailure source ⟨severity, error, none⟩)

/-- `<Stream>_ReportConnectFailureWithErrno`,
`WinsockTcpStream_ReportConnectFailureWithLastError`. -/
def reportConnectFailureWithErrno (source : String) (severity : Severity) (error : TcpError)
    (nativeCode : Int) : Action ε Unit :=
  if nativeCode ≠ 0 then modify (·.reportFailure source ⟨severity, error, some nativeCode⟩)
  else reportConnectFailure source severity error

/-- `SolidSyslogStreamOpenHealth_Opened`, at the end of an `Open` that connected. -/
def opened : Action ε Unit :=
  modify fun s => { s with
    openHealth := s.openHealth.opened
    trace := s.trace ++ [.connected s.fd] }

/-- `<Stream>_CloseSocket`. -/
def closeSocket (L : SocketLayer ε) : Action ε Unit := do
  if ← isOpen then
    let _ ← call L .close
    modify fun s => { s with fd := none }

/-- The first part of `<Stream>_Open`. -/
def openIfClosed (source : String) (takeSocketAndConnect : Action ε Bool) : Action ε Bool := do
  if ← isOpen then
    report .critical badArgument source .alreadyOpen
    return false
  else takeSocketAndConnect

/-- What the config's getter answers, or the tunable where there is none, up to the greatest
deadline. -/
def TcpStream.resolveConnectTimeoutMs (L : SocketLayer ε) (T : Tunables) (s : TcpStream ε) :
    UInt32 × TcpStream ε :=
  let (ms, env) := match L.getConnectTimeoutMs with
    | some getter => getter s.env
    | none => (T.connectTimeoutMs, s.env)
  (if ms > connectTimeoutMsMax then connectTimeoutMsMax else ms, { s with env := env })

/-- `<Stream>_ResolveConnectTimeoutMs`. -/
def resolveConnectTimeoutMs (L : SocketLayer ε) (T : Tunables) : Action ε Nat := do
  return (← modifyGet (·.resolveConnectTimeoutMs L T)).toNat

/-- Sets each option, and says whether all were accepted. -/
def setOptions (L : SocketLayer ε) : List (SocketOption × Nat) → Action ε Bool
  | [] => return true
  | (option, value) :: rest => do
    let reply ← call L (.setOption option value)
    let others ← setOptions L rest
    return reply.result == 0 && others

/-- `<Stream>_ReportOptionRefused`, where an option was. -/
def applySocketOptions (L : SocketLayer ε) (source : String) (options : List (SocketOption × Nat)) :
    Action ε Unit := do
  if !(← setOptions L options) then
    report .warning streamOptionRefused source .socketOptionRefused

/-! ## What Posix, Winsock, lwIP and VxWorks do alike -/

/-- How a socket layer tells its results apart and what it takes. -/
structure Dialect where
  source : String
  isSocketValid : Int → Bool
  failed : Int → Bool
  lookupFailed : Int → Bool
  inProgress : Int
  wouldBlock : Int → Bool
  isRemoteConnectError : Int → Bool
  timeval : Nat → Nat × Nat
  length : Nat → Int

variable (L : SocketLayer ε) (D : Dialect)

/-- The code a failed call left, else zero. -/
def Dialect.codeOf (failed : Int → Bool) (reply : Reply) : Int :=
  if failed reply.result then reply.code else 0

/-- `<Stream>_TakeSocketAndConnect`. -/
def takeSocketAndConnect (takeSocket : Action ε Unit) (connectOrCloseOnFailure : Action ε Bool) :
    Action ε Bool := do
  takeSocket
  let connected ← if ← isOpen then connectOrCloseOnFailure else pure false
  if connected then opened
  return connected

/-- `<Stream>_ReadSocketError`: whether the socket answered, and the code. -/
def readSocketError : Action ε (Bool × Int) := do
  let reply ← call L .getSocketError
  let failed := D.lookupFailed reply.result
  return (!failed, if failed then reply.code else reply.socketError)

/-- `<Stream>_ReadDeferredConnectError`. -/
def readDeferredConnectError : Action ε Bool := do
  let (asked, code) ← readSocketError L D
  let connected := asked && code == 0
  if !connected then reportConnectFailureWithErrno D.source .warning .connectRefused code
  return connected

/-- The code of a wait that did not time out. -/
def unfinishedWaitCode (wait : Reply) : Action ε Int := do
  if wait.result > 0 then return (← readSocketError L D).2
  else return Dialect.codeOf D.failed wait

/-- `<Stream>_ReportUnfinishedWait`. -/
def reportUnfinishedWait (wait : Reply) : Action ε Unit := do
  if wait.result = 0 then reportConnectFailure D.source .warning .connectTimedOut
  else
    let nativeCode ← unfinishedWaitCode L D wait
    reportConnectFailureWithErrno D.source .warning .connectRefused nativeCode

/-- `<Stream>_WaitForConnectCompletion`. -/
def waitForConnectCompletion (timeoutMs : Nat) : Action ε Bool := do
  let wait ← call L (.select (D.timeval timeoutMs).1 (D.timeval timeoutMs).2)
  let ready := decide (wait.result > 0) && wait.writable && !wait.exceptional
  if !ready then reportUnfinishedWait L D wait
  return ready

/-- A connect that is under way completes. -/
def completeConnect (timeoutMs : Nat) : Action ε Bool := do
  if ← waitForConnectCompletion L D timeoutMs then readDeferredConnectError L D else pure false

/-- A connect that failed at once. -/
def reportImmediateFailure (code : Int) : Action ε Unit :=
  if D.isRemoteConnectError code then
    reportConnectFailureWithErrno D.source .warning .connectRefused code
  else reportConnectFailureWithErrno D.source .error .connectNotStarted code

/-- `PosixTcpStream_OpenAndConfigureSocket`, `WinsockTcpStream_OpenAndConfigureSocket`. -/
def openAndConfigureSocket (configureSocket : Action ε Bool) : Action ε Unit := do
  let reply ← socket L D.isSocketValid
  if !(← isOpen) then
    reportConnectFailureWithErrno D.source .error .endpointUnavailable reply.code
  else if !(← configureSocket) then closeSocket L

/-- `PosixTcpStream_Connect`, `WinsockTcpStream_Connect`, where `isConnected` tells from the result
of `connect` that it connected at once. -/
def connect (isConnected : Int → Bool) (address : Address) (timeoutMs : Nat) : Action ε Bool := do
  let reply ← call L (.connect address)
  let code := Dialect.codeOf D.failed reply
  if isConnected reply.result then return true
  else if code = D.inProgress then completeConnect L D timeoutMs
  else
    reportImmediateFailure D code
    return false

/-- The end of `<Stream>_ConnectOrCloseOnFailure`. -/
def closeOnFailure (connected : Bool) : Action ε Bool := do
  if !connected then closeSocket L
  return connected

/-- `PosixTcpStream_ConnectOrCloseOnFailure`, `WinsockTcpStream_ConnectOrCloseOnFailure`. -/
def connectOrCloseOnFailure (T : Tunables) (isConnected : Int → Bool) (address : Address) :
    Action ε Bool := do
  let timeoutMs ← resolveConnectTimeoutMs L T
  let connected ← connect L D isConnected address timeoutMs
  closeOnFailure L connected

/-- `<Stream>_PeerIsStillThere`. -/
def peerIsStillThere : Action ε Bool := do
  let peeked ← call L .peek
  return decide (peeked.result > 0) ||
    (D.failed peeked.result && D.wouldBlock (Dialect.codeOf D.failed peeked))

/-- `<Stream>_WroteAllBytes`. -/
def wroteAllBytes (sent : Int) (expected : Nat) : Bool :=
  decide (sent ≥ 0) && sent.toNat == expected

/-- One `send` of the whole buffer. -/
def trySend (data : Bytes) : Action ε Bool := do
  let reply ← call L (.send data (D.length data.length))
  return wroteAllBytes reply.result data.length

/-- `<Stream>_Send`, of a buffer that `fits` what the stack takes. -/
def sendToPeer (fits : Bool) (data : Bytes) : Action ε Bool := do
  let there ← if fits then peerIsStillThere L D else pure false
  let ok ← if there then trySend L D data else pure false
  if !ok then closeSocket L
  return ok

/-- `<Stream>_Read`. -/
def readAvailable (size : Nat) : Action ε Int := do
  let received ← call L (.recv (D.length size))
  if received.result > 0 then return received.result
  else if D.failed received.result && D.wouldBlock (Dialect.codeOf D.failed received) then return 0
  else
    closeSocket L
    return -1

end SolidSyslog.Tcp
