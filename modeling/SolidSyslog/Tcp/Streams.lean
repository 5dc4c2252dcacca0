import SolidSyslog.Tcp.SocketStream

/-!
# The five TCP streams

Each stream over its own socket layer: the options it sets and when, how it makes its socket
non-blocking, and how it tells an attempt that failed at once from one that is under way.
-/

namespace SolidSyslog.Tcp

variable {ε : Type}

/-- A size as an `int`. -/
def toInt32 (size : Nat) : Int :=
  (BitVec.ofNat 32 size).toInt

/-! ## Posix -/

namespace Posix

/-- `SolidSyslogPosixTcpStream.c`: its socket layer. -/
def dialect (C : Codes) : Dialect where
  source := "PosixTcpStream"
  isSocketValid fd := fd ≥ 0
  failed result := result < 0
  lookupFailed result := result ≠ 0
  inProgress := C.inProgress
  wouldBlock code := code == C.again || code == C.wouldBlock
  isRemoteConnectError code := code == C.connRefused || code == C.timedOut
  timeval timeoutMs := (timeoutMs * 1000 / 1000000, timeoutMs * 1000 % 1000000)
  length size := size

/-- The options of `PosixTcpStream_EnableTcpNoDelay` and `PosixTcpStream_EnableKeepalive`. -/
def options (T : Tunables) : List (SocketOption × Nat) :=
  let idle := T.keepaliveIdleSeconds
  let interval := T.keepaliveIntervalSeconds
  let count := T.keepaliveProbeCount
  [(.noDelay, 1), (.keepalive, 1), (.keepIdle, idle), (.keepInterval, interval),
    (.keepCount, count), (.userTimeout, (idle + interval * count) * 1000)]

variable (C : Codes) (T : Tunables) (L : SocketLayer ε)

/-- The two `fcntl` calls of `PosixTcpStream_SetNonBlocking`, and the code they leave. -/
def addNonBlocking : Action ε (Bool × Int) := do
  let flags ← call L .getFlags
  if flags.result ≥ 0 then
    let set ← call L (.setFlags (flags.result.toNat ||| C.nonBlock))
    return (set.result ≠ -1, if set.result = -1 then set.code else 0)
  else return (false, flags.code)

/-- `PosixTcpStream_SetNonBlocking`. -/
def setNonBlocking : Action ε Bool := do
  let (nonBlocking, code) ← addNonBlocking C L
  if !nonBlocking then
    reportConnectFailureWithErrno (dialect C).source .error .endpointUnavailable code
  return nonBlocking

/-- `PosixTcpStream_ConfigureSocket`. -/
def configureSocket : Action ε Bool := do
  let _ ← setOptions L (options T)
  setNonBlocking C L

/-- `PosixTcpStream_TakeSocketAndConnect`. -/
def takeSocketAndConnect (address : Address) : Action ε Bool :=
  Tcp.takeSocketAndConnect (openAndConfigureSocket L (dialect C) (configureSocket C T L))
    (connectOrCloseOnFailure L (dialect C) T (fun result => result = 0) address)

/-- The calls of a `SolidSyslogPosixTcpStream`. -/
def tcpStream : StreamOps ε where
  openStream address := openIfClosed (dialect C).source (takeSocketAndConnect C T L address)
  send data := sendToPeer L (dialect C) true data
  read size := readAvailable L (dialect C) size
  close := closeSocket L

end Posix

/-! ## Winsock -/

namespace Winsock

/-- `SolidSyslogWinsockTcpStream.c`: its socket layer, whose `SOCKET_ERROR` is -1. -/
def dialect (C : Codes) : Dialect where
  source := "WinsockTcpStream"
  isSocketValid fd := fd ≠ -1
  failed result := result = -1
  lookupFailed result := result = -1
  inProgress := C.wouldBlock
  wouldBlock code := code == C.wouldBlock
  isRemoteConnectError code := code == C.connRefused || code == C.timedOut
  timeval timeoutMs := (timeoutMs / 1000, timeoutMs % 1000 * 1000)
  length size := toInt32 size

/-- The options of `WinsockTcpStream_EnableTcpNoDelay` and `WinsockTcpStream_EnableKeepalive`. -/
def options (T : Tunables) : List (SocketOption × Nat) :=
  [(.noDelay, 1), (.keepalive, 1), (.keepIdle, T.keepaliveIdleSeconds),
    (.keepInterval, T.keepaliveIntervalSeconds), (.keepCount, T.keepaliveProbeCount)]

variable (C : Codes) (T : Tunables) (L : SocketLayer ε)

/-- `WinsockTcpStream_SetNonBlocking`. -/
def setNonBlocking : Action ε Bool := do
  let reply ← call L .setNonBlocking
  let nonBlocking := reply.result != -1
  if !nonBlocking then
    reportConnectFailureWithErrno (dialect C).source .error .endpointUnavailable reply.code
  return nonBlocking

/-- `WinsockTcpStream_ConfigureSocket`. -/
def configureSocket : Action ε Bool := do
  let _ ← setOptions L (options T)
  setNonBlocking C L

/-- `WinsockTcpStream_TakeSocketAndConnect`. -/
def takeSocketAndConnect (address : Address) : Action ε Bool :=
  Tcp.takeSocketAndConnect (openAndConfigureSocket L (dialect C) (configureSocket C T L))
    (connectOrCloseOnFailure L (dialect C) T (fun result => result ≠ -1) address)

/-- The calls of a `SolidSyslogWinsockTcpStream`. -/
def tcpStream : StreamOps ε where
  openStream address := openIfClosed (dialect C).source (takeSocketAndConnect C T L address)
  send data := sendToPeer L (dialect C) true data
  read size := readAvailable L (dialect C) size
  close := closeSocket L

end Winsock

/-! ## lwIP's sockets -/

namespace LwipSocket

/-- `SolidSyslogLwipSocketTcpStream.c`: its socket layer. -/
def dialect (C : Codes) : Dialect where
  source := "LwipSocketTcpStream"
  isSocketValid fd := fd ≥ 0
  failed result := result < 0
  lookupFailed result := result ≠ 0
  inProgress := C.inProgress
  wouldBlock code := code == C.wouldBlock || code == C.again
  isRemoteConnectError code := code == C.connRefused || code == C.timedOut
  timeval timeoutMs := (timeoutMs * 1000 / 1000000, timeoutMs * 1000 % 1000000)
  length size := size

/-- The options of `LwipSocketTcpStream_ApplySocketOptions`, where the stack is built with
`LWIP_TCP_KEEPALIVE` or not. -/
def options (T : Tunables) (tcpKeepalive : Bool) : List (SocketOption × Nat) :=
  [(.noDelay, 1), (.keepalive, 1)] ++
    if tcpKeepalive then [(.keepIdle, T.keepaliveIdleSeconds),
      (.keepInterval, T.keepaliveIntervalSeconds), (.keepCount, T.keepaliveProbeCount)]
    else [(.keepaliveMs, T.keepaliveIdleSeconds * 1000)]

variable (C : Codes) (T : Tunables) (L : SocketLayer ε)

/-- `LwipSocketTcpStream_TakeSocket`, from the socket on. -/
def makeNonBlocking : Action ε Unit := do
  let set ← call L (.setFlags C.nonBlock)
  if set.result ≠ 0 then
    reportConnectFailureWithErrno (dialect C).source .error .endpointUnavailable set.code
    closeSocket L

/-- `LwipSocketTcpStream_TakeSocket`. -/
def takeSocket : Action ε Unit := do
  let reply ← socket L (dialect C).isSocketValid
  if !(← isOpen) then
    reportConnectFailureWithErrno (dialect C).source .error .endpointUnavailable reply.code
  else makeNonBlocking C L

/-- `LwipSocketTcpStream_Connect`. -/
def connect (address : Address) : Action ε Bool := do
  let reply ← call L (.connect address)
  let code := Dialect.codeOf (dialect C).failed reply
  if code = C.inProgress then
    let timeoutMs ← resolveConnectTimeoutMs L T
    completeConnect L (dialect C) timeoutMs
  else
    if (dialect C).isRemoteConnectError code || (dialect C).failed reply.result then
      reportImmediateFailure (dialect C) code
    return reply.result == 0

/-- `LwipSocketTcpStream_ConnectOrCloseOnFailure`. -/
def connectOrCloseOnFailure (tcpKeepalive : Bool) (address : Address) : Action ε Bool := do
  let connected ← connect C T L address
  if connected then applySocketOptions L (dialect C).source (options T tcpKeepalive)
  closeOnFailure L connected

/-- The calls of a `SolidSyslogLwipSocketTcpStream`. -/
def tcpStream (tcpKeepalive : Bool) : StreamOps ε where
  openStream address := openIfClosed (dialect C).source
    (takeSocketAndConnect (takeSocket C L) (connectOrCloseOnFailure C T L tcpKeepalive address))
  send data := sendToPeer L (dialect C) true data
  read size := readAvailable L (dialect C) size
  close := closeSocket L

end LwipSocket

/-! ## VxWorks -/

namespace VxWorks64

/-- `INT_MAX`. -/
def intMax : Nat :=
  2147483647

/-- `VxWorks64TcpStream_FitsTheStack`. -/
def fitsTheStack (size : Nat) : Bool :=
  size ≤ intMax

/-- `VxWorks64TcpStream_ClampToTheStack`. -/
def clampToTheStack (size : Nat) : Int :=
  if fitsTheStack size then size else intMax

/-- `SolidSyslogVxWorks64TcpStream.c`: its socket layer, whose `ERROR` is -1 and whose `OK` is 0.
Only a size that fits the stack is sent. -/
def dialect (C : Codes) : Dialect where
  source := "VxWorks64TcpStream"
  isSocketValid fd := fd ≥ 0
  failed result := result = -1
  lookupFailed result := result = -1
  inProgress := C.inProgress
  wouldBlock code := code == C.wouldBlock || code == C.again
  isRemoteConnectError code := code == C.connRefused || code == C.timedOut
  timeval timeoutMs := (timeoutMs / 1000, timeoutMs % 1000 * 1000)
  length size := clampToTheStack size

variable (C : Codes) (T : Tunables) (L : SocketLayer ε)

/-- `VxWorks64TcpStream_Connect`. -/
def connect (address : Address) : Action ε Bool := do
  let timeoutMs ← resolveConnectTimeoutMs L T
  let timeout := (dialect C).timeval timeoutMs
  let reply ← call L (.connectWithTimeout address timeout.1 timeout.2)
  let code := Dialect.codeOf (dialect C).failed reply
  if code = C.inProgress then
    reportConnectFailureWithErrno (dialect C).source .warning .connectTimedOut code
  else if (dialect C).isRemoteConnectError code || reply.result ≠ 0 then
    reportImmediateFailure (dialect C) code
  return reply.result == 0

/-- `VxWorks64TcpStream_ConnectOrCloseOnFailure`. -/
def connectOrCloseOnFailure (address : Address) : Action ε Bool := do
  let connected ← connect C T L address
  if connected then applySocketOptions L (dialect C).source [(.noDelay, 1), (.keepalive, 1)]
  closeOnFailure L connected

/-- The socket of `VxWorks64TcpStream_TakeSocketAndConnect`. -/
def takeSocket : Action ε Unit := do
  let reply ← socket L (dialect C).isSocketValid
  if !(← isOpen) then
    reportConnectFailureWithErrno (dialect C).source .error .endpointUnavailable reply.code

/-- The calls of a `SolidSyslogVxWorks64TcpStream`. -/
def tcpStream : StreamOps ε where
  openStream address := openIfClosed (dialect C).source
    (takeSocketAndConnect (takeSocket C L) (connectOrCloseOnFailure C T L address))
  send data := sendToPeer L (dialect C) (fitsTheStack data.length) data
  read size := readAvailable L (dialect C) size
  close := closeSocket L

end VxWorks64

/-! ## FreeRTOS-Plus-TCP -/

namespace PlusTcp

def source : String :=
  "PlusTcpTcpStream"

variable (C : Codes) (T : Tunables) (L : SocketLayer ε) (ticks : Nat → Nat)

/-- `PlusTcpTcpStream_PrimeArpIfMissing`. -/
def primeArpIfMissing (ip : UInt32) : Action ε Unit := do
  let cached ← callStack L (.isInArpCache ip)
  if cached.result = 0 then
    let _ ← callStack L (.outputArpRequest ip)
    let _ ← callStack L (.taskDelay (ticks 50))

/-- `PlusTcpTcpStream_SetSendTimeout` and `PlusTcpTcpStream_SetRecvTimeout`. -/
def setTimeouts (timeout : Nat) : Action ε Unit := do
  let _ ← setOptions L [(.sendTimeout, timeout), (.receiveTimeout, timeout)]

/-- `PlusTcpTcpStream_TryConnect`. -/
def tryConnect (address : Address) : Action ε Int := do
  let timeoutMs ← resolveConnectTimeoutMs L T
  primeArpIfMissing L ticks address.ip
  setTimeouts L (ticks timeoutMs)
  return (← call L (.connect address)).result

/-- `PlusTcpTcpStream_ReportConnectFailureWithCode`. -/
def reportConnectFailureWithCode (severity : Severity) (error : TcpError) (connectResult : Int) :
    Action ε Unit :=
  modify (·.reportFailure source ⟨severity, error, some connectResult⟩)

/-- `PlusTcpTcpStream_ReportFailedAttempt`. -/
def reportFailedAttempt (connectResult : Int) : Action ε Unit :=
  if connectResult = -C.timedOut then
    reportConnectFailureWithCode .warning .connectTimedOut connectResult
  else if connectResult = -C.notConn then
    reportConnectFailureWithCode .warning .connectRefused connectResult
  else reportConnectFailureWithCode .error .connectNotStarted connectResult

/-- `PlusTcpTcpStream_ConnectOrCloseOnFailure`. -/
def connectOrCloseOnFailure (address : Address) : Action ε Unit := do
  let connectResult ← tryConnect T L ticks address
  if connectResult = 0 then setTimeouts L 0
  else
    reportFailedAttempt C connectResult
    closeSocket L

/-- `PlusTcpTcpStream_OpenSocket`, and the attempt on the socket it gives. -/
def openSocketAndConnect (address : Address) : Action ε Unit := do
  let _ ← socket L (· ≠ -1)
  if ← isOpen then connectOrCloseOnFailure C T L ticks address
  else reportConnectFailure source .error .endpointUnavailable

/-- `PlusTcpTcpStream_Open` of a stream that is closed. -/
def takeSocketAndConnect (address : Address) : Action ε Bool := do
  openSocketAndConnect C T L ticks address
  let connected ← isOpen
  if connected then opened
  return connected

/-- `PlusTcpTcpStream_TrySend`. -/
def trySend (data : Bytes) : Action ε Bool := do
  let reply ← call L (.send data data.length)
  return wroteAllBytes reply.result data.length

/-- `PlusTcpTcpStream_SendOrCloseOnFailure`. -/
def sendOrCloseOnFailure (data : Bytes) : Action ε Bool := do
  let sent ← trySend L data
  if !sent then closeSocket L
  return sent

/-- `PlusTcpTcpStream_Send`. -/
def send (data : Bytes) : Action ε Bool := do
  if ← isOpen then sendOrCloseOnFailure L data else return false

/-- `PlusTcpTcpStream_ReceiveOrCloseOnFailure`. -/
def receiveOrCloseOnFailure (size : Nat) : Action ε Int := do
  let received ← call L (.recv size)
  if received.result ≥ 0 then return received.result
  else
    closeSocket L
    return -1

/-- `PlusTcpTcpStream_Read`. -/
def read (size : Nat) : Action ε Int := do
  if ← isOpen then receiveOrCloseOnFailure L size else return -1

/-- The calls of a `SolidSyslogPlusTcpTcpStream`. -/
def tcpStream : StreamOps ε where
  openStream address := openIfClosed source (takeSocketAndConnect C T L ticks address)
  send data := send L data
  read size := read L size
  close := closeSocket L

end PlusTcp

/-! ## One of the five -/

/-- The stream a library is built with: over lwIP's sockets, whether the stack has
`LWIP_TCP_KEEPALIVE`; over FreeRTOS-Plus-TCP, its `pdMS_TO_TICKS`. -/
inductive Backend where
  | posix
  | winsock
  | lwipSocket (tcpKeepalive : Bool)
  | vxWorks64
  | plusTcp (ticks : Nat → Nat)

namespace Backend

def source : Backend → String
  | .posix => "PosixTcpStream"
  | .winsock => "WinsockTcpStream"
  | .lwipSocket _ => "LwipSocketTcpStream"
  | .vxWorks64 => "VxWorks64TcpStream"
  | .plusTcp _ => PlusTcp.source

def tcpStream (C : Codes) (T : Tunables) (L : SocketLayer ε) : Backend → StreamOps ε
  | .posix => Posix.tcpStream C T L
  | .winsock => Winsock.tcpStream C T L
  | .lwipSocket tcpKeepalive => LwipSocket.tcpStream C T L tcpKeepalive
  | .vxWorks64 => VxWorks64.tcpStream C T L
  | .plusTcp ticks => PlusTcp.tcpStream C T L ticks

end Backend

end SolidSyslog.Tcp
