import SolidSyslog.Tcp.Calls

/-!
# Each of the five streams

How each stream readies its socket and connects it is what `TakesSocket` and `Connects` ask, so each
of the five meets what `Meets` says.
-/

namespace SolidSyslog.Tcp

open Lib

variable {ε : Type} {ticks : Nat → Nat} {L : SocketLayer ε} {D : Dialect} {source : String}
  {s t : TcpStream ε} {C : Codes} {T : Tunables}

/-! ## Waits and options -/

theorem inTime_of_ms {ms seconds microseconds : Nat} (hms : ms ≤ connectTimeoutMsMax.toNat)
    (hwait : seconds * 1000000 + microseconds = ms * 1000) :
    InTime ticks (.select seconds microseconds) :=
  hwait.trans_le (Nat.mul_le_mul_right 1000 hms)

/-- A wait counted in microseconds first. -/
theorem select_micros_inTime {ms : Nat} (hms : ms ≤ connectTimeoutMsMax.toNat) :
    InTime ticks (.select (ms * 1000 / 1000000) (ms * 1000 % 1000000)) :=
  inTime_of_ms hms (by omega)

/-- A wait counted in seconds and the milliseconds left. -/
theorem select_millis_inTime {ms : Nat} (hms : ms ≤ connectTimeoutMsMax.toNat) :
    InTime ticks (.select (ms / 1000) (ms % 1000 * 1000)) :=
  inTime_of_ms hms (by omega)

/-- A socket is configured by options, none of which matters, and is made non-blocking. -/
theorem configure_tries {options : List (SocketOption × Nat)} {setNonBlocking : Action ε Bool}
    (hoptions : ∀ pair ∈ options, InTime ticks (.setOption pair.1 pair.2))
    (h : Tries source ticks setNonBlocking) : Tries source ticks (do
      let _ ← setOptions L options
      setNonBlocking) := by
  intro s
  refine Ensures.bind (Q := fun _ t => Asked source ticks s t) (setOptions_asked hoptions)
    fun _ t hasked => ?_
  exact (h t).mono fun _ u htried => hasked.andTried htried

/-! ## Posix and Winsock -/

namespace Posix

theorem dialect_inTime : (dialect C).InTime ticks :=
  fun _ hms => select_micros_inTime hms

theorem addNonBlocking_asked :
    Ensures (addNonBlocking C L) (fun _ t => Asked source ticks s t) s := by
  refine Ensures.bind (Q := fun _ t => Asked source ticks s t) (call_asked rfl trivial)
    fun flags t hasked => ?_
  apply Ensures.ite
  · intro _
    refine Ensures.bind (Q := fun _ u => Asked source ticks t u) (call_asked rfl trivial) ?_
    exact fun _ u hset => hasked.trans hset
  · exact fun _ => hasked

theorem setNonBlocking_tries : Tries (dialect C).source ticks (setNonBlocking C L) := by
  intro s
  refine Ensures.bind (Q := fun _ t => Asked (dialect C).source ticks s t) addNonBlocking_asked ?_
  rintro ⟨nonBlocking, code⟩ t hasked
  cases nonBlocking with
  | true => exact hasked.tried
  | false => exact reportConnectFailureWithErrno_tried.mono fun _ u htold => hasked.andTried htold

theorem configureSocket_tries : Tries (dialect C).source ticks (configureSocket C T L) := by
  refine configure_tries (fun pair hpair => ?_) setNonBlocking_tries
  simp [options] at hpair
  obtain rfl | rfl | rfl | rfl | rfl | rfl := hpair <;> trivial

theorem tcpStream_meets : Meets (dialect C).source ticks (tcpStream C T L) :=
  meets_of (fun _ => true) (openAndConfigureSocket_takes configureSocket_tries)
    fun _ => connectOrCloseOnFailure_connects dialect_inTime

end Posix

namespace Winsock

theorem dialect_inTime : (dialect C).InTime ticks :=
  fun _ hms => select_millis_inTime hms

theorem setNonBlocking_tries : Tries (dialect C).source ticks (setNonBlocking C L) := by
  intro s
  refine Ensures.bind (Q := fun _ t => Asked (dialect C).source ticks s t) (call_asked rfl trivial)
    fun reply t hasked => ?_
  dsimp only
  cases reply.result != -1 with
  | true => exact hasked.tried
  | false => exact reportConnectFailureWithErrno_tried.mono fun _ u htold => hasked.andTried htold

theorem configureSocket_tries : Tries (dialect C).source ticks (configureSocket C T L) := by
  refine configure_tries (fun pair hpair => ?_) setNonBlocking_tries
  simp [options] at hpair
  obtain rfl | rfl | rfl | rfl | rfl := hpair <;> trivial

theorem tcpStream_meets : Meets (dialect C).source ticks (tcpStream C T L) :=
  meets_of (fun _ => true) (openAndConfigureSocket_takes configureSocket_tries)
    fun _ => connectOrCloseOnFailure_connects dialect_inTime

end Winsock

/-! ## lwIP's sockets -/

namespace LwipSocket

theorem dialect_inTime : (dialect C).InTime ticks :=
  fun _ hms => select_micros_inTime hms

theorem options_inTime {tcpKeepalive : Bool} :
    ∀ pair ∈ options T tcpKeepalive, InTime ticks (.setOption pair.1 pair.2) := by
  intro pair hpair
  cases tcpKeepalive with
  | true =>
    simp [options] at hpair
    obtain rfl | rfl | rfl | rfl | rfl := hpair <;> trivial
  | false =>
    simp [options] at hpair
    obtain rfl | rfl | rfl := hpair <;> trivial

theorem makeNonBlocking_readied {fd : Nat} (hheld : s.fd = some fd) : Ensures (makeNonBlocking C L)
    (fun _ t => Readied (dialect C).source ticks fd s t) s := by
  refine Ensures.bind (Q := fun _ t => Asked (dialect C).source ticks s t) (call_asked rfl trivial)
    fun set t hasked => ?_
  apply Ensures.ite
  · intro _
    refine Ensures.bind (Q := fun _ u => Tried (dialect C).source ticks false t u)
      reportConnectFailureWithErrno_tried fun _ u htold => ?_
    exact (hasked.andTried htold).readied_closed
  · exact fun _ => hasked.tried.readied hheld

theorem takeSocket_takes : TakesSocket (dialect C).source ticks (takeSocket C L) := by
  apply takesSocket_of
  · intro reply t hnone
    simp only [hnone, ensures_bind, ensures_isOpen]
    exact reportConnectFailureWithErrno_tried
  · intro reply t fd hheld
    simp only [hheld, ensures_bind, ensures_isOpen]
    exact makeNonBlocking_readied hheld

/-- The result of `connect` is zero or an error, so an attempt that fails is told. -/
theorem connect_tries {address : Address}
    (hconnect : ∀ socket env, (L.answer socket (.connect address) env).1.result ≤ 0) :
    Tries (dialect C).source ticks (connect C T L address) := by
  intro s
  refine Ensures.bind (Q := fun reply t => Asked (dialect C).source ticks s t ∧ reply.result ≤ 0)
    ⟨call_asked rfl trivial, hconnect _ _⟩ ?_
  rintro reply t ⟨hasked, hresult⟩
  apply Ensures.ite
  · intro _
    refine Ensures.bind
      (Q := fun ms u => ms ≤ connectTimeoutMsMax.toNat ∧ Asked (dialect C).source ticks t u)
      resolveConnectTimeoutMs_asked ?_
    rintro ms u ⟨hms, hresolved⟩
    have hcompletes : Tries (dialect C).source ticks (completeConnect L (dialect C) ms) :=
      completeConnect_tries dialect_inTime hms
    exact (hcompletes u).mono fun _ v htold => (hasked.trans hresolved).andTried htold
  · intro _
    by_cases hfailed : reply.result < 0
    · have hconnected : (reply.result == 0) = false := beq_false_of_ne (Int.ne_of_lt hfailed)
      have htells : ((dialect C).isRemoteConnectError (Dialect.codeOf (dialect C).failed reply) ||
          (dialect C).failed reply.result) = true := by simp [dialect, hfailed]
      rw [hconnected, if_pos htells]
      refine Ensures.bind (Q := fun _ u => Tried (dialect C).source ticks false t u)
        (reportImmediateFailure_tried _) fun _ u htold => ?_
      exact hasked.andTried htold
    · have hconnected : (reply.result == 0) = true := by
        rw [beq_iff_eq]
        omega
      have hquiet : ((dialect C).isRemoteConnectError (Dialect.codeOf (dialect C).failed reply) ||
          (dialect C).failed reply.result) = false := by
        simp [dialect, Dialect.codeOf, hfailed, C.connRefused_ne.symm, C.timedOut_ne.symm]
      rw [hconnected, if_neg (by simp [hquiet])]
      exact hasked.tried

end LwipSocket

/-- An attempt whose options are set once it stands. -/
theorem connects_of_options {connect : Action ε Bool} {options : List (SocketOption × Nat)}
    (h : Tries source ticks connect)
    (hoptions : ∀ pair ∈ options, InTime ticks (.setOption pair.1 pair.2)) :
    Connects source ticks (do
      let connected ← connect
      if connected then applySocketOptions L source options
      closeOnFailure L connected) := by
  intro s fd hheld
  refine Ensures.bind (h s) fun connected t htried => ?_
  cases connected with
  | true =>
    refine Ensures.bind (Q := fun _ u => Asked source ticks t u) (applySocketOptions_asked hoptions)
      fun _ u hasked => ?_
    exact closeOnFailure_connects hheld (htried.asked.trans hasked).tried
  | false => exact closeOnFailure_connects hheld htried

theorem LwipSocket.tcpStream_meets {tcpKeepalive : Bool} (hconnect : ∀ socket address env,
    (L.answer socket (.connect address) env).1.result ≤ 0) :
    Meets (dialect C).source ticks (tcpStream C T L tcpKeepalive) :=
  meets_of (fun _ => true) takeSocket_takes fun address =>
    connects_of_options (connect_tries fun socket => hconnect socket address) options_inTime

/-! ## VxWorks -/

namespace VxWorks64

theorem connect_tries {address : Address} :
    Tries (dialect C).source ticks (connect C T L address) := by
  intro s
  refine Ensures.bind
    (Q := fun ms t => ms ≤ connectTimeoutMsMax.toNat ∧ Asked (dialect C).source ticks s t)
    resolveConnectTimeoutMs_asked ?_
  rintro ms t ⟨hms, hresolved⟩
  have hwait : InTime ticks (.select (ms / 1000) (ms % 1000 * 1000)) := select_millis_inTime hms
  refine Ensures.bind (Q := fun _ u => Asked (dialect C).source ticks t u) (call_asked rfl hwait)
    fun reply u hcalled => ?_
  have hasked : Asked (dialect C).source ticks s u := hresolved.trans hcalled
  by_cases hconnected : reply.result = 0
  · have hcode : Dialect.codeOf (dialect C).failed reply = 0 := by
      simp [Dialect.codeOf, dialect, hconnected]
    have hquiet : (dialect C).isRemoteConnectError 0 = false := by
      simp [dialect, C.connRefused_ne.symm, C.timedOut_ne.symm]
    simp only [hcode, hquiet, hconnected]
    rw [if_neg C.inProgress_ne.symm]
    exact hasked.tried
  · simp only [beq_false_of_ne hconnected]
    apply Ensures.ite
    · intro _
      refine Ensures.bind (Q := fun _ v => Tried (dialect C).source ticks false u v)
        reportConnectFailureWithErrno_tried fun _ v htold => ?_
      exact hasked.andTried htold
    · intro _
      have htells : ((dialect C).isRemoteConnectError (Dialect.codeOf (dialect C).failed reply) ||
          decide (reply.result ≠ 0)) = true := by simp [hconnected]
      rw [if_pos htells]
      refine Ensures.bind (Q := fun _ v => Tried (dialect C).source ticks false u v)
        (reportImmediateFailure_tried _) fun _ v htold => ?_
      exact hasked.andTried htold

theorem takeSocket_takes : TakesSocket (dialect C).source ticks (takeSocket C L) := by
  apply takesSocket_of
  · intro reply t hnone
    simp only [hnone, ensures_bind, ensures_isOpen]
    exact reportConnectFailureWithErrno_tried
  · intro reply t fd hheld
    have hready : Readied (dialect C).source ticks fd t t := (Asked.refl t).tried.readied hheld
    simp only [hheld, ensures_bind, ensures_isOpen]
    exact hready

theorem options_inTime :
    ∀ pair ∈ [(SocketOption.noDelay, 1), (.keepalive, 1)],
      InTime ticks (.setOption pair.1 pair.2) := by
  intro pair hpair
  simp at hpair
  obtain rfl | rfl := hpair <;> trivial

theorem tcpStream_meets : Meets (dialect C).source ticks (tcpStream C T L) :=
  meets_of (fun data => fitsTheStack data.length) takeSocket_takes fun _ =>
    connects_of_options connect_tries options_inTime

end VxWorks64

/-! ## FreeRTOS-Plus-TCP -/

namespace PlusTcp

theorem primeArpIfMissing_asked {ip : UInt32} :
    Ensures (primeArpIfMissing L ticks ip) (fun _ t => Asked source ticks s t) s := by
  refine Ensures.bind (Q := fun _ t => Asked source ticks s t) (callStack_asked rfl trivial)
    fun cached t hcached => ?_
  apply Ensures.ite
  · intro _
    refine Ensures.bind (Q := fun _ u => Asked source ticks t u) (callStack_asked rfl trivial)
      fun _ u hrequested => ?_
    refine Ensures.bind (Q := fun _ v => Asked source ticks u v) (callStack_asked rfl trivial) ?_
    exact fun _ v hdelayed => (hcached.trans hrequested).trans hdelayed
  · exact fun _ => hcached

theorem setTimeouts_asked {timeout : Nat}
    (h : timeout = 0 ∨ ∃ ms ≤ connectTimeoutMsMax.toNat, timeout = ticks ms) :
    Ensures (setTimeouts L timeout) (fun _ t => Asked source ticks s t) s := by
  have hoptions : ∀ pair ∈ [(SocketOption.sendTimeout, timeout), (.receiveTimeout, timeout)],
      InTime ticks (.setOption pair.1 pair.2) := by
    intro pair hpair
    simp at hpair
    obtain rfl | rfl := hpair <;> exact h
  exact Ensures.bind (Q := fun _ t => Asked source ticks s t) (setOptions_asked hoptions)
    fun _ _ hasked => hasked

theorem tryConnect_asked {address : Address} :
    Ensures (tryConnect T L ticks address) (fun _ t => Asked source ticks s t) s := by
  refine Ensures.bind (Q := fun ms t => ms ≤ connectTimeoutMsMax.toNat ∧ Asked source ticks s t)
    resolveConnectTimeoutMs_asked ?_
  rintro ms t ⟨hms, hresolved⟩
  refine Ensures.bind (Q := fun _ u => Asked source ticks t u) primeArpIfMissing_asked
    fun _ u hprimed => ?_
  refine Ensures.bind (Q := fun _ v => Asked source ticks u v)
    (setTimeouts_asked (.inr ⟨ms, hms, rfl⟩)) fun _ v hset => ?_
  refine Ensures.bind (Q := fun _ w => Asked source ticks v w) (call_asked rfl trivial) ?_
  exact fun _ w hcalled => ((hresolved.trans hprimed).trans hset).trans hcalled

theorem reportFailedAttempt_tried {connectResult : Int} :
    Ensures (reportFailedAttempt C connectResult)
      (fun _ t => Tried PlusTcp.source ticks false s t) s := by
  unfold reportFailedAttempt
  apply Ensures.ite
  · exact fun _ => reportFailure_tried _
  · intro _
    apply Ensures.ite
    · exact fun _ => reportFailure_tried _
    · exact fun _ => reportFailure_tried _

theorem connectOrCloseOnFailure_readied {address : Address} {fd : Nat} (hheld : s.fd = some fd) :
    Ensures (connectOrCloseOnFailure C T L ticks address)
      (fun _ t => Readied PlusTcp.source ticks fd s t) s := by
  refine Ensures.bind (Q := fun _ t => Asked PlusTcp.source ticks s t) tryConnect_asked
    fun connectResult t hasked => ?_
  apply Ensures.ite
  · intro _
    refine Ensures.mono (Q := fun _ u => Asked PlusTcp.source ticks t u)
      (setTimeouts_asked (.inl rfl)) ?_
    exact fun _ u hcleared => (hasked.trans hcleared).tried.readied hheld
  · intro _
    refine Ensures.bind (Q := fun _ u => Tried PlusTcp.source ticks false t u)
      reportFailedAttempt_tried fun _ u htold => ?_
    exact (hasked.andTried htold).readied_closed

theorem openSocketAndConnect_takes {address : Address} :
    TakesSocket PlusTcp.source ticks (openSocketAndConnect C T L ticks address) := by
  apply takesSocket_of
  · intro reply t hnone
    simp only [hnone, ensures_bind, ensures_isOpen]
    exact reportConnectFailure_tried
  · intro reply t fd hheld
    simp only [hheld, ensures_bind, ensures_isOpen]
    exact connectOrCloseOnFailure_readied hheld

theorem takeSocketAndConnect_opens {address : Address} (hclosed : s.fd = none) :
    Ensures (takeSocketAndConnect C T L ticks address)
      (fun ok t => Opened PlusTcp.source ticks ok s t) s := by
  refine Ensures.bind (openSocketAndConnect_takes s hclosed) ?_
  rintro _ t ⟨hattempted, hfresh⟩
  simp only [ensures_bind, ensures_isOpen]
  cases hheld : t.fd with
  | none =>
    rw [hheld] at hattempted
    exact hattempted.opened 0 hheld nofun
  | some fd =>
    rw [hheld] at hattempted
    exact hattempted.opened fd hheld fun _ hsound => hfresh hsound fd hheld

theorem send_sent (data : Bytes) :
    Ensures (send L data) (fun ok t => Sent source ticks data ok s t) s := by
  unfold send
  simp only [ensures_bind, ensures_isOpen]
  apply Ensures.ite
  · intro _
    refine Ensures.bind (Q := fun ok t => Wrote source ticks data ok s t) ?_
      fun ok t hwrote => hwrote.sent
    exact ⟨rfl, _, List.take_prefix _ _, wroteAllBytes_iff, ask_send_passed data _⟩
  · intro hnone
    have hclosed : s.fd = none := by simpa using hnone
    exact ⟨hclosed, [], List.nil_prefix, nofun, (Moves.refl s).passed⟩

theorem send_refused (hclosed : s.fd = none) (data : Bytes) :
    Ensures (send L data) (fun ok _ => ok = false) s := by
  unfold send
  simp only [ensures_bind, ensures_isOpen, hclosed]
  rfl

theorem read_received (size : Nat) :
    Ensures (read L size) (fun n t => Received source ticks n s t) s := by
  unfold read
  simp only [ensures_bind, ensures_isOpen]
  apply Ensures.ite
  · intro _
    refine Ensures.bind (Q := fun _ t => Asked source ticks s t) (call_asked rfl trivial)
      fun received t hasked => ?_
    apply Ensures.ite
    · exact fun hsome => ⟨hasked.2, .inl ⟨hsome, hasked.1⟩⟩
    · exact fun _ => hasked.closed_received
  · intro hnone
    have hclosed : s.fd = none := by simpa using hnone
    exact ⟨.refl s, .inr ⟨rfl, hclosed⟩⟩

theorem tcpStream_meets : Meets PlusTcp.source ticks (tcpStream C T L ticks) where
  opens _ _ hclosed := openIfClosed_opens hclosed (takeSocketAndConnect_opens hclosed)
  staysOpen _ _ _ hheld := openIfClosed_stays hheld
  sends data _ := send_sent data
  reads size _ := read_received size
  closes _ := closeSocket_moves

end PlusTcp

/-! ## One of the five -/

namespace Backend

/-- How a stream counts the waits of its socket layer. -/
def waitTicks : Backend → Nat → Nat
  | .plusTcp ticks => ticks
  | _ => id

/-- What lwIP's `connect` answers is zero or an error. -/
def ConnectAnswers (L : SocketLayer ε) : Backend → Prop
  | .lwipSocket _ => ∀ socket address env, (L.answer socket (.connect address) env).1.result ≤ 0
  | _ => True

theorem tcpStream_meets (B : Backend) (h : B.ConnectAnswers L) :
    Meets B.source B.waitTicks (B.tcpStream C T L) := by
  cases B with
  | posix => exact Posix.tcpStream_meets
  | winsock => exact Winsock.tcpStream_meets
  | lwipSocket tcpKeepalive => exact LwipSocket.tcpStream_meets h
  | vxWorks64 => exact VxWorks64.tcpStream_meets
  | plusTcp ticks => exact PlusTcp.tcpStream_meets

/-- A closed stream has its stack refuse what it sends, but over FreeRTOS-Plus-TCP it refuses it
itself. -/
def RefusesClosed (L : SocketLayer ε) : Backend → Prop
  | .plusTcp _ => True
  | _ => L.RefusesNoSocket

theorem tcpStream_refuses (B : Backend) (h : B.RefusesClosed L) (hclosed : s.fd = none)
    (data : Bytes) : Ensures ((B.tcpStream C T L).send data) (fun ok _ => ok = false) s := by
  cases B with
  | posix => exact sendToPeer_refused h hclosed _ data
  | winsock => exact sendToPeer_refused h hclosed _ data
  | lwipSocket tcpKeepalive => exact sendToPeer_refused h hclosed _ data
  | vxWorks64 => exact sendToPeer_refused h hclosed _ data
  | plusTcp ticks => exact PlusTcp.send_refused hclosed data

end Backend

end SolidSyslog.Tcp
