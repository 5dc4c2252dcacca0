import SolidSyslog.Lib.Streak
import SolidSyslog.Tcp.SocketStream

/-!
# What an attempt to connect leaves

`Sound` holds of a stream whenever a call of its socket layer returns: its sockets are used while it
has them and closed once, its waits are bounded, and of each streak of like failures the first is
reported. `Moves new s t` says that the stream went from `s` to `t` over attempts with the outcomes
`new`, without a byte sent.
-/

namespace SolidSyslog.Tcp

open Lib

/-! ## What a trace shows -/

/-- The outcomes of the attempts to connect. -/
def attempts (t : List TcpEvent) : List (Option Failure) :=
  t.filterMap fun
    | .failed failure => some (some failure)
    | .connected _ => some none
    | .called .. => none

/-- The sockets that were connected. -/
def conversations (t : List TcpEvent) : List Nat :=
  t.filterMap fun
    | .connected socket => socket
    | _ => none

/-- What an entry has the socket layer take for a socket. -/
def TcpEvent.takes (socket : Nat) : TcpEvent → Bytes
  | .called (some other) (.send data _) reply =>
    if other = socket then data.take reply.result.toNat else []
  | _ => []

/-- The bytes that the socket layer took for a socket. -/
def taken (socket : Nat) (t : List TcpEvent) : Bytes :=
  t.flatMap (TcpEvent.takes socket)

theorem attempts_concat (t : List TcpEvent) (entry : TcpEvent) :
    attempts (t ++ [entry]) = attempts t ++ attempts [entry] :=
  List.filterMap_append

theorem conversations_concat (t : List TcpEvent) (entry : TcpEvent) :
    conversations (t ++ [entry]) = conversations t ++ conversations [entry] :=
  List.filterMap_append

theorem taken_concat (socket : Nat) (t : List TcpEvent) (entry : TcpEvent) :
    taken socket (t ++ [entry]) = taken socket t ++ entry.takes socket := by
  simp [taken]

/-- A call that obtains, sends and closes nothing. -/
def TcpCall.plain : TcpCall → Bool
  | .socket | .send .. | .close => false
  | _ => true

theorem TcpCall.plain_handles {request : TcpCall} (h : request.plain = true) (socket : Option Nat)
    (reply : Reply) : sockets.obtains (.called socket request reply) = none ∧
      sockets.uses (.called socket request reply) = socket.map some ∧
      sockets.releases (.called socket request reply) = none ∧
      ∀ other, (TcpEvent.called socket request reply).takes other = [] := by
  cases request with
  | socket | send | close => cases h
  | _ => exact ⟨rfl, rfl, rfl, fun _ => by cases socket <;> rfl⟩

/-! ## Soundness -/

variable {ε : Type} {source : String} {ticks : Nat → Nat}

/-- What makes two failures alike. -/
def Failure.detail (failure : Failure) : Int :=
  failure.error.detail

/-- The reports of failed attempts. -/
def connectFailures (events : List ErrorEvent) : List ErrorEvent :=
  events.filter (·.category = streamConnectFailed)

/-- A call that waits does so within the greatest deadline, which is `ticks` of it where the stack
counts in ticks, or not at all. -/
def InTime (ticks : Nat → Nat) : TcpCall → Prop
  | .select seconds microseconds | .connectWithTimeout _ seconds microseconds =>
    seconds * 1000000 + microseconds ≤ connectTimeoutMsMax.toNat * 1000
  | .setOption .sendTimeout timeout | .setOption .receiveTimeout timeout =>
    timeout = 0 ∨ ∃ ms ≤ connectTimeoutMsMax.toNat, timeout = ticks ms
  | _ => True

/-- What holds of a stream whenever a call of its socket layer returns. -/
structure Sound (source : String) (ticks : Nat → Nat) (s : TcpStream ε) : Prop where
  ledger : Ledger sockets s.fd.toList s.trace
  inTime : ∀ socket request reply, .called socket request reply ∈ s.trace → InTime ticks request
  health : (lastOutcome (attempts s.trace)).map Failure.detail =
    if s.openHealth.failing then some s.openHealth.failedDetail else none
  reports : connectFailures s.events =
    (firsts Failure.detail (attempts s.trace)).map (Failure.event source)
  connected : ∀ socket ∈ conversations s.trace, socket ∈ sockets.obtained s.trace
  fresh : ∀ socket, socket ∉ sockets.obtained s.trace → taken socket s.trace = []
  numbered : ∀ socket ∈ sockets.obtained s.trace, socket < s.freshSocket

theorem Sound.initial (env : ε) : Sound source ticks (TcpStream.initial env) :=
  ⟨.nil, fun _ _ _ h => absurd h List.not_mem_nil, rfl, rfl, List.forall_mem_nil _, fun _ _ => rfl,
    List.forall_mem_nil _⟩

/-- The stream goes on over attempts with the outcomes `new`, and the socket layer takes nothing. -/
structure Moves (source : String) (ticks : Nat → Nat) (new : List (Option Failure))
    (s t : TcpStream ε) : Prop where
  attempts : attempts t.trace = attempts s.trace ++ new
  conversations : conversations t.trace = conversations s.trace
  taken : ∀ socket, taken socket t.trace = taken socket s.trace
  sound : Sound source ticks s → Sound source ticks t

namespace Moves

variable {new more : List (Option Failure)} {s t u : TcpStream ε}

theorem refl (s : TcpStream ε) : Moves source ticks [] s s :=
  ⟨(List.append_nil _).symm, rfl, fun _ => rfl, id⟩

theorem trans (h : Moves source ticks new s t) (h' : Moves source ticks more t u) :
    Moves source ticks (new ++ more) s u := by
  refine ⟨?_, h'.conversations.trans h.conversations, fun socket => ?_, h'.sound ∘ h.sound⟩
  · rw [h'.attempts, h.attempts, List.append_assoc]
  · rw [h'.taken, h.taken]

theorem andThen (h : Moves source ticks [] s t) (h' : Moves source ticks new t u) :
    Moves source ticks new s u :=
  h.trans h'

end Moves

/-- An attempt that connects has nothing to tell yet; one that does not has told one failure. -/
def Outcome (ok : Bool) (new : List (Option Failure)) : Prop :=
  if ok then new = [] else ∃ failure, new = [some failure]

/-- The stream went on and kept its socket. -/
def Asked (source : String) (ticks : Nat → Nat) (s t : TcpStream ε) : Prop :=
  t.fd = s.fd ∧ Moves source ticks [] s t

/-- The stream made an attempt, or part of one, and kept its socket. -/
def Tried (source : String) (ticks : Nat → Nat) (ok : Bool) (s t : TcpStream ε) : Prop :=
  t.fd = s.fd ∧ ∃ new, Outcome ok new ∧ Moves source ticks new s t

section Steps

variable {s t u : TcpStream ε} {ok : Bool}

theorem Asked.refl (s : TcpStream ε) : Asked source ticks s s :=
  ⟨rfl, .refl s⟩

theorem Asked.trans (h : Asked source ticks s t) (h' : Asked source ticks t u) :
    Asked source ticks s u :=
  ⟨h'.1.trans h.1, h.2.andThen h'.2⟩

theorem Asked.tried (h : Asked source ticks s t) : Tried source ticks true s t :=
  ⟨h.1, [], rfl, h.2⟩

theorem Asked.andTried (h : Asked source ticks s t) (h' : Tried source ticks ok t u) :
    Tried source ticks ok s u := by
  obtain ⟨hfd, new, houtcome, hmoves⟩ := h'
  exact ⟨hfd.trans h.1, new, houtcome, h.2.andThen hmoves⟩

theorem Tried.asked (h : Tried source ticks true s t) : Asked source ticks s t := by
  obtain ⟨hfd, new, rfl, hmoves⟩ := h
  exact ⟨hfd, hmoves⟩

end Steps

/-! ## One call -/

variable {L : SocketLayer ε} {s t : TcpStream ε} {socket : Option Nat} {request : TcpCall}
  {reply : Reply}

/-- A call leaves the stream sound that leaves the sockets in order. -/
theorem Sound.called (h : Sound source ticks s)
    (htrace : t.trace = s.trace ++ [.called socket request reply])
    (hhealth : t.openHealth = s.openHealth) (hevents : t.events = s.events)
    (hrequest : InTime ticks request) (hledger : Ledger sockets t.fd.toList t.trace)
    (htakes : ∀ other, other ∉ sockets.obtained t.trace →
      (TcpEvent.called socket request reply).takes other = [])
    (hnumbered : ∀ new ∈ sockets.obtains (.called socket request reply), new = s.freshSocket) :
    Sound source ticks t := by
  have hattempts : attempts t.trace = attempts s.trace := by
    rw [htrace, attempts_concat]
    exact List.append_nil _
  have hobtained : sockets.obtained t.trace = sockets.obtained s.trace ++
      (sockets.obtains (.called socket request reply)).toList := by
    rw [htrace, Handling.obtained_concat]
  refine ⟨hledger, ?_, ?_, ?_, ?_, ?_, ?_⟩
  · intro socket' request' reply' hmem
    rw [htrace] at hmem
    rcases List.mem_append.1 hmem with hmem | hmem
    · exact h.inTime socket' request' reply' hmem
    · cases List.mem_singleton.1 hmem
      exact hrequest
  · rw [hattempts, hhealth]
    exact h.health
  · rw [hattempts, hevents]
    exact h.reports
  · intro other hother
    rw [htrace, conversations_concat] at hother
    have hbefore : other ∈ conversations s.trace := by simpa [conversations] using hother
    rw [hobtained]
    exact List.mem_append_left _ (h.connected other hbefore)
  · intro other hother
    have hbefore : other ∉ sockets.obtained s.trace := by
      rw [hobtained] at hother
      exact fun hmem => hother (List.mem_append_left _ hmem)
    rw [htrace, taken_concat, h.fresh other hbefore, htakes other hother]
    rfl
  · intro other hother
    unfold TcpStream.freshSocket
    rw [hobtained] at hother ⊢
    rw [List.length_append]
    rcases List.mem_append.1 hother with hother | hother
    · have hbefore := h.numbered other hother
      unfold TcpStream.freshSocket at hbefore
      omega
    · have hnew := hnumbered other (Option.mem_toList.1 hother)
      have hlength := List.length_pos_of_mem hother
      unfold TcpStream.freshSocket at hnew
      omega

/-- A call that sends nothing. -/
theorem Moves.called (htrace : t.trace = s.trace ++ [.called socket request reply])
    (htakes : ∀ other, (TcpEvent.called socket request reply).takes other = [])
    (hsound : Sound source ticks s → Sound source ticks t) : Moves source ticks [] s t := by
  refine ⟨?_, ?_, fun other => ?_, hsound⟩
  · rw [htrace]
    exact attempts_concat _ _
  · rw [htrace]
    exact (conversations_concat _ _).trans (List.append_nil _)
  · rw [htrace, taken_concat, htakes, List.append_nil]

/-- A plain call, made with the stream's socket or with none. -/
theorem ask_asked (hsocket : socket = s.fd ∨ socket = none) (hplain : request.plain = true)
    (hrequest : InTime ticks request) : Asked source ticks s (s.ask L socket request).2 := by
  obtain ⟨hobtains, huses, hreleases, htakes⟩ :=
    TcpCall.plain_handles hplain socket (L.answer socket request s.env).1
  refine ⟨rfl, .called rfl htakes fun h => ?_⟩
  refine h.called rfl rfl rfl hrequest ?_ (fun other _ => htakes other) ?_
  · refine h.ledger.use ?_ hobtains hreleases
    intro used hused
    rw [huses] at hused
    obtain ⟨held, rfl, rfl⟩ := Option.map_eq_some_iff.1 hused
    rcases hsocket with hheld | hnone
    · exact ⟨held, by simp [← hheld], rfl⟩
    · cases hnone
  · rw [hobtains]
    nofun

@[simp] theorem ensures_isOpen {Q : Bool → TcpStream ε → Prop} :
    Ensures isOpen Q s = Q s.fd.isSome s :=
  rfl

theorem call_asked (hplain : request.plain = true) (hrequest : InTime ticks request) :
    Ensures (call L request) (fun _ t => Asked source ticks s t) s :=
  ask_asked (.inl rfl) hplain hrequest

theorem callStack_asked (hplain : request.plain = true) (hrequest : InTime ticks request) :
    Ensures (callStack L request) (fun _ t => Asked source ticks s t) s :=
  ask_asked (.inr rfl) hplain hrequest

theorem bounded_le (ms bound : UInt32) :
    (if ms > bound then bound else ms).toNat ≤ bound.toNat := by
  split
  · exact Nat.le_refl _
  · next h => exact UInt32.le_iff_toNat_le.1 (UInt32.not_lt.1 h)

theorem resolveConnectTimeoutMs_asked {T : Tunables} :
    Ensures (resolveConnectTimeoutMs L T)
      (fun ms t => ms ≤ connectTimeoutMsMax.toNat ∧ Asked source ticks s t) s := by
  refine ⟨bounded_le _ _, rfl, (List.append_nil _).symm, rfl, fun _ => rfl, fun h => ?_⟩
  exact ⟨h.ledger, h.inTime, h.health, h.reports, h.connected, h.fresh, h.numbered⟩

theorem setOptions_asked {options : List (SocketOption × Nat)}
    (hoptions : ∀ pair ∈ options, InTime ticks (.setOption pair.1 pair.2)) :
    Ensures (setOptions L options) (fun _ t => Asked source ticks s t) s := by
  induction options generalizing s with
  | nil => exact .refl s
  | cons pair rest ih =>
    have hfirst := hoptions pair List.mem_cons_self
    have hset : Ensures (call L (.setOption pair.1 pair.2)) (fun _ t => Asked source ticks s t) s :=
      call_asked rfl hfirst
    refine Ensures.bind hset fun _ t hset => ?_
    refine Ensures.bind (ih fun other hother => hoptions other (List.mem_cons_of_mem _ hother))
      fun _ u hothers => ?_
    exact hset.trans hothers

/-! ## Reports -/

/-- What an entry that is no call does to soundness is what it does to the outcomes. -/
theorem Sound.note {entry : TcpEvent} {outcome : Option Failure}
    (h : Sound source ticks s) (htrace : t.trace = s.trace ++ [entry]) (hfd : t.fd = s.fd)
    (hentry : entry = .connected s.fd ∧ outcome = none ∨
      ∃ failure, entry = .failed failure ∧ outcome = some failure)
    (hhealth : outcome.map Failure.detail =
      if t.openHealth.failing then some t.openHealth.failedDetail else none)
    (hreports : connectFailures t.events = connectFailures s.events ++
      (newFault Failure.detail (lastOutcome (attempts s.trace)) outcome).map
        (Failure.event source)) :
    Sound source ticks t := by
  have hattempts : attempts t.trace = attempts s.trace ++ [outcome] := by
    rw [htrace, attempts_concat]
    obtain ⟨rfl, rfl⟩ | ⟨failure, rfl, rfl⟩ := hentry <;> rfl
  have hidle : sockets.obtains entry = none ∧ sockets.uses entry = none ∧
      sockets.releases entry = none ∧ ∀ other, entry.takes other = [] := by
    obtain ⟨rfl, -⟩ | ⟨failure, rfl, -⟩ := hentry <;> exact ⟨rfl, rfl, rfl, fun _ => rfl⟩
  obtain ⟨hobtains, huses, hreleases, htakes⟩ := hidle
  have hobtained : sockets.obtained t.trace = sockets.obtained s.trace := by
    rw [htrace, Handling.obtained_concat, hobtains, Option.toList_none, List.append_nil]
  refine ⟨?_, ?_, ?_, ?_, ?_, ?_, ?_⟩
  · rw [hfd, htrace]
    refine h.ledger.use ?_ hobtains hreleases
    intro used hused
    rw [huses] at hused
    cases hused
  · intro socket request reply hmem
    rw [htrace] at hmem
    rcases List.mem_append.1 hmem with hmem | hmem
    · exact h.inTime socket request reply hmem
    · obtain ⟨rfl, -⟩ | ⟨failure, rfl, -⟩ := hentry <;> cases List.mem_singleton.1 hmem
  · rw [hattempts, lastOutcome_concat]
    exact hhealth
  · rw [hattempts, firsts_concat, List.map_append, hreports, h.reports]
  · intro socket hsocket
    rw [hobtained]
    rw [htrace, conversations_concat] at hsocket
    rcases List.mem_append.1 hsocket with hsocket | hsocket
    · exact h.connected socket hsocket
    · obtain ⟨rfl, -⟩ | ⟨failure, rfl, -⟩ := hentry
      · cases hheld : s.fd with
        | some fd =>
          rw [hheld] at hsocket
          obtain rfl := List.mem_singleton.1 hsocket
          exact h.ledger.mem_obtained (by simp [hheld])
        | none =>
          rw [hheld] at hsocket
          cases hsocket
      · cases hsocket
  · intro socket hsocket
    rw [hobtained] at hsocket
    rw [htrace, taken_concat, htakes, List.append_nil]
    exact h.fresh socket hsocket
  · unfold TcpStream.freshSocket
    rw [hobtained]
    exact h.numbered

theorem connectFailures_append (events more : List ErrorEvent) :
    connectFailures (events ++ more) = connectFailures events ++ connectFailures more :=
  List.filter_append ..

/-- A failure that is news begins a streak. -/
theorem admitted_eq {health : OpenHealth} {previous : Option Failure} (failure : Failure)
    (h : previous.map Failure.detail = if health.failing then some health.failedDetail else none) :
    (newFault Failure.detail previous (some failure) =
        if (health.admitted failure.detail).1 then [failure] else []) ∧
      (health.admitted failure.detail).2.failing = true ∧
      (health.admitted failure.detail).2.failedDetail = failure.detail := by
  unfold newFault OpenHealth.admitted
  rw [h]
  cases hfailing : health.failing with
  | true =>
    by_cases hsame : health.failedDetail = failure.detail
    · simp [hsame, hfailing]
    · simp [hsame, Ne.symm hsame]
  | false => simp

theorem reportFailure_moves (failure : Failure) :
    Moves source ticks [some failure] s (s.reportFailure source failure) := by
  refine ⟨attempts_concat _ _, ?_, ?_, ?_⟩
  · exact (conversations_concat _ _).trans (List.append_nil _)
  · exact fun _ => (taken_concat _ _ _).trans (List.append_nil _)
  · intro h
    obtain ⟨hnew, hfailing, hdetail⟩ := admitted_eq failure h.health
    refine h.note rfl rfl (.inr ⟨failure, rfl, rfl⟩) ?_ ?_
    · show _ = if (s.openHealth.admitted failure.detail).2.failing then
        some (s.openHealth.admitted failure.detail).2.failedDetail else none
      rw [hfailing, hdetail]
      rfl
    · rw [hnew]
      show connectFailures (if (s.openHealth.admitted failure.detail).1 then
        s.events ++ [failure.event source] else s.events) = _
      split
      · exact connectFailures_append _ _
      · exact (List.append_nil _).symm

theorem reportFailure_tried (failure : Failure) :
    Tried source ticks false s (s.reportFailure source failure) :=
  ⟨rfl, _, ⟨failure, rfl⟩, reportFailure_moves failure⟩

theorem reportConnectFailure_tried {severity : Severity} {error : TcpError} :
    Ensures (reportConnectFailure source severity error)
      (fun _ t => Tried source ticks false s t) s :=
  reportFailure_tried _

theorem reportConnectFailureWithErrno_tried {severity : Severity} {error : TcpError} {code : Int} :
    Ensures (reportConnectFailureWithErrno source severity error code)
      (fun _ t => Tried source ticks false s t) s := by
  unfold reportConnectFailureWithErrno
  apply Ensures.ite
  · exact fun _ => reportFailure_tried _
  · exact fun _ => reportConnectFailure_tried

/-- An event of another kind is of no matter to the attempts. -/
theorem report_asked {severity : Severity} {category : Category} {error : TcpError}
    (hcategory : category ≠ streamConnectFailed) :
    Ensures (report severity category source error) (fun _ t => Asked source ticks s t) s := by
  refine ⟨rfl, (List.append_nil _).symm, rfl, fun _ => rfl, fun h => ?_⟩
  refine ⟨h.ledger, h.inTime, h.health, ?_, h.connected, h.fresh, h.numbered⟩
  have hother : connectFailures [⟨severity, category, false, source, error.detail, 0⟩] = [] := by
    simp [connectFailures, hcategory]
  refine (connectFailures_append _ _).trans ?_
  rw [hother, List.append_nil]
  exact h.reports

theorem applySocketOptions_asked {options : List (SocketOption × Nat)}
    (hoptions : ∀ pair ∈ options, InTime ticks (.setOption pair.1 pair.2)) :
    Ensures (applySocketOptions L source options) (fun _ t => Asked source ticks s t) s := by
  have hset : Ensures (setOptions L options) (fun _ t => Asked source ticks s t) s :=
    setOptions_asked hoptions
  refine Ensures.bind hset fun accepted t hset => ?_
  cases accepted with
  | true => exact hset
  | false => exact (report_asked (by decide)).mono fun _ u hreport => hset.trans hreport

/-- The stream's socket is connected: the streak of failures is over, and a conversation begins. -/
structure Connected (source : String) (ticks : Nat → Nat) (socket : Nat) (s t : TcpStream ε) :
    Prop where
  fd : t.fd = some socket
  attempts : attempts t.trace = attempts s.trace ++ [none]
  conversations : conversations t.trace = conversations s.trace ++ [socket]
  taken : ∀ other, taken other t.trace = taken other s.trace
  sound : Sound source ticks s → Sound source ticks t

theorem opened_connected {socket : Nat} (hheld : s.fd = some socket) :
    Ensures opened (fun _ t => Connected source ticks socket s t) s := by
  refine ⟨hheld, attempts_concat _ _, ?_, ?_, ?_⟩
  · refine (conversations_concat _ _).trans ?_
    rw [hheld]
    rfl
  · exact fun _ => (taken_concat _ _ _).trans (List.append_nil _)
  · intro h
    refine h.note rfl rfl (.inl ⟨rfl, rfl⟩) rfl ?_
    cases lastOutcome (Tcp.attempts s.trace) <;> exact (List.append_nil _).symm

/-! ## Sockets -/

/-- The socket that `socket` gives, if it gives one, was never given before. -/
theorem socket_moves {isValid : Int → Bool} (hnone : s.fd = none) :
    Ensures (Tcp.socket L isValid) (fun _ t => Moves source ticks [] s t ∧
      (Sound source ticks s → ∀ new, t.fd = some new → new ∉ sockets.obtained s.trace)) s := by
  have hgiven : ∀ given : Option Nat, (∀ new ∈ given, new = s.freshSocket) →
      Moves source ticks [] s (s.given L given) ∧
      (Sound source ticks s → ∀ new, given = some new → new ∉ sockets.obtained s.trace) := by
    intro given hfresh
    constructor
    · refine .called rfl (fun _ => by cases given <;> rfl) fun h => ?_
      refine h.called rfl rfl rfl trivial ?_ (fun other _ => by cases given <;> rfl) hfresh
      have hledger := h.ledger
      rw [hnone] at hledger
      cases given with
      | none => exact hledger.use nofun rfl rfl
      | some new =>
        obtain rfl := hfresh new rfl
        exact hledger.obtain rfl rfl (fun hmem => Nat.lt_irrefl _ (h.numbered _ hmem)) rfl
    · intro h new hnew hmem
      have hlt := h.numbered new hmem
      rw [hfresh new hnew] at hlt
      exact Nat.lt_irrefl _ hlt
  refine hgiven _ fun new hnew => ?_
  split at hnew
  · exact (Option.some.inj hnew).symm
  · cases hnew

/-- The stream closes the socket it has, if it has one. -/
theorem closeSocket_moves :
    Ensures (closeSocket L) (fun _ t => t.fd = none ∧ Moves source ticks [] s t) s := by
  cases hheld : s.fd with
  | none =>
    have hstays : Ensures (closeSocket L) (fun _ t => t = s) s := by
      simp [closeSocket, isOpen, hheld]
    refine hstays.mono ?_
    rintro _ _ rfl
    exact ⟨hheld, .refl _⟩
  | some fd =>
    have hcloses : Ensures (closeSocket L)
        (fun _ t => t = { (s.ask L (some fd) .close).2 with fd := none }) s := by
      simp [closeSocket, isOpen, call, hheld]
    refine hcloses.mono ?_
    rintro _ _ rfl
    refine ⟨rfl, .called rfl (fun _ => rfl) fun h => ?_⟩
    refine h.called rfl rfl rfl trivial ?_ (fun _ _ => rfl) nofun
    have hledger := h.ledger
    rw [hheld] at hledger
    exact hledger.release (fun _ hused => (Option.some.inj hused).symm) rfl rfl

end SolidSyslog.Tcp
