import SolidSyslog.Tcp.Attempts
import SolidSyslog.Tcp.Streams

/-!
# An `Open` connects, or fails and leaves nothing open

`Connects m` says that `m`, run on a stream that has a socket, connects it, or tells one failure and
closes it. From each part of an attempt up to `Open`: a stream that was closed has after its `Open`
a new connected socket, or none and one failure more.
-/

namespace SolidSyslog.Tcp

open Lib

variable {ε : Type} {ticks : Nat → Nat} {L : SocketLayer ε} {D : Dialect} {source : String}
  {s t : TcpStream ε}

/-- The stream made an attempt that connected, or told one failure. -/
def Attempted (source : String) (ticks : Nat → Nat) (ok : Bool) (s t : TcpStream ε) : Prop :=
  ∃ new, Outcome ok new ∧ Moves source ticks new s t

/-- Part of an attempt keeps the stream's socket, whichever way it goes. -/
def Tries (source : String) (ticks : Nat → Nat) (m : Action ε Bool) : Prop :=
  ∀ s, Ensures m (fun ok t => Tried source ticks ok s t) s

/-- An attempt on the stream's socket connects it, or tells one failure and closes it. -/
def Connects (source : String) (ticks : Nat → Nat) (m : Action ε Bool) : Prop :=
  ∀ s fd, s.fd = some fd →
    Ensures m (fun ok t => Attempted source ticks ok s t ∧ t.fd = if ok then some fd else none) s

/-- A stream that is closed takes a new socket, or tells one failure. -/
def TakesSocket (source : String) (ticks : Nat → Nat) (m : Action ε Unit) : Prop :=
  ∀ s, s.fd = none → Ensures m (fun _ t => Attempted source ticks t.fd.isSome s t ∧
    (Sound source ticks s → ∀ new, t.fd = some new → new ∉ sockets.obtained s.trace)) s

/-- The waits of a dialect are in time. -/
def Dialect.InTime (ticks : Nat → Nat) (D : Dialect) : Prop :=
  ∀ ms ≤ connectTimeoutMsMax.toNat, Tcp.InTime ticks (.select (D.timeval ms).1 (D.timeval ms).2)

/-- The socket of an attempt that failed is closed. -/
theorem Tried.closes (h : Tried source ticks false s t) : Ensures (closeSocket L)
    (fun _ u => Attempted source ticks false s u ∧ u.fd = none) t := by
  obtain ⟨-, new, houtcome, hmoves⟩ := h
  refine Ensures.mono (Q := fun _ u => u.fd = none ∧ Moves source ticks [] t u) closeSocket_moves ?_
  rintro _ u ⟨hclosed, hcloses⟩
  have hboth := hmoves.trans hcloses
  rw [List.append_nil] at hboth
  exact ⟨⟨new, houtcome, hboth⟩, hclosed⟩

theorem closeOnFailure_connects {fd : Nat} {ok : Bool} (hheld : s.fd = some fd)
    (h : Tried source ticks ok s t) : Ensures (closeOnFailure L ok)
      (fun ok t => Attempted source ticks ok s t ∧ t.fd = if ok then some fd else none) t := by
  cases ok with
  | true => exact ⟨h.2, h.1.trans hheld⟩
  | false => exact Ensures.bind h.closes fun _ _ hclosed => hclosed

/-! ## An attempt on a socket -/

theorem readSocketError_asked :
    Ensures (readSocketError L D) (fun _ t => Asked source ticks s t) s :=
  call_asked rfl trivial

theorem readDeferredConnectError_tries : Tries D.source ticks (readDeferredConnectError L D) := by
  intro s
  have hread : Ensures (readSocketError L D) (fun _ t => Asked D.source ticks s t) s :=
    readSocketError_asked
  refine Ensures.bind hread ?_
  rintro ⟨asked, code⟩ t hasked
  dsimp only
  cases asked && code == 0 with
  | true => exact hasked.tried
  | false => exact reportConnectFailureWithErrno_tried.mono fun _ u htold => hasked.andTried htold

theorem unfinishedWaitCode_asked (wait : Reply) :
    Ensures (unfinishedWaitCode L D wait) (fun _ t => Asked source ticks s t) s := by
  unfold unfinishedWaitCode
  apply Ensures.ite
  · intro _
    exact Ensures.bind (Q := fun _ t => Asked source ticks s t) readSocketError_asked
      fun _ _ hasked => hasked
  · exact fun _ => .refl s

theorem reportUnfinishedWait_tried (wait : Reply) : Ensures (reportUnfinishedWait L D wait)
    (fun _ t => Tried D.source ticks false s t) s := by
  unfold reportUnfinishedWait
  apply Ensures.ite
  · exact fun _ => reportConnectFailure_tried
  · intro _
    refine Ensures.bind (Q := fun _ t => Asked D.source ticks s t) (unfinishedWaitCode_asked wait)
      fun code t hasked => ?_
    exact reportConnectFailureWithErrno_tried.mono fun _ u htold => hasked.andTried htold

theorem waitForConnectCompletion_tries (hD : D.InTime ticks) {ms : Nat}
    (hms : ms ≤ connectTimeoutMsMax.toNat) :
    Tries D.source ticks (waitForConnectCompletion L D ms) := by
  intro s
  refine Ensures.bind (Q := fun _ t => Asked D.source ticks s t) (call_asked rfl (hD ms hms))
    fun wait t hasked => ?_
  dsimp only
  cases decide (wait.result > 0) && wait.writable && !wait.exceptional with
  | true => exact hasked.tried
  | false => exact (reportUnfinishedWait_tried wait).mono fun _ u htold => hasked.andTried htold

theorem completeConnect_tries (hD : D.InTime ticks) {ms : Nat}
    (hms : ms ≤ connectTimeoutMsMax.toNat) : Tries D.source ticks (completeConnect L D ms) := by
  intro s
  refine Ensures.bind (waitForConnectCompletion_tries hD hms s) fun ready t hwaited => ?_
  cases ready with
  | true => exact (readDeferredConnectError_tries t).mono fun _ u htold =>
      hwaited.asked.andTried htold
  | false => exact hwaited

theorem reportImmediateFailure_tried (code : Int) : Ensures (reportImmediateFailure D code)
    (fun _ t => Tried D.source ticks false s t) s := by
  unfold reportImmediateFailure
  apply Ensures.ite
  · exact fun _ => reportConnectFailureWithErrno_tried
  · exact fun _ => reportConnectFailureWithErrno_tried

theorem connect_tries (hD : D.InTime ticks) {isConnected : Int → Bool}
    {address : Address} {ms : Nat}
    (hms : ms ≤ connectTimeoutMsMax.toNat) :
    Tries D.source ticks (connect L D isConnected address ms) := by
  intro s
  refine Ensures.bind (Q := fun _ t => Asked D.source ticks s t) (call_asked rfl trivial)
    fun reply t hasked => ?_
  dsimp only
  apply Ensures.ite
  · exact fun _ => hasked.tried
  · intro _
    apply Ensures.ite
    · intro _
      exact (completeConnect_tries hD hms t).mono fun _ u htold => hasked.andTried htold
    · intro _
      refine Ensures.bind (Q := fun _ u => Tried D.source ticks false t u)
        (reportImmediateFailure_tried _) fun _ u htold => ?_
      exact hasked.andTried htold

theorem connectOrCloseOnFailure_connects (hD : D.InTime ticks) {T : Tunables}
    {isConnected : Int → Bool} {address : Address} :
    Connects D.source ticks (connectOrCloseOnFailure L D T isConnected address) := by
  intro s fd hheld
  refine Ensures.bind (Q := fun ms t => ms ≤ connectTimeoutMsMax.toNat ∧ Asked D.source ticks s t)
    resolveConnectTimeoutMs_asked ?_
  rintro ms t ⟨hms, hasked⟩
  refine Ensures.bind (connect_tries hD hms t) fun connected u htried => ?_
  exact closeOnFailure_connects hheld (hasked.andTried htried)

/-! ## A socket to make an attempt on -/

/-- A stream that had a socket has made it ready, or told one failure and closed it. -/
def Readied (source : String) (ticks : Nat → Nat) (fd : Nat) (s t : TcpStream ε) : Prop :=
  Attempted source ticks t.fd.isSome s t ∧ ∀ new, t.fd = some new → new = fd

theorem Tried.readied {fd : Nat} (h : Tried source ticks true s t) (hheld : s.fd = some fd) :
    Readied source ticks fd s t := by
  have hfd : t.fd = some fd := h.1.trans hheld
  refine ⟨?_, fun new hnew => Option.some.inj (hnew.symm.trans hfd)⟩
  rw [hfd]
  exact h.2

theorem Tried.readied_closed {fd : Nat} (h : Tried source ticks false s t) :
    Ensures (closeSocket L) (fun _ u => Readied source ticks fd s u) t := by
  refine Ensures.mono h.closes ?_
  rintro _ u ⟨hattempted, hclosed⟩
  refine ⟨?_, fun new hnew => ?_⟩
  · rw [hclosed]
    exact hattempted
  · rw [hclosed] at hnew
    cases hnew

/-- A stream is given a socket and makes it ready, or tells that it was given none. -/
theorem takesSocket_of {isValid : Int → Bool} {rest : Reply → Action ε Unit}
    (hnone : ∀ reply t, t.fd = none → Ensures (rest reply)
      (fun _ u => Tried source ticks false t u) t)
    (hsome : ∀ reply t fd, t.fd = some fd →
      Ensures (rest reply) (fun _ u => Readied source ticks fd t u) t) :
    TakesSocket source ticks (Tcp.socket L isValid >>= rest) := by
  intro s hclosed
  refine Ensures.bind (Q := fun _ t => Moves source ticks [] s t ∧
    (Sound source ticks s → ∀ new, t.fd = some new → new ∉ sockets.obtained s.trace))
    (socket_moves hclosed) ?_
  rintro reply t ⟨hmoves, hfresh⟩
  cases hheld : t.fd with
  | none =>
    refine (hnone reply t hheld).mono ?_
    rintro _ u ⟨hfd, new, houtcome, htold⟩
    rw [hfd, hheld]
    exact ⟨⟨new, houtcome, hmoves.andThen htold⟩, nofun⟩
  | some fd =>
    refine (hsome reply t fd hheld).mono ?_
    rintro _ u ⟨⟨new, houtcome, htold⟩, hkept⟩
    refine ⟨⟨new, houtcome, hmoves.andThen htold⟩, fun hsound got hgot => ?_⟩
    rw [hkept got hgot]
    exact hfresh hsound fd hheld

theorem openAndConfigureSocket_takes {configureSocket : Action ε Bool}
    (h : Tries D.source ticks configureSocket) :
    TakesSocket D.source ticks (openAndConfigureSocket L D configureSocket) := by
  apply takesSocket_of
  · intro reply t hnone
    simp only [hnone, ensures_bind, ensures_isOpen]
    exact reportConnectFailureWithErrno_tried
  · intro reply t fd hheld
    simp only [hheld, ensures_bind, ensures_isOpen]
    refine Ensures.bind (h t) fun ok u htried => ?_
    cases ok with
    | true => exact htried.readied hheld
    | false => exact htried.readied_closed

/-! ## `Open` -/

/-- A stream that was closed has after an `Open` a new connected socket, or none and one failure
more. -/
structure Opened (source : String) (ticks : Nat → Nat) (ok : Bool) (s t : TcpStream ε) : Prop where
  sound : Sound source ticks s → Sound source ticks t
  taken : ∀ socket, taken socket t.trace = taken socket s.trace
  connected : ok = true → ∃ fd, t.fd = some fd ∧ attempts t.trace = attempts s.trace ++ [none] ∧
    conversations t.trace = conversations s.trace ++ [fd] ∧
    (Sound source ticks s → fd ∉ sockets.obtained s.trace)
  failed : ok = false → t.fd = none ∧ conversations t.trace = conversations s.trace ∧
    ∃ failure, attempts t.trace = attempts s.trace ++ [some failure]

/-- An attempt is over: the stream has its socket, or it told why it has none. -/
theorem Attempted.opened {ok : Bool} (fd : Nat) (h : Attempted source ticks ok s t)
    (hfd : t.fd = if ok then some fd else none)
    (hfresh : ok = true → Sound source ticks s → fd ∉ sockets.obtained s.trace) :
    Ensures (do
      if ok then Tcp.opened
      return ok) (fun ok u => Opened source ticks ok s u) t := by
  obtain ⟨new, houtcome, hmoves⟩ := h
  cases ok with
  | true =>
    obtain rfl : new = [] := houtcome
    have hopens : Ensures Tcp.opened (fun _ u => Opened source ticks true s u) t := by
      refine Ensures.mono (Q := fun _ u => Connected source ticks fd t u) (opened_connected hfd) ?_
      intro _ u hconnected
      refine ⟨hconnected.sound ∘ hmoves.sound, fun socket => ?_, fun _ => ?_, nofun⟩
      · rw [hconnected.taken, hmoves.taken]
      · have hattempts := hconnected.attempts
        have hconversations := hconnected.conversations
        rw [hmoves.attempts, List.append_nil] at hattempts
        rw [hmoves.conversations] at hconversations
        exact ⟨fd, hconnected.fd, hattempts, hconversations, hfresh rfl⟩
    exact hopens
  | false =>
    obtain ⟨failure, rfl⟩ := houtcome
    exact ⟨hmoves.sound, hmoves.taken, nofun, fun _ => ⟨hfd, hmoves.conversations, failure,
      hmoves.attempts⟩⟩

theorem takeSocketAndConnect_opens {takeSocket : Action ε Unit} {connectOrClose : Action ε Bool}
    (htakes : TakesSocket source ticks takeSocket)
    (hconnects : Connects source ticks connectOrClose)
    (hclosed : s.fd = none) : Ensures (takeSocketAndConnect takeSocket connectOrClose)
      (fun ok t => Opened source ticks ok s t) s := by
  unfold takeSocketAndConnect
  refine Ensures.bind (htakes s hclosed) ?_
  rintro _ t ⟨⟨new, houtcome, hmoves⟩, hfresh⟩
  cases hheld : t.fd with
  | none =>
    rw [hheld] at houtcome
    have hfailed : Attempted source ticks false s t := ⟨new, houtcome, hmoves⟩
    have hopened := hfailed.opened 0 hheld nofun
    simpa [hheld] using hopened
  | some fd =>
    rw [hheld] at houtcome
    obtain rfl : new = [] := houtcome
    simp only [hheld, ensures_bind, ensures_isOpen, Option.isSome_some, if_true]
    refine Ensures.mono (hconnects t fd hheld) ?_
    rintro ok u ⟨⟨more, hmore, hattempt⟩, hfd⟩
    have hattempted : Attempted source ticks ok s u := ⟨more, hmore, hmoves.andThen hattempt⟩
    exact hattempted.opened fd hfd fun _ hsound => hfresh hsound fd hheld

end SolidSyslog.Tcp
