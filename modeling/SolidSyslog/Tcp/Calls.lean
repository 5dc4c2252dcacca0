import SolidSyslog.Tcp.Connecting

/-!
# The calls of a stream

`Meets source ticks ops` says what `Open`, `Send`, `Read` and `Close` leave, in whatever state the
stream is. What the streams do alike is proved once; then each of the five meets it.
-/

namespace SolidSyslog.Tcp

open Lib

variable {ε : Type} {ticks : Nat → Nat} {L : SocketLayer ε} {D : Dialect} {source : String}
  {s t : TcpStream ε}

/-! ## Sending -/

/-- The stream's socket, if it has one, took the bytes `part`. -/
structure Passed (source : String) (ticks : Nat → Nat) (part : Bytes) (s t : TcpStream ε) :
    Prop where
  attempts : attempts t.trace = attempts s.trace
  conversations : conversations t.trace = conversations s.trace
  taken : ∀ socket, taken socket t.trace = taken socket s.trace ++
    if s.fd = some socket then part else []
  sound : Sound source ticks s → Sound source ticks t

/-- A `Send` of the data took all of it and kept the socket, or took a part and closed the
socket. -/
def Sent (source : String) (ticks : Nat → Nat) (data : Bytes) (ok : Bool) (s t : TcpStream ε) :
    Prop :=
  t.fd = (if ok then s.fd else none) ∧
    ∃ part, part <+: data ∧ (ok = true → part = data) ∧ Passed source ticks part s t

theorem Moves.passed (h : Moves source ticks [] s t) : Passed source ticks [] s t := by
  refine ⟨h.attempts.trans (List.append_nil _), h.conversations, fun socket => ?_, h.sound⟩
  rw [h.taken, ite_self, List.append_nil]

theorem Passed.andThen {part : Bytes} {u : TcpStream ε} (h : Passed source ticks part s t)
    (h' : Moves source ticks [] t u) : Passed source ticks part s u := by
  refine ⟨?_, h'.conversations.trans h.conversations, fun socket => ?_, h'.sound ∘ h.sound⟩
  · rw [h'.attempts, List.append_nil, h.attempts]
  · rw [h'.taken, h.taken]

theorem Asked.andPassed {part : Bytes} {u : TcpStream ε} (h : Asked source ticks s t)
    (h' : Passed source ticks part t u) : Passed source ticks part s u := by
  refine ⟨?_, h'.conversations.trans h.2.conversations, fun socket => ?_, h'.sound ∘ h.2.sound⟩
  · rw [h'.attempts, h.2.attempts, List.append_nil]
  · rw [h'.taken, h.2.taken, h.1]

theorem ask_send_passed (data : Bytes) (length : Int) :
    Passed source ticks (data.take (L.answer s.fd (.send data length) s.env).1.result.toNat) s
      (s.ask L s.fd (.send data length)).2 := by
  refine ⟨?_, ?_, fun other => ?_, fun h => ?_⟩
  · exact (attempts_concat _ _).trans (List.append_nil _)
  · exact (conversations_concat _ _).trans (List.append_nil _)
  · refine (taken_concat _ _ _).trans ?_
    cases hheld : s.fd <;> simp [TcpEvent.takes]
  · refine h.called rfl rfl rfl trivial ?_ ?_ nofun
    · refine h.ledger.use ?_ rfl rfl
      intro used hused
      obtain ⟨held, hheld, rfl⟩ := Option.map_eq_some_iff.1 hused
      exact ⟨held, by simp [hheld], rfl⟩
    · intro other hother
      cases hheld : s.fd with
      | none => rfl
      | some fd =>
        have hne : fd ≠ other := by
          rintro rfl
          apply hother
          show fd ∈ sockets.obtained (s.trace ++ [_])
          rw [Handling.obtained_concat]
          exact List.mem_append_left _ (h.ledger.mem_obtained (by simp [hheld]))
        simp [TcpEvent.takes, hne]

theorem wroteAllBytes_iff {sent : Int} {data : Bytes} (h : wroteAllBytes sent data.length = true) :
    data.take sent.toNat = data := by
  obtain ⟨-, hlength⟩ : 0 ≤ sent ∧ sent.toNat = data.length := by simpa [wroteAllBytes] using h
  rw [hlength, List.take_length]

/-- One `send`, and whether it took all. -/
def Wrote (source : String) (ticks : Nat → Nat) (data : Bytes) (ok : Bool) (s t : TcpStream ε) :
    Prop :=
  t.fd = s.fd ∧ ∃ part, part <+: data ∧ (ok = true → part = data) ∧ Passed source ticks part s t

theorem trySend_wrote (data : Bytes) :
    Ensures (trySend L D data) (fun ok t => Wrote source ticks data ok s t) s :=
  ⟨rfl, _, List.take_prefix _ _, wroteAllBytes_iff, ask_send_passed data _⟩

/-- What was not sent whole closes the socket. -/
theorem Wrote.sent {data : Bytes} {ok : Bool} (h : Wrote source ticks data ok s t) :
    Ensures (do
      if !ok then closeSocket L
      return ok) (fun ok u => Sent source ticks data ok s u) t := by
  obtain ⟨hfd, part, hprefix, hwhole, hpassed⟩ := h
  cases ok with
  | true => exact ⟨hfd, part, hprefix, hwhole, hpassed⟩
  | false =>
    have hcloses : Ensures (closeSocket L) (fun _ u => Sent source ticks data false s u) t := by
      refine Ensures.mono (Q := fun _ u => u.fd = none ∧ Moves source ticks [] t u)
        closeSocket_moves ?_
      rintro _ u ⟨hclosed, hmoves⟩
      exact ⟨hclosed, part, hprefix, nofun, hpassed.andThen hmoves⟩
    exact hcloses

theorem Asked.wrote {data : Bytes} (h : Asked source ticks s t) :
    Wrote source ticks data false s t :=
  ⟨h.1, [], List.nil_prefix, nofun, h.2.passed⟩

theorem peerIsStillThere_asked :
    Ensures (peerIsStillThere L D) (fun _ t => Asked source ticks s t) s :=
  Ensures.bind (Q := fun _ t => Asked source ticks s t) (call_asked rfl trivial) fun _ _ h => h

theorem Asked.andWrote {data : Bytes} {ok : Bool} {u : TcpStream ε} (h : Asked source ticks s t)
    (h' : Wrote source ticks data ok t u) : Wrote source ticks data ok s u := by
  obtain ⟨hfd, part, hprefix, hwhole, hpassed⟩ := h'
  exact ⟨hfd.trans h.1, part, hprefix, hwhole, h.andPassed hpassed⟩

theorem sendToPeer_sent (fits : Bool) (data : Bytes) :
    Ensures (sendToPeer L D fits data) (fun ok t => Sent source ticks data ok s t) s := by
  have hsends : ∀ (there : Bool) t, Asked source ticks s t → Ensures (do
      let ok ← if there then trySend L D data else pure false
      if !ok then closeSocket L
      return ok) (fun ok u => Sent source ticks data ok s u) t := by
    intro there t hasked
    cases there with
    | true =>
      refine Ensures.bind (Q := fun ok u => Wrote source ticks data ok t u) (trySend_wrote data) ?_
      exact fun ok u hwrote => (hasked.andWrote hwrote).sent
    | false => exact hasked.wrote.sent
  cases fits with
  | true =>
    exact Ensures.bind (Q := fun _ t => Asked source ticks s t) peerIsStillThere_asked hsends
  | false => exact hsends false s (.refl s)

/-- A stack to which no socket is a bad descriptor, over which it sends nothing. -/
def SocketLayer.RefusesNoSocket (L : SocketLayer ε) : Prop :=
  ∀ data length env, (L.answer none (.send data length) env).1.result < 0

theorem trySend_refused (hL : L.RefusesNoSocket) (hclosed : s.fd = none) (data : Bytes) :
    Ensures (trySend L D data) (fun ok _ => ok = false) s := by
  have hfailed : (L.answer s.fd (.send data (D.length data.length)) s.env).1.result < 0 := by
    rw [hclosed]
    exact hL _ _ _
  have hnothing : wroteAllBytes (L.answer s.fd (.send data (D.length data.length)) s.env).1.result
      data.length = false := by
    simp [wroteAllBytes, hfailed]
  exact hnothing

/-- A closed stream whose stack refuses it sends nothing. -/
theorem sendToPeer_refused (hL : L.RefusesNoSocket) (hclosed : s.fd = none) (fits : Bool)
    (data : Bytes) : Ensures (sendToPeer L D fits data) (fun ok _ => ok = false) s := by
  have hends : ∀ (there : Bool) (t : TcpStream ε), t.fd = none → Ensures (do
      let ok ← if there then trySend L D data else pure false
      if !ok then closeSocket L
      return ok) (fun ok _ => ok = false) t := by
    intro there t hnone
    cases there with
    | true =>
      refine Ensures.bind (Q := fun ok _ => ok = false) (trySend_refused hL hnone data) ?_
      rintro _ u rfl
      rfl
    | false => rfl
  cases fits with
  | true =>
    refine Ensures.bind (Q := fun _ t => Asked D.source id s t) peerIsStillThere_asked ?_
    exact fun there t hasked => hends there t (hasked.1.trans hclosed)
  | false => exact hends false s hclosed

/-! ## Reading -/

/-- A `Read` that failed answers -1 and has closed the socket. -/
def Received (source : String) (ticks : Nat → Nat) (n : Int) (s t : TcpStream ε) : Prop :=
  Moves source ticks [] s t ∧ (0 ≤ n ∧ t.fd = s.fd ∨ n = -1 ∧ t.fd = none)

theorem Asked.closed_received (h : Asked source ticks s t) :
    Ensures (do
      closeSocket L
      return -1) (fun n u => Received source ticks n s u) t := by
  refine Ensures.bind (Q := fun _ u => u.fd = none ∧ Moves source ticks [] t u) closeSocket_moves ?_
  rintro _ u ⟨hclosed, hmoves⟩
  exact ⟨h.2.andThen hmoves, .inr ⟨rfl, hclosed⟩⟩

theorem readAvailable_received (size : Nat) :
    Ensures (readAvailable L D size) (fun n t => Received source ticks n s t) s := by
  refine Ensures.bind (Q := fun _ t => Asked source ticks s t) (call_asked rfl trivial)
    fun received t hasked => ?_
  apply Ensures.ite
  · exact fun hsome => ⟨hasked.2, .inl ⟨Int.le_of_lt hsome, hasked.1⟩⟩
  · intro _
    apply Ensures.ite
    · exact fun _ => ⟨hasked.2, .inl ⟨Int.le_refl 0, hasked.1⟩⟩
    · exact fun _ => hasked.closed_received

/-! ## What every stream meets -/

/-- What the calls of a stream leave. -/
structure Meets (source : String) (ticks : Nat → Nat) (ops : StreamOps ε) : Prop where
  opens : ∀ address s, s.fd = none →
    Ensures (ops.openStream address) (fun ok t => Opened source ticks ok s t) s
  staysOpen : ∀ address s fd, s.fd = some fd →
    Ensures (ops.openStream address) (fun ok t => ok = false ∧ Asked source ticks s t) s
  sends : ∀ data s, Ensures (ops.send data) (fun ok t => Sent source ticks data ok s t) s
  reads : ∀ size s, Ensures (ops.read size) (fun n t => Received source ticks n s t) s
  closes : ∀ s, Ensures ops.close (fun _ t => t.fd = none ∧ Moves source ticks [] s t) s

theorem openIfClosed_opens {takeSocketAndConnect : Action ε Bool} (hclosed : s.fd = none)
    (h : Ensures takeSocketAndConnect (fun ok t => Opened source ticks ok s t) s) :
    Ensures (openIfClosed source takeSocketAndConnect)
      (fun ok t => Opened source ticks ok s t) s := by
  unfold openIfClosed
  simpa [hclosed] using h

theorem openIfClosed_stays {takeSocketAndConnect : Action ε Bool} {fd : Nat}
    (hheld : s.fd = some fd) :
    Ensures (openIfClosed source takeSocketAndConnect)
      (fun ok t => ok = false ∧ Asked source ticks s t) s := by
  have hreport : Ensures (report .critical badArgument source .alreadyOpen)
      (fun _ t => Asked source ticks s t) s := report_asked (by decide)
  unfold openIfClosed
  simpa [hheld] using hreport

/-- The streams that make their calls over a dialect. -/
theorem meets_of {takeSocket : Action ε Unit} {connectOrClose : Address → Action ε Bool}
    (fits : Bytes → Bool) (htakes : TakesSocket D.source ticks takeSocket)
    (hconnects : ∀ address, Connects D.source ticks (connectOrClose address)) :
    Meets D.source ticks ⟨fun address =>
      openIfClosed D.source (takeSocketAndConnect takeSocket (connectOrClose address)),
      fun data => sendToPeer L D (fits data) data, readAvailable L D, closeSocket L⟩ where
  opens address _ hclosed :=
    openIfClosed_opens hclosed (takeSocketAndConnect_opens htakes (hconnects address) hclosed)
  staysOpen _ _ _ hheld := openIfClosed_stays hheld
  sends data _ := sendToPeer_sent _ data
  reads size _ := readAvailable_received size
  closes _ := closeSocket_moves

end SolidSyslog.Tcp
