import SolidSyslog.Sender.Framing
import SolidSyslog.Tcp.Wire

/-!
# The stream sender over a TCP stream

The sender makes its stream calls of one of the five streams: what its trace says the stream
answered and put out is what the stream did. Then each socket that was connected took the bytes of
one of the sender's connections, octet-counted frames of the records that were delivered on it.
-/

namespace SolidSyslog.Tcp

open Lib Sender

variable {ε : Type} {ticks : Nat → Nat} {source : String} {ops : StreamOps ε} {t t' : TcpStream ε}
  {w : Wire} {trace : List StreamEvent}

/-- What the stream does at an entry of the sender's trace. -/
inductive Performs (ops : StreamOps ε) (t : TcpStream ε) : StreamEvent → TcpStream ε → Prop
  | called {record : Bytes} : Performs ops t (.called record) t
  | versions {endpoint stream : UInt32} : Performs ops t (.versions endpoint stream) t
  | opened {address : Address} {ok : Bool} {t' : TcpStream ε}
      (returns : ops.Returns t (.openStream address) (.opened ok) t') :
        Performs ops t (.opened ok) t'
  | sent {asked put : Bytes} {ok : Bool} {t' : TcpStream ε}
      (returns : ops.Returns t (.send asked) (.sent ok) t')
      (took : ∀ fd, t.fd = some fd → taken fd t'.trace = taken fd t.trace ++ put) :
      Performs ops t (.sent asked put ok) t'
  | closed {t' : TcpStream ε} (returns : ops.Returns t .close .closed t') :
      Performs ops t .closed t'
  | returned {ok : Bool} : Performs ops t (.returned ok) t

/-- The stream does what a trace of the sender says, from one state to another. -/
inductive PerformsAll (ops : StreamOps ε) (t : TcpStream ε) : List StreamEvent → TcpStream ε → Prop
  | nil : PerformsAll ops t [] t
  | concat {trace : List StreamEvent} {entry : StreamEvent} {t' t'' : TcpStream ε}
      (first : PerformsAll ops t trace t') (last : Performs ops t' entry t'') :
      PerformsAll ops t (trace ++ [entry]) t''

/-! ## Connections and sockets -/

/-- The sockets that were connected took what the trace shows to have gone out, and the stream is
open while the sender's connection is and no stream send has failed on it. -/
structure Carries (source : String) (ticks : Nat → Nat) (trace : List StreamEvent) (t : TcpStream ε)
    (w : Wire) : Prop where
  wire : IsWire source ticks t w
  carried : w.carried = (Sender.Wire.of trace).connections.map (·.out)
  isUp : w.isUp = true ↔ ∃ c, (Sender.Wire.of trace).live = some c ∧ c.torn = none

theorem always_of_concat {α : Type} {J : List α → α → Prop} {trace : List α} {entry : α}
    (h : Always J (trace ++ [entry])) : Always J trace ∧ J trace entry :=
  ⟨fun before e after heq => h before e (after ++ [entry]) (by simp [heq]), h trace entry [] rfl⟩

namespace Carries

theorem initial (env : ε) : Carries source ticks [] (TcpStream.initial env) Wire.down :=
  ⟨.initial env, rfl, nofun, nofun⟩

/-- An entry that is no call of the stream. -/
theorem note (h : Carries source ticks trace t w) {entry : StreamEvent}
    (hconnections : ((Sender.Wire.of trace).observe entry).connections.map (·.out) =
      (Sender.Wire.of trace).connections.map (·.out))
    (hlive : (∃ c, ((Sender.Wire.of trace).observe entry).live = some c ∧ c.torn = none) ↔
      ∃ c, (Sender.Wire.of trace).live = some c ∧ c.torn = none) :
    Carries source ticks (trace ++ [entry]) t w := by
  refine ⟨h.wire, ?_, ?_⟩
  · rw [Sender.Wire.of_concat, hconnections]
    exact h.carried
  · rw [Sender.Wire.of_concat, hlive]
    exact h.isUp

theorem opens (h : Carries source ticks trace t w) (hops : Meets source ticks ops) {ok : Bool}
    {address : Address} (hnone : (Sender.Wire.of trace).live = none)
    (hreturns : ops.Returns t (.openStream address) (.opened ok) t') :
    ∃ w', Carries source ticks (trace ++ [.opened ok]) t' w' := by
  have hdown : w.isUp ≠ true := by
    rw [Ne, h.isUp, hnone]
    rintro ⟨c, hc, -⟩
    cases hc
  obtain ⟨w', hallowed, hwire⟩ := hops.step h.wire hreturns
  have hcarried := h.carried
  refine ⟨w', hwire, ?_, ?_⟩
  · rw [Sender.Wire.of_concat]
    cases hallowed with
    | comesUp =>
      show _ ++ [[]] = ((Sender.Wire.of trace).connections ++ [_]).map Connection.out
      rw [List.map_append, ← hcarried]
      rfl
    | staysDown => exact hcarried
    | staysUp => exact absurd rfl hdown
  · rw [Sender.Wire.of_concat]
    cases hallowed with
    | comesUp => exact ⟨fun _ => ⟨_, rfl, rfl⟩, fun _ => rfl⟩
    | staysDown =>
      show false = true ↔ ∃ c, (Sender.Wire.of trace).live = some c ∧ c.torn = none
      rw [hnone]
      exact ⟨nofun, nofun⟩
    | staysUp => exact absurd rfl hdown

theorem closes (h : Carries source ticks trace t w) (hops : Meets source ticks ops)
    (hreturns : ops.Returns t .close .closed t') :
    ∃ w', Carries source ticks (trace ++ [.closed]) t' w' := by
  obtain ⟨w', hallowed, hwire⟩ := hops.step h.wire hreturns
  have hcarried := h.carried
  cases hallowed
  refine ⟨_, hwire, ?_, ?_⟩
  · rw [Sender.Wire.of_concat]
    refine hcarried.trans ?_
    cases hlast : (Sender.Wire.of trace).connection <;>
      simp [Sender.Wire.connections, Sender.Wire.observe, hlast]
  · rw [Sender.Wire.of_concat]
    refine ⟨nofun, ?_⟩
    rintro ⟨c, hlive, -⟩
    cases hlast : (Sender.Wire.of trace).connection with
    | none => simp [Sender.Wire.live, Sender.Wire.observe, hlast] at hlive
    | some last =>
      simp [Sender.Wire.live, Sender.Wire.observe, hlast] at hlive
      obtain ⟨rfl, hopen⟩ := hlive
      cases hopen

/-- Bytes go out on the connection that is live, over the socket that the stream holds. -/
theorem sends (h : Carries source ticks trace t w) (hops : Meets source ticks ops)
    {asked put : Bytes} {ok : Bool} {c : Connection} (hlive : (Sender.Wire.of trace).live = some c)
    (htorn : c.torn = none) (hreturns : ops.Returns t (.send asked) (.sent ok) t')
    (htook : ∀ fd, t.fd = some fd → taken fd t'.trace = taken fd t.trace ++ put) :
    ∃ w', Carries source ticks (trace ++ [.sent asked put ok]) t' w' := by
  have hup : t.fd.isSome = true := h.wire.isUp.symm.trans (h.isUp.2 ⟨c, hlive, htorn⟩)
  obtain ⟨fd, hheld⟩ := Option.isSome_iff_exists.1 hup
  obtain ⟨earlier, hearlier, hnew, hw⟩ := h.wire.split hheld
  obtain ⟨hanswer, rfl⟩ := Prod.mk.inj hreturns
  obtain ⟨hfd, part, -, -, hpassed⟩ := hops.sends asked t
  rw [Answer.sent.inj hanswer] at hfd
  have hpart := hpassed.taken fd
  rw [if_pos hheld, htook fd hheld] at hpart
  obtain rfl := List.append_cancel_left hpart
  have hwire := h.wire.passes hheld hearlier hnew hpassed (by cases ok <;> simp [hfd])
  obtain ⟨hlast, hopen⟩ := StreamSender.live_eq_some.1 hlive
  -- the last conversation is the connection that is live, the others those that ended
  have hcarried := h.carried
  rw [hw, Sender.Wire.connections, hlast, Option.toList_some, List.map_append] at hcarried
  obtain ⟨hended, hout⟩ := List.append_inj' hcarried rfl
  have hthis : taken fd t.trace = c.out := List.singleton_inj.1 hout
  refine ⟨_, hwire, ?_, ?_⟩
  · show (earlier.map fun socket => taken socket t.trace) ++ [taken fd t.trace ++ put] = _
    rw [Sender.Wire.of_concat, hended, hthis]
    cases ok <;> simp [Sender.Wire.connections, Sender.Wire.observe, hlast]
  · rw [Sender.Wire.of_concat]
    cases ok with
    | true =>
      rw [if_pos rfl, hheld] at hfd
      refine ⟨fun _ => ⟨{ c with out := c.out ++ put }, ?_, htorn⟩, fun _ => ?_⟩
      · refine StreamSender.live_eq_some.2 ⟨?_, hopen⟩
        exact congrArg (Option.map _) hlast
      · rw [hfd]
        rfl
    | false =>
      rw [if_neg Bool.false_ne_true] at hfd
      refine ⟨fun hopened => ?_, ?_⟩
      · rw [hfd] at hopened
        cases hopened
      · rintro ⟨c', hlive', htorn'⟩
        have htears := (StreamSender.live_eq_some.1 hlive').1
        simp only [Sender.Wire.observe, hlast, Option.map_some] at htears
        cases htears
        cases htorn'

/-- Each entry of the sender's trace that the stream performs. -/
theorem step (h : Carries source ticks trace t w) (hops : Meets source ticks ops)
    {entry : StreamEvent} (hadmissible : Admissible trace entry)
    (hperforms : Performs ops t entry t') :
    ∃ w', Carries source ticks (trace ++ [entry]) t' w' := by
  cases hperforms with
  | called => exact ⟨w, h.note rfl Iff.rfl⟩
  | versions => exact ⟨w, h.note rfl Iff.rfl⟩
  | opened returns => exact h.opens hops hadmissible returns
  | sent returns took =>
    obtain ⟨-, -, c, hlive, htorn, -⟩ := hadmissible
    exact h.sends hops hlive htorn returns took
  | closed returns => exact h.closes hops returns
  | @returned ok =>
    cases ok with
    | false => exact ⟨w, h.note rfl Iff.rfl⟩
    | true =>
      obtain ⟨-, c, hlive, htorn⟩ := hadmissible
      obtain ⟨hlast, hopen⟩ := StreamSender.live_eq_some.1 hlive
      refine ⟨w, h.note ?_ ⟨fun _ => ⟨c, hlive, htorn⟩, fun _ => ?_⟩⟩
      · simp [Sender.Wire.connections, Sender.Wire.observe, hlast]
      · refine ⟨{ c with delivered := c.delivered ++ [(Sender.Wire.of trace).record] }, ?_, htorn⟩
        refine StreamSender.live_eq_some.2 ⟨?_, hopen⟩
        exact congrArg (Option.map _) hlast

theorem performed {env : ε} (hops : Meets source ticks ops)
    (h : PerformsAll ops (TcpStream.initial env) trace t) (hadmissible : Always Admissible trace) :
    ∃ w, Carries source ticks trace t w := by
  induction h with
  | nil => exact ⟨_, initial env⟩
  | concat first last ih =>
    obtain ⟨hbefore, hentry⟩ := always_of_concat hadmissible
    obtain ⟨w, hcarries⟩ := ih hbefore
    exact hcarries.step hops hentry last

end Carries

/-! ## The stream answers whatever it is called to do -/

section Answers

variable {s : StreamSender} {t₀ : TcpStream ε}

/-- The stream takes the bytes of a send, or a start of them. -/
theorem Meets.performs_sent (hops : Meets source ticks ops) (t : TcpStream ε) (data : Bytes) :
    (∃ t', Performs ops t (.sent data data true) t') ∨
      ∃ put t', Performs ops t (.sent data (data.take put) false) t' := by
  obtain ⟨-, part, hprefix, hwhole, hpassed⟩ := hops.sends data t
  have htook : ∀ fd, t.fd = some fd →
      taken fd (ops.send data t).2.trace = taken fd t.trace ++ part := by
    intro fd hheld
    rw [hpassed.taken, if_pos hheld]
  cases hok : (ops.send data t).1 with
  | true =>
    rw [hwhole hok] at htook
    exact .inl ⟨_, .sent (Prod.ext (congrArg Answer.sent hok) rfl) htook⟩
  | false =>
    rw [List.prefix_iff_eq_take.1 hprefix] at htook
    exact .inr ⟨_, _, .sent (Prod.ext (congrArg Answer.sent hok) rfl) htook⟩

theorem closeStream_performed (h : PerformsAll ops t₀ s.trace t) :
    ∃ t', PerformsAll ops t₀ s.closeStream.trace t' :=
  ⟨_, h.concat (.closed rfl)⟩

theorem disconnect_performed (h : PerformsAll ops t₀ s.trace t) :
    ∃ t', PerformsAll ops t₀ s.disconnect.trace t' := by
  unfold StreamSender.disconnect
  split
  · exact closeStream_performed h
  · exact ⟨t, h⟩

theorem disconnectIfStale_performed (h : PerformsAll ops t₀ s.trace t) (answers : SendAnswers) :
    ∃ t', PerformsAll ops t₀ (s.disconnectIfStale answers).trace t' := by
  have hpolled : PerformsAll ops t₀
      (s.emit (.versions answers.endpointVersion answers.streamVersion)).trace t :=
    h.concat .versions
  unfold StreamSender.disconnectIfStale
  dsimp only
  split
  · exact disconnect_performed hpolled
  · exact ⟨t, hpolled⟩

/-- Some answer of the stream to an `Open` lets the sender go on. -/
theorem ensureConnected_performed (h : PerformsAll ops t₀ s.trace t) (address : Address)
    (endpoint stream : UInt32) (resolved : Bool) : ∃ opened t', ∀ lengthFails recordFails,
      PerformsAll ops t₀ (s.ensureConnected
        ⟨endpoint, stream, resolved, opened, lengthFails, recordFails⟩).2.trace t' := by
  unfold StreamSender.ensureConnected StreamSender.connect
  cases s.connected with
  | true => exact ⟨true, t, fun _ _ => h⟩
  | false =>
    cases resolved with
    | true => exact ⟨(ops.openStream address t).1, _, fun _ _ => h.concat (.opened rfl)⟩
    | false => exact ⟨true, t, fun _ _ => h⟩

theorem sendBytes_performed (hops : Meets source ticks ops) (h : PerformsAll ops t₀ s.trace t)
    (data : Bytes) : ∃ fails t', PerformsAll ops t₀ (s.sendBytes data fails).2.trace t' := by
  rcases hops.performs_sent t data with ⟨t', hsent⟩ | ⟨put, t', hsent⟩
  · exact ⟨none, t', h.concat hsent⟩
  · have hfailed : PerformsAll ops t₀ (s.emit (.sent data (data.take put) false)).trace t' :=
      h.concat hsent
    exact ⟨some put, closeStream_performed hfailed⟩

theorem transmitFramed_performed (hops : Meets source ticks ops) (h : PerformsAll ops t₀ s.trace t)
    (record : Bytes) (endpoint stream : UInt32) (resolved opened : Bool) :
      ∃ lengthFails recordFails t', PerformsAll ops t₀ (s.transmitFramed record
        ⟨endpoint, stream, resolved, opened, lengthFails, recordFails⟩).2.trace t' := by
  obtain ⟨lengthFails, t₁, hlength⟩ := sendBytes_performed hops h
    (StreamSender.formatOctetCountingPrefix record.length).asFormattedBuffer.bytes
  unfold StreamSender.transmitFramed
  dsimp only
  cases lengthFails with
  | some put => exact ⟨some put, none, t₁, hlength⟩
  | none =>
    obtain ⟨recordFails, t₂, hrecord⟩ := sendBytes_performed hops hlength record
    exact ⟨none, recordFails, t₂, hrecord⟩

theorem updateDeliveryHealth_trace (s : StreamSender) (delivered : Bool) :
    (s.updateDeliveryHealth delivered).trace = s.trace := by
  unfold StreamSender.updateDeliveryHealth
  split <;> rfl

/-- Whatever the getters and the resolver answer, the stream has answers for a `Send`. -/
theorem send_performed (hops : Meets source ticks ops) (h : PerformsAll ops t₀ s.trace t)
    (record : Bytes) (address : Address) (endpoint stream : UInt32) (resolved : Bool) :
    ∃ opened lengthFails recordFails t', PerformsAll ops t₀ (s.send record
      ⟨endpoint, stream, resolved, opened, lengthFails, recordFails⟩).2.trace t' := by
  have hcalled : PerformsAll ops t₀ (s.emit (.called record)).trace t := h.concat .called
  obtain ⟨t₁, hpolled⟩ := disconnectIfStale_performed hcalled
    ⟨endpoint, stream, resolved, true, none, none⟩
  obtain ⟨opened, t₂, hconnects⟩ :=
    ensureConnected_performed hpolled address endpoint stream resolved
  have hconnected : PerformsAll ops t₀ ((s.emit (.called record)).reconcile
      ⟨endpoint, stream, resolved, opened, none, none⟩).2.trace t₂ := hconnects none none
  have hsame : ∀ lengthFails recordFails, (s.emit (.called record)).reconcile
      ⟨endpoint, stream, resolved, opened, lengthFails, recordFails⟩ =
        (s.emit (.called record)).reconcile ⟨endpoint, stream, resolved, opened, none, none⟩ :=
    fun _ _ => rfl
  cases hreconciled : (s.emit (.called record)).reconcile
      ⟨endpoint, stream, resolved, opened, none, none⟩ with
  | mk ok s₁ =>
    rw [hreconciled] at hconnected
    have hreturns : ∀ {s₂ : StreamSender} {t' : TcpStream ε} (delivered : Bool),
        PerformsAll ops t₀ s₂.trace t' →
        PerformsAll ops t₀ ((s₂.updateDeliveryHealth delivered).emit (.returned delivered)).trace
          t' := by
      intro s₂ t' delivered hperformed
      refine PerformsAll.concat ?_ .returned
      rw [updateDeliveryHealth_trace]
      exact hperformed
    cases ok with
    | true =>
      obtain ⟨lengthFails, recordFails, t₃, hframed⟩ :=
        transmitFramed_performed hops hconnected record endpoint stream resolved opened
      refine ⟨opened, lengthFails, recordFails, t₃, ?_⟩
      unfold StreamSender.send
      dsimp only
      rw [hsame, hreconciled]
      exact hreturns _ hframed
    | false =>
      refine ⟨opened, none, none, t₂, ?_⟩
      unfold StreamSender.send
      dsimp only
      rw [hreconciled]
      exact hreturns _ hconnected

end Answers

/-! ## What the sockets took -/

/-- Over any of the five streams and any run of the sender, each socket that was connected took the
bytes of one connection, which a receiver that counts octets reads back; the stream is open while
the sender is connected, and has answers for whatever the sender sends next. -/
theorem sockets_take_counted_frames (B : Backend) (C : Codes) (T : Tunables) (L : SocketLayer ε)
    {env : ε} {s : StreamSender} (hconnect : B.ConnectAnswers L)
    (hreached : Reached StreamSender.call Counted StreamSender.initial s)
    (hperformed : PerformsAll (B.tcpStream C T L) (TcpStream.initial env) s.trace t) :
    (conversations t.trace).Nodup ∧
    ((conversations t.trace).map fun socket => taken socket t.trace) =
      (Sender.Wire.of s.trace).connections.map (·.out) ∧
    OctetCounted s ∧ t.fd.isSome = s.connected ∧
    ∀ record endpoint stream resolved, ∃ opened lengthFails recordFails t',
      PerformsAll (B.tcpStream C T L) (TcpStream.initial env) (s.send record
        ⟨endpoint, stream, resolved, opened, lengthFails, recordFails⟩).2.trace t' := by
  have hmeets : Meets B.source B.waitTicks (B.tcpStream C T L) := B.tcpStream_meets hconnect
  have hrest := hreached.invariant StreamSender.Rest.initial StreamSender.Rest.call
  obtain ⟨w, hcarries⟩ := Carries.performed hmeets hperformed hrest.admissible
  refine ⟨hcarries.wire.distinct, hcarries.wire.carried.symm.trans hcarries.carried,
    hrest.octetCounted, ?_, fun record endpoint stream resolved =>
      send_performed hmeets hperformed record ⟨0, 0⟩ endpoint stream resolved⟩
  rw [← hcarries.wire.isUp]
  cases hconnected : s.connected with
  | true =>
    obtain ⟨c, hlive, htorn, -⟩ := hrest.live hconnected
    exact hcarries.isUp.2 ⟨c, hlive, htorn⟩
  | false =>
    have hnone := hrest.closed hconnected
    refine Bool.eq_false_iff.2 fun hup => ?_
    obtain ⟨c, hlive, -⟩ := hcarries.isUp.1 hup
    rw [hnone] at hlive
    cases hlive

/-- What a send put out, on the socket that the stream has. -/
theorem performs_sent_of {data put : Bytes} {ok : Bool} {fd : Nat} (hheld : t.fd = some fd)
    (hok : (ops.send data t).1 = ok)
    (htook : taken fd (ops.send data t).2.trace = taken fd t.trace ++ put) :
    Performs ops t (.sent data put ok) (ops.send data t).2 := by
  refine .sent (Prod.ext (congrArg Answer.sent hok) rfl) fun other hother => ?_
  rw [hheld] at hother
  cases hother
  exact htook

theorem performs_opened_of {address : Address} {ok : Bool}
    (hok : (ops.openStream address t).1 = ok) :
    Performs ops t (.opened ok) (ops.openStream address t).2 := by
  have hreturns : ops.Returns t (.openStream address) (.opened ok) (ops.openStream address t).2 :=
    Prod.ext (congrArg Answer.opened hok) rfl
  exact .opened hreturns

/-- The obliging stream when the sender has connected it, -/
def connectedStream : TcpStream Unit :=
  (obliged.openStream ⟨0, 601⟩ (.initial ())).2

/-- has sent the length of a record, -/
def lengthSent : TcpStream Unit :=
  (obliged.send [50, 32] connectedStream).2

/-- and the record. -/
def recordSent : TcpStream Unit :=
  (obliged.send [104, 105] lengthSent).2

theorem socket_takes_counted_frame : ∃ s,
    Reached StreamSender.call Counted StreamSender.initial s ∧
    PerformsAll obliged (TcpStream.initial ()) s.trace recordSent ∧
    (Sender.Wire.of s.trace).connections.map (·.out) =
      (conversations recordSent.trace).map fun socket => taken socket recordSent.trace := by
  have hrun : runMoves StreamSender.call Counted StreamSender.initial
      [.send [104, 105] StreamSender.allWell] =
        some (StreamSender.initial.send [104, 105] StreamSender.allWell).2 := rfl
  have hreached := Reached.of_runMoves hrun
  have htrace : (StreamSender.initial.send [104, 105] StreamSender.allWell).2.trace =
      [] ++ [.called [104, 105]] ++ [.versions 1 1] ++ [.opened true] ++
        [.sent [50, 32] [50, 32] true] ++
        [.sent [104, 105] [104, 105] true] ++ [.returned true] := by decide +kernel
  have hopened : Performs obliged (.initial ()) (.opened true) connectedStream :=
    performs_opened_of (by decide +kernel)
  have hheld : connectedStream.fd = some 0 := by decide +kernel
  have hlength : Performs obliged connectedStream (.sent [50, 32] [50, 32] true) lengthSent :=
    performs_sent_of hheld (by decide +kernel) (by decide +kernel)
  have hheld' : lengthSent.fd = some 0 := by decide +kernel
  have hrecord : Performs obliged lengthSent (.sent [104, 105] [104, 105] true) recordSent :=
    performs_sent_of hheld' (by decide +kernel) (by decide +kernel)
  have hperformed : PerformsAll obliged (.initial ())
      (StreamSender.initial.send [104, 105] StreamSender.allWell).2.trace recordSent := by
    rw [htrace]
    exact (((((PerformsAll.nil.concat .called).concat .versions).concat hopened).concat
      hlength).concat hrecord).concat .returned
  obtain ⟨-, htook, -⟩ := sockets_take_counted_frames (.lwipSocket true) lwipCodes
    ⟨45, 10, 4, 200⟩ obliging obliging_connects hreached hperformed
  exact ⟨_, hreached, hperformed, htook.symm⟩

end SolidSyslog.Tcp
