import SolidSyslog.Lib.Run
import SolidSyslog.Tcp.Backends

/-!
# Each of the five streams is a wire

A wire is up or down. It carries the bytes of one conversation after another, and what it fails to
carry whole ends the conversation. Each of the five streams is a wire over any run of its calls,
whatever its socket layer answers, and the run leaves its sockets in order.
-/

namespace SolidSyslog.Tcp

open Lib

/-- A call of a stream. -/
inductive Op where
  | openStream (address : Address)
  | send (data : Bytes)
  | read (size : Nat)
  | close

inductive Answer where
  | opened (ok : Bool)
  | sent (ok : Bool)
  | received (n : Int)
  | closed
  deriving DecidableEq

/-- Whether it is up, the outcomes of the attempts to bring it up, and the bytes of each
conversation. -/
structure Wire where
  isUp : Bool
  outcomes : List Bool
  carried : List Bytes

namespace Wire

/-- Nothing was carried yet. -/
def down : Wire :=
  ⟨false, [], []⟩

/-- What a wire may do at a call. -/
inductive Allows : Wire → Op → Answer → Wire → Prop
  | comesUp {address : Address} {outcomes : List Bool} {carried : List Bytes} :
      Allows ⟨false, outcomes, carried⟩ (.openStream address) (.opened true)
        ⟨true, outcomes ++ [true], carried ++ [[]]⟩
  | staysDown {address : Address} {outcomes : List Bool} {carried : List Bytes} :
      Allows ⟨false, outcomes, carried⟩ (.openStream address) (.opened false)
        ⟨false, outcomes ++ [false], carried⟩
  | staysUp {address : Address} {outcomes : List Bool} {carried : List Bytes} :
      Allows ⟨true, outcomes, carried⟩ (.openStream address) (.opened false)
        ⟨true, outcomes, carried⟩
  | carries {data begun : Bytes} {outcomes : List Bool} {carried : List Bytes} :
      Allows ⟨true, outcomes, carried ++ [begun]⟩ (.send data) (.sent true)
        ⟨true, outcomes, carried ++ [begun ++ data]⟩
  | cutsShort {data part begun : Bytes} {outcomes : List Bool} {carried : List Bytes}
      (isPrefix : part <+: data) :
      Allows ⟨true, outcomes, carried ++ [begun]⟩ (.send data) (.sent false)
        ⟨false, outcomes, carried ++ [begun ++ part]⟩
  | carriesNothing {data : Bytes} {ok : Bool} {outcomes : List Bool} {carried : List Bytes} :
      Allows ⟨false, outcomes, carried⟩ (.send data) (.sent ok) ⟨false, outcomes, carried⟩
  | receives {size : Nat} {n : Int} {w : Wire} (natural : 0 ≤ n) :
      Allows w (.read size) (.received n) w
  | ends {size : Nat} {w : Wire} : Allows w (.read size) (.received (-1)) { w with isUp := false }
  | closes {w : Wire} : Allows w .close .closed { w with isUp := false }

end Wire

variable {ε : Type} {ticks : Nat → Nat} {source : String} {s t : TcpStream ε} {w : Wire}

/-- Runs one call. -/
def StreamOps.perform (ops : StreamOps ε) : Op → TcpStream ε → Answer × TcpStream ε
  | .openStream address, s => (.opened (ops.openStream address s).1, (ops.openStream address s).2)
  | .send data, s => (.sent (ops.send data s).1, (ops.send data s).2)
  | .read size, s => (.received (ops.read size s).1, (ops.read size s).2)
  | .close, s => (.closed, (ops.close s).2)

/-- A call that has returned. -/
def StreamOps.Returns (ops : StreamOps ε) (s : TcpStream ε) (op : Op) (answer : Answer)
    (t : TcpStream ε) : Prop :=
  ops.perform op s = (answer, t)

theorem StreamOps.returns_of {ops : StreamOps ε} {op : Op} {answer : Answer}
    (h : (ops.perform op s).1 = answer) : ops.Returns s op answer (ops.perform op s).2 :=
  Prod.ext h rfl

/-! ## A stream and its wire -/

/-- The stream is the wire: its conversations are over sockets of their own, of which it has the
last or none. -/
structure IsWire (source : String) (ticks : Nat → Nat) (s : TcpStream ε) (w : Wire) : Prop where
  sound : Sound source ticks s
  isUp : w.isUp = s.fd.isSome
  outcomes : w.outcomes = (attempts s.trace).map Option.isNone
  carried : w.carried = (conversations s.trace).map fun socket => taken socket s.trace
  distinct : (conversations s.trace).Nodup
  current : ∀ fd, s.fd = some fd → ∃ earlier, conversations s.trace = earlier ++ [fd]

namespace IsWire

theorem initial (env : ε) : IsWire source ticks (TcpStream.initial env) Wire.down :=
  ⟨.initial env, rfl, rfl, rfl, List.nodup_nil, nofun⟩

/-- Nothing happens on the wire but that it may go down. -/
theorem moves (h : IsWire source ticks s w) (hmoves : Moves source ticks [] s t)
    (hfd : t.fd = s.fd ∨ t.fd = none) :
    IsWire source ticks t { w with isUp := t.fd.isSome } := by
  refine ⟨hmoves.sound h.sound, rfl, ?_, ?_, ?_, fun fd hheld => ?_⟩
  · rw [hmoves.attempts, List.append_nil]
    exact h.outcomes
  · rw [hmoves.conversations]
    exact h.carried.trans (List.map_congr_left fun socket _ => (hmoves.taken socket).symm)
  · rw [hmoves.conversations]
    exact h.distinct
  · rw [hmoves.conversations]
    rcases hfd with hkept | hclosed
    · exact h.current fd (hkept.symm.trans hheld)
    · rw [hclosed] at hheld
      cases hheld

theorem asked (h : IsWire source ticks s w) (hasked : Asked source ticks s t) :
    IsWire source ticks t w := by
  have hmoved := h.moves hasked.2 (.inl hasked.1)
  rw [hasked.1, ← h.isUp] at hmoved
  exact hmoved

/-- A wire that is up carries the bytes of its last conversation. -/
theorem split {fd : Nat} (h : IsWire source ticks s w) (hheld : s.fd = some fd) :
    ∃ earlier, conversations s.trace = earlier ++ [fd] ∧ fd ∉ earlier ∧
      w = ⟨true, w.outcomes, (earlier.map fun socket => taken socket s.trace) ++
        [taken fd s.trace]⟩ := by
  obtain ⟨earlier, hearlier⟩ := h.current fd hheld
  have hdistinct := h.distinct
  rw [hearlier] at hdistinct
  have hnew : fd ∉ earlier := fun hmem =>
    (List.nodup_append.1 hdistinct).2.2 fd hmem fd List.mem_cons_self rfl
  refine ⟨earlier, hearlier, hnew, ?_⟩
  have hcarried := h.carried
  rw [hearlier, List.map_append] at hcarried
  obtain ⟨isUp, outcomes, carried⟩ := w
  obtain rfl : isUp = true := h.isUp.trans (congrArg Option.isSome hheld)
  exact congrArg (Wire.mk true outcomes) hcarried

theorem opens {ok : Bool} {address : Address} (h : IsWire source ticks s w) (hclosed : s.fd = none)
    (hopened : Opened source ticks ok s t) :
    ∃ w', w.Allows (.openStream address) (.opened ok) w' ∧ IsWire source ticks t w' := by
  obtain ⟨isUp, outcomes, carried⟩ := w
  obtain rfl : isUp = false := h.isUp.trans (congrArg Option.isSome hclosed)
  cases ok with
  | true =>
    obtain ⟨fd, hfd, hattempts, hconversations, hfresh⟩ := hopened.connected rfl
    have hnew := hfresh h.sound
    refine ⟨_, .comesUp, hopened.sound h.sound, ?_, ?_, ?_, ?_, ?_⟩
    · rw [hfd]
      rfl
    · rw [hattempts, List.map_append, ← h.outcomes]
      rfl
    · have hnothing : taken fd t.trace = [] := (hopened.taken fd).trans (h.sound.fresh fd hnew)
      rw [hconversations, List.map_append, List.map_singleton, hnothing]
      simp only [hopened.taken]
      rw [← h.carried]
    · rw [hconversations]
      refine List.nodup_append.2 ⟨h.distinct, List.nodup_singleton fd, ?_⟩
      intro other hother last hlast heq
      rw [List.mem_singleton.1 hlast] at heq
      exact hnew (heq ▸ h.sound.connected other hother)
    · intro fd' hheld
      rw [hfd] at hheld
      cases hheld
      exact ⟨_, hconversations⟩
  | false =>
    obtain ⟨hfd, hconversations, failure, hattempts⟩ := hopened.failed rfl
    refine ⟨_, .staysDown, hopened.sound h.sound, ?_, ?_, ?_, ?_, ?_⟩
    · rw [hfd]
      rfl
    · rw [hattempts, List.map_append, ← h.outcomes]
      rfl
    · rw [hconversations]
      simp only [hopened.taken]
      exact h.carried
    · rw [hconversations]
      exact h.distinct
    · intro fd' hheld
      rw [hfd] at hheld
      cases hheld

/-- Bytes that pass are those of the conversation that is on. -/
theorem passes {fd : Nat} {part : Bytes} {earlier : List Nat} (h : IsWire source ticks s w)
    (hheld : s.fd = some fd) (hearlier : conversations s.trace = earlier ++ [fd])
    (hnew : fd ∉ earlier) (hpassed : Passed source ticks part s t)
    (hfd : t.fd = s.fd ∨ t.fd = none) :
    IsWire source ticks t ⟨t.fd.isSome, w.outcomes,
      (earlier.map fun socket => taken socket s.trace) ++ [taken fd s.trace ++ part]⟩ := by
  refine ⟨hpassed.sound h.sound, rfl, ?_, ?_, ?_, fun fd' hheld' => ?_⟩
  · rw [hpassed.attempts]
    exact h.outcomes
  · have hothers : (earlier.map fun socket => taken socket t.trace) =
        earlier.map fun socket => taken socket s.trace := by
      apply List.map_congr_left
      intro socket hsocket
      have hother : ¬ s.fd = some socket := by
        rw [hheld]
        rintro ⟨rfl⟩
        exact hnew hsocket
      rw [hpassed.taken, if_neg hother, List.append_nil]
    have hthis : taken fd t.trace = taken fd s.trace ++ part := by
      rw [hpassed.taken, if_pos hheld]
    rw [hpassed.conversations, hearlier, List.map_append, List.map_singleton, hothers, hthis]
  · rw [hpassed.conversations]
    exact h.distinct
  · rw [hpassed.conversations]
    rcases hfd with hkept | hclosed
    · exact h.current fd' (hkept.symm.trans hheld')
    · rw [hclosed] at hheld'
      cases hheld'

theorem sends {ok : Bool} {data : Bytes} (h : IsWire source ticks s w)
    (hsent : Sent source ticks data ok s t) :
    ∃ w', w.Allows (.send data) (.sent ok) w' ∧ IsWire source ticks t w' := by
  obtain ⟨hfd, part, hprefix, hwhole, hpassed⟩ := hsent
  cases hheld : s.fd with
  | some fd =>
    obtain ⟨earlier, hearlier, hnew, hw⟩ := h.split hheld
    have hwire := h.passes hheld hearlier hnew hpassed (by cases ok <;> simp [hfd])
    rw [hw]
    cases ok with
    | true =>
      rw [hfd, hheld, hwhole rfl] at hwire
      exact ⟨_, .carries, hwire⟩
    | false =>
      rw [hfd] at hwire
      exact ⟨_, .cutsShort hprefix, hwire⟩
  | none =>
    have hnone : t.fd = none := by
      rw [hfd, hheld, ite_self]
    have hmoves : Moves source ticks [] s t := by
      refine ⟨hpassed.attempts.trans (List.append_nil _).symm, hpassed.conversations,
        fun socket => ?_, hpassed.sound⟩
      rw [hpassed.taken, hheld, if_neg nofun, List.append_nil]
    have hwire := h.asked ⟨hnone.trans hheld.symm, hmoves⟩
    obtain ⟨isUp, outcomes, carried⟩ := w
    obtain rfl : isUp = false := h.isUp.trans (congrArg Option.isSome hheld)
    exact ⟨_, .carriesNothing, hwire⟩

theorem receives {n : Int} {size : Nat} (h : IsWire source ticks s w)
    (hreceived : Received source ticks n s t) :
    ∃ w', w.Allows (.read size) (.received n) w' ∧ IsWire source ticks t w' := by
  obtain ⟨hmoves, ⟨hnatural, hfd⟩ | ⟨rfl, hfd⟩⟩ := hreceived
  · exact ⟨w, .receives hnatural, h.asked ⟨hfd, hmoves⟩⟩
  · have hwire := h.moves hmoves (.inr hfd)
    rw [hfd] at hwire
    exact ⟨_, .ends, hwire⟩

end IsWire

/-- Whatever a stream is called to do, it does as a wire may. -/
theorem Meets.step {ops : StreamOps ε} (hops : Meets source ticks ops) {op : Op} {answer : Answer}
    (h : IsWire source ticks s w) (hstep : ops.Returns s op answer t) :
    ∃ w', w.Allows op answer w' ∧ IsWire source ticks t w' := by
  cases op with
  | openStream address =>
    obtain ⟨rfl, rfl⟩ := Prod.mk.inj hstep
    cases hheld : s.fd with
    | none => exact h.opens hheld (hops.opens address s hheld)
    | some fd =>
      obtain ⟨hfalse, hasked⟩ := hops.staysOpen address s fd hheld
      obtain ⟨earlier, -, -, hw⟩ := h.split hheld
      refine ⟨w, ?_, h.asked hasked⟩
      rw [hfalse, hw]
      exact .staysUp
  | send data =>
    obtain ⟨rfl, rfl⟩ := Prod.mk.inj hstep
    exact h.sends (hops.sends data s)
  | read size =>
    obtain ⟨rfl, rfl⟩ := Prod.mk.inj hstep
    exact h.receives (hops.reads size s)
  | close =>
    obtain ⟨rfl, rfl⟩ := Prod.mk.inj hstep
    obtain ⟨hfd, hmoves⟩ := hops.closes s
    have hwire := h.moves hmoves (.inr hfd)
    rw [hfd] at hwire
    exact ⟨_, .closes, hwire⟩

theorem Meets.run {ops : StreamOps ε} (hops : Meets source ticks ops) {env : ε} {calls : List Op}
    {answers : List Answer} (h : Run ops.Returns (TcpStream.initial env) calls answers s) :
    ∃ w, Run Wire.Allows Wire.down calls answers w ∧ IsWire source ticks s w :=
  h.simulates (D := fun _ => True) (R := IsWire source ticks) (fun _ _ => trivial) (.initial env)
    fun _ hwire hstep => hops.step hwire hstep

/-- Each of the five streams does over any run of its calls what a wire may, each conversation over
a socket of its own. Its sockets are used while it has them and closed once, its waits are in time,
and of each streak of like failures to connect the first is reported. Once it is closed it sends
nothing, where its stack refuses to. -/
theorem streams_are_wires (B : Backend) (C : Codes) (T : Tunables) (L : SocketLayer ε) {env : ε}
    {calls : List Op} {answers : List Answer} (hconnect : B.ConnectAnswers L)
    (hrun : Run (B.tcpStream C T L).Returns (TcpStream.initial env) calls answers s) :
    (∃ w, Run Wire.Allows Wire.down calls answers w ∧ w.isUp = s.fd.isSome ∧
      w.outcomes = (attempts s.trace).map Option.isNone ∧
      w.carried = (conversations s.trace).map fun socket => taken socket s.trace) ∧
    (conversations s.trace).Nodup ∧ Ledger sockets s.fd.toList s.trace ∧
    (∀ socket request reply, .called socket request reply ∈ s.trace → InTime B.waitTicks request) ∧
    connectFailures s.events =
      (firsts Failure.detail (attempts s.trace)).map (Failure.event B.source) ∧
    (B.RefusesClosed L → s.fd = none → ∀ data, ((B.tcpStream C T L).send data s).1 = false) := by
  have hmeets : Meets B.source B.waitTicks (B.tcpStream C T L) := B.tcpStream_meets hconnect
  obtain ⟨w, hallowed, hwire⟩ := hmeets.run hrun
  exact ⟨⟨w, hallowed, hwire.isUp, hwire.outcomes, hwire.carried⟩, hwire.distinct,
    hwire.sound.ledger, hwire.sound.inTime, hwire.sound.reports,
    fun hrefuses hclosed data => B.tcpStream_refuses hrefuses hclosed data⟩

/-- A socket layer where all goes well. -/
def obliging : SocketLayer Unit where
  answer
    | _, .socket, env => (⟨3, 0, false, false, 0, []⟩, env)
    | _, .peek, env => (⟨1, 0, false, false, 0, []⟩, env)
    | some _, .send data _, env => (⟨data.length, 0, false, false, 0, []⟩, env)
    | none, .send _ _, env => (⟨-1, 0, false, false, 0, []⟩, env)
    | _, _, env => (⟨0, 0, false, false, 0, []⟩, env)
  getConnectTimeoutMs := none

def lwipCodes : Codes :=
  ⟨115, 111, 110, 128, 11, 11, 2048, by decide, by decide, by decide⟩

def obliged : StreamOps Unit :=
  (Backend.lwipSocket true).tcpStream lwipCodes ⟨45, 10, 4, 200⟩ obliging

theorem obliging_connects : (Backend.lwipSocket true).ConnectAnswers obliging :=
  fun _ _ _ => Int.le_refl 0

theorem obliging_refuses : (Backend.lwipSocket true).RefusesClosed obliging :=
  fun _ _ _ => Int.negSucc_lt_zero 0

def oneSend : List Op :=
  [.openStream ⟨0, 601⟩, .send [65], .close]

/-- A stream that connects, sends one byte and closes, and sends no more. -/
theorem stream_carries_one_byte : ∃ s w,
    Run obliged.Returns (TcpStream.initial ()) oneSend [.opened true, .sent true, .closed] s ∧
    Run Wire.Allows Wire.down oneSend [.opened true, .sent true, .closed] w ∧
    (w.carried = (conversations s.trace).map fun socket => taken socket s.trace) ∧
    ∀ data, (obliged.send data s).1 = false := by
  have hopen : obliged.Returns (.initial ()) (.openStream ⟨0, 601⟩) (.opened true) _ :=
    StreamOps.returns_of (by decide +kernel)
  have hsend : obliged.Returns (obliged.perform (.openStream ⟨0, 601⟩) (.initial ())).2 (.send [65])
      (.sent true) _ := StreamOps.returns_of (by decide +kernel)
  have hclose (u : TcpStream Unit) : obliged.Returns u .close .closed _ := rfl
  have hrun := Run.cons hopen (.cons hsend (.cons (hclose _) (.nil _)))
  obtain ⟨⟨w, hallowed, -, -, hcarried⟩, -, -, -, -, hrefused⟩ :=
    streams_are_wires (.lwipSocket true) lwipCodes ⟨45, 10, 4, 200⟩ obliging obliging_connects hrun
  exact ⟨_, w, hrun, hallowed, hcarried, hrefused obliging_refuses (by decide +kernel)⟩

end SolidSyslog.Tcp
