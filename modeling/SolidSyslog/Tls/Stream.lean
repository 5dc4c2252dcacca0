import SolidSyslog.Lib.Attempt
import SolidSyslog.Tls.Fingerprint
import SolidSyslog.Tls.Session

/-!
# What TLS streams have in common

A stream keeps one flag for its session, its credentials and its transport, and lists its calls
(`TlsState`). Its reads and sends are the same over either library: a failed one closes the stream.
-/

namespace SolidSyslog.Tls

open Lib

/-- A call of the transport by the I/O callbacks of a TLS library. -/
inductive TransportIo where
  | send (ok : Bool)
  | read (result : Int)
  deriving DecidableEq

/-- The entry of a call of the transport. -/
def TransportIo.event {L : Type} : TransportIo → TlsEvent L
  | .send ok => .transportSend ok
  | .read result => .transportRead result

/-- `struct SolidSyslogTlsCredentialsInstalled`. -/
structure CredentialsInstalled where
  trustAnchorsInstalled : Bool
  fingerprints : PinList
  deriving DecidableEq

/-- Nothing is installed yet. -/
def CredentialsInstalled.none : CredentialsInstalled :=
  ⟨false, .null 0⟩

/-- What a call that carries on a handshake returns. -/
inductive HandshakeResult where
  | done
  | wantIo
  | failed
  deriving DecidableEq

/-- What a read of the library returns: a number of bytes, the wish for more I/O or another
error. -/
inductive ReadResult where
  | bytes (count : Nat)
  | wantRead
  | failed
  deriving DecidableEq

/-- What is answered to a `Read`: one read, and a close in case. -/
structure ReadAnswers where
  io : List TransportIo
  result : ReadResult
  closeIo : List TransportIo

/-- What is answered to a `Send`: the reads ahead of it, a write and a close in case. -/
structure SendAnswers where
  reads : Nat → List TransportIo × ReadResult
  io : List TransportIo
  result : Int
  closeIo : List TransportIo

/-- `HANDSHAKE_POLL_INTERVAL_MILLISECONDS` of either stream. -/
def handshakePollIntervalMs : Nat := 10

/-- `MAX_READS_BEFORE_WRITE` of either stream. -/
def maxReadsBeforeWrite : Nat := 8

/-- `HandshakePollMs` of either stream. -/
def handshakePollMs (totalSleptMs budgetMs : Nat) : Nat :=
  let remainingMs := budgetMs - totalSleptMs
  if remainingMs < handshakePollIntervalMs then remainingMs else handshakePollIntervalMs

theorem handshakePollMs_pos {totalSleptMs budgetMs : Nat} (h : ¬ budgetMs ≤ totalSleptMs) :
    0 < handshakePollMs totalSleptMs budgetMs := by
  unfold handshakePollMs handshakePollIntervalMs
  dsimp only
  split <;> omega

/-! ## Calls -/

section Calls

variable {S : Type} (call : S → List TransportIo → ReadResult → S)
  (close : S → List TransportIo → S)

/-- The end of `Establish` of either stream. -/
def closeOnFailure (closeIo : List TransportIo) (r : Bool × S) : Bool × S :=
  if r.1 then r else (false, close r.2 closeIo)

/-- `Read` of either stream: how many bytes, or none where it closes. -/
def readOrClose (s : S) (io : List TransportIo) (result : ReadResult) (closeIo : List TransportIo) :
    Option Nat × S :=
  let s := call s io result
  match result with
  | .bytes (count + 1) => (some (count + 1), s)
  | .wantRead => (some 0, s)
  | .bytes 0 | .failed => (none, close s closeIo)

/-- The loop of `SessionIsStillOpen`, with the reads that are left. -/
def discardFrom (answers : SendAnswers) (s : S) (pending : Option Nat) : Nat → Bool × S
  | 0 => (pending.isSome, s)
  | left + 1 =>
    match pending with
    | some (_ + 1) =>
      let (io, result) := answers.reads (maxReadsBeforeWrite - (left + 1))
      let (pending, s) := readOrClose call close s io result answers.closeIo
      discardFrom answers s pending left
    | _ => (pending.isSome, s)

/-- `SessionIsStillOpen` of either stream. -/
def sessionIsStillOpen (answers : SendAnswers) (s : S) : Bool × S :=
  let (io, result) := answers.reads 0
  let (pending, s) := readOrClose call close s io result answers.closeIo
  discardFrom call close answers s pending (maxReadsBeforeWrite - 1)

/-- `Send` of either stream. -/
def sendOrClose (write : S → List TransportIo → S) (answers : SendAnswers) (size : Nat) (s : S) :
    Bool × S :=
  match sessionIsStillOpen call close answers s with
  | (true, s) =>
    let s := write s answers.io
    if 0 < answers.result ∧ answers.result = size then (true, s)
      else (false, close s answers.closeIo)
  | (false, s) => (false, s)

variable {call close} {rests shuts going : S → Prop} {s : S}

theorem closeOnFailure_spec {r : Bool × S} (h : Attempted going rests r)
    (hclose : ∀ s io, going s → shuts (close s io)) (closeIo : List TransportIo) :
    Attempted shuts rests (closeOnFailure close closeIo r) := by
  unfold closeOnFailure
  split
  · next hok => exact .of_true hok (h.holds_of hok)
  · next hfailed => exact .of_false rfl (hclose _ _ (h.fails_of (by simpa using hfailed)))

/-- A read leaves the stream as it is or closes it. -/
theorem readOrClose_spec (hcall : ∀ s io result, rests s → rests (call s io result))
    (hclose : ∀ s io, rests s → shuts (close s io)) (h : rests s) (io : List TransportIo)
    (result : ReadResult) (closeIo : List TransportIo) :
    if (readOrClose call close s io result closeIo).1.isSome
      then rests (readOrClose call close s io result closeIo).2
      else shuts (readOrClose call close s io result closeIo).2 := by
  have hread := hcall s io result h
  unfold readOrClose
  cases result with
  | bytes count =>
    cases count with
    | zero => exact hclose _ _ hread
    | succ count => exact hread
  | wantRead => exact hread
  | failed => exact hclose _ _ hread

theorem discardFrom_spec (hcall : ∀ s io result, rests s → rests (call s io result))
    (hclose : ∀ s io, rests s → shuts (close s io)) (answers : SendAnswers) (pending : Option Nat)
    (left : Nat) (h : if pending.isSome then rests s else shuts s) :
    Attempted shuts rests (discardFrom call close answers s pending left) := by
  induction left generalizing s pending with
  | zero =>
    cases pending with
    | none => exact h
    | some count => exact h
  | succ left ih =>
    unfold discardFrom
    cases pending with
    | none => exact h
    | some count =>
      cases count with
      | zero => exact h
      | succ count => exact ih _ (readOrClose_spec hcall hclose h _ _ _)

/-- A send leaves the stream as it is or closes it. -/
theorem sendOrClose_spec (hcall : ∀ s io result, rests s → rests (call s io result))
    (hclose : ∀ s io, rests s → shuts (close s io)) {write : S → List TransportIo → S}
    (hwrite : ∀ s io, rests s → rests (write s io)) (answers : SendAnswers) (size : Nat)
    (h : rests s) :
    Attempted shuts rests (sendOrClose call close write answers size s) := by
  have hopen : Attempted shuts rests (sessionIsStillOpen call close answers s) := by
    unfold sessionIsStillOpen
    exact discardFrom_spec hcall hclose _ _ _ (readOrClose_spec hcall hclose h _ _ _)
  unfold sendOrClose
  split
  · next s₁ hok =>
    rw [hok] at hopen
    have hwritten := hwrite s₁ answers.io (hopen.holds_of rfl)
    dsimp only
    split
    · exact .of_true rfl hwritten
    · exact .of_false rfl (hclose _ _ hwritten)
  · next s₁ hfailed =>
    rw [hfailed] at hopen
    exact .of_false rfl (hopen.fails_of rfl)

end Calls

/-! ## The flag -/

/-- A stream that lists its calls and keeps a flag for the install that is outstanding, and the
object of its library that holds what is installed. -/
class TlsState (S : Type) (L : outParam Type) where
  trace : S → List (TlsEvent L)
  credentialsInstalled : S → Bool
  hasHolder : S → Bool
  frees : L → Bool
  emit : S → TlsEvent L → S
  trace_emit : ∀ s event, trace (emit s event) = trace s ++ [event]
  credentialsInstalled_emit : ∀ s event, credentialsInstalled (emit s event) =
    credentialsInstalled s
  hasHolder_emit : ∀ s event, hasHolder (emit s event) = hasHolder s

section Flag

variable {S L : Type} [T : TlsState S L] {s s' s'' : S}

attribute [simp] TlsState.trace_emit TlsState.credentialsInstalled_emit TlsState.hasHolder_emit

/-- Between two calls the flag stands for the session, the credentials and the transport. -/
structure Resting (s : S) : Prop where
  atRest : AtRest T.frees (T.trace s) (T.credentialsInstalled s)
  holder : T.credentialsInstalled s = true → T.hasHolder s = true

/-- The flag stands for the install that is outstanding, within a call. -/
structure Going (s : S) : Prop where
  running : Running T.frees (T.trace s) (T.credentialsInstalled s)
  holder : T.credentialsInstalled s = true → T.hasHolder s = true

/-- The credentials are installed, within a call. -/
structure Holding (s : S) : Prop where
  running : Running T.frees (T.trace s) true
  flag : T.credentialsInstalled s = true
  holder : T.hasHolder s = true

/-- Nothing is installed, within a call. -/
structure Bare (s : S) : Prop where
  running : Running T.frees (T.trace s) false
  flag : T.credentialsInstalled s = false

/-- A stream that has released everything, within a call. -/
structure Shut (s : S) : Prop extends Bare s where
  transport : (Session.of T.frees (T.trace s)).transportOpen = false

/-- A step that neither installs, releases, opens nor closes, and frees nothing. -/
structure Keeps (s s' : S) : Prop where
  trace : Extends (Quiet T.frees) (T.trace s) (T.trace s')
  flag : T.credentialsInstalled s' = T.credentialsInstalled s
  holder : T.hasHolder s' = T.hasHolder s

theorem Holding.going (h : Holding s) : Going s := by
  refine ⟨?_, fun _ => h.holder⟩
  rw [h.flag]
  exact h.running

theorem Bare.going (h : Bare s) : Going s := by
  refine ⟨?_, fun hflag => absurd hflag (by simp [h.flag])⟩
  rw [h.flag]
  exact h.running

theorem Resting.going (h : Resting s) : Going s :=
  ⟨h.atRest.running, h.holder⟩

/-- Within a call the credentials are installed or not. -/
theorem Going.cases (h : Going s) : Holding s ∨ Bare s := by
  obtain ⟨hrunning, hholder⟩ := h
  cases hflag : T.credentialsInstalled s with
  | true =>
    rw [hflag] at hrunning
    exact .inl ⟨hrunning, hflag, hholder hflag⟩
  | false =>
    rw [hflag] at hrunning
    exact .inr ⟨hrunning, hflag⟩

namespace Keeps

theorem refl (s : S) : Keeps s s :=
  ⟨.refl _, rfl, rfl⟩

theorem trans (h : Keeps s s') (h' : Keeps s' s'') : Keeps s s'' :=
  ⟨h.trace.trans h'.trace, h'.flag.trans h.flag, h'.holder.trans h.holder⟩

theorem holding (h : Keeps s s') (hs : Holding s) : Holding s' :=
  ⟨hs.running.quiet h.trace, h.flag.trans hs.flag, h.holder.trans hs.holder⟩

theorem bare (h : Keeps s s') (hs : Bare s) : Bare s' :=
  ⟨hs.running.quiet h.trace, h.flag.trans hs.flag⟩

theorem resting (h : Keeps s s') (hs : Resting s) : Resting s' := by
  refine ⟨?_, ?_⟩
  · rw [h.flag]
    exact hs.atRest.quiet h.trace
  · rw [h.flag, h.holder]
    exact hs.holder

/-- Whatever such a step answers. -/
theorem attempted_holding {r : Bool × S} (h : Keeps s r.2) (hs : Holding s) :
    Attempted Going Holding r :=
  .of_both (h.holding hs).going fun _ => h.holding hs

theorem attempted_bare {r : Bool × S} (h : Keeps s r.2) (hs : Bare s) : Attempted Going Bare r :=
  .of_both (h.bare hs).going fun _ => h.bare hs

end Keeps

/-- The entries of a library call that frees nothing, and of the I/O it does. -/
theorem extends_library {t : List (TlsEvent L)} {frees : L → Bool} {call : L}
    (hcall : frees call = false) (io : List TransportIo) :
    Extends (Quiet frees) t (t ++ io.map TransportIo.event ++ [.library call]) := by
  refine ⟨io.map TransportIo.event ++ [.library call], List.append_assoc .., ?_⟩
  intro entry hentry
  rcases List.mem_append.1 hentry with hio | hlibrary
  · obtain ⟨op, -, rfl⟩ := List.mem_map.1 hio
    cases op with
    | send ok => trivial
    | read result => trivial
  · rw [List.mem_singleton.1 hlibrary]
    exact hcall

/-! ### Within a call -/

/-- The transport is opened. -/
theorem Bare.openTransport (h : Bare s)
    (hclosed : (Session.of T.frees (T.trace s)).transportOpen = false) (ok : Bool) :
    Bare (T.emit s (.transportOpen ok)) := by
  refine ⟨?_, by simp [h.flag]⟩
  rw [T.trace_emit]
  exact h.running.transportOpen hclosed ok

/-- The credentials are asked to install. -/
theorem Bare.install (h : Bare s) {ok : Bool} (htrace : T.trace s' = T.trace s ++ [.install ok])
    (hflag : T.credentialsInstalled s' = true) (hholder : T.hasHolder s' = true) : Holding s' := by
  refine ⟨?_, hflag, hholder⟩
  rw [htrace]
  exact h.running.install ok

/-- Everything is released: the object that holds the material is freed ahead of the credentials,
and the transport is closed. -/
theorem Holding.shut (h : Holding s) {call : L} (hcall : T.frees call = true)
    (htrace : T.trace s' = T.trace s ++ [.library call] ++ [.release] ++ [.transportClose])
    (hflag : T.credentialsInstalled s' = false) : Shut s' := by
  obtain ⟨hrunning, hfreed⟩ := h.running.free call hcall
  obtain ⟨hshut, htransport⟩ := (hrunning.release hfreed).transportClose
  rw [← htrace] at hshut htransport
  exact ⟨⟨hshut, hflag⟩, htransport⟩

/-- With nothing installed the object may be freed too. -/
theorem Bare.free (h : Bare s) {call : L} (hcall : T.frees call = true)
    (htrace : T.trace s' = T.trace s ++ [.library call])
    (hflag : T.credentialsInstalled s' = T.credentialsInstalled s) : Bare s' := by
  refine ⟨?_, hflag.trans h.flag⟩
  rw [htrace]
  exact (h.running.free call hcall).1

/-- With nothing installed only the transport is closed. -/
theorem Bare.shut (h : Bare s) : Shut (T.emit s .transportClose) := by
  obtain ⟨hshut, htransport⟩ := h.running.transportClose
  rw [← T.trace_emit] at hshut htransport
  exact ⟨⟨hshut, by simp [h.flag]⟩, htransport⟩

/-! ### Whole calls -/

/-- A call that has shut the stream returns so. -/
theorem Shut.returned (h : Shut s) {answer : TlsAnswer} (hanswer : answer.isNegative = true) :
    Resting (T.emit s (.returned answer)) := by
  refine ⟨?_, fun hflag => absurd hflag (by simp [h.flag])⟩
  rw [T.trace_emit, T.credentialsInstalled_emit, h.flag]
  exact h.running.closed h.transport hanswer

/-- A call that leaves the stream as it is returns so. -/
theorem Resting.answered (h : Resting s) {answer : TlsAnswer} (hanswer : answer.isNegative = false)
    (hother : ∀ ok, answer ≠ .opened ok) : Resting (T.emit s (.returned answer)) := by
  refine ⟨?_, by simpa using h.holder⟩
  rw [T.trace_emit, T.credentialsInstalled_emit]
  exact h.atRest.answered hanswer hother

/-- A call other than `Open` begins. -/
theorem Resting.called (h : Resting s) {call : TlsCall} (hcall : call ≠ .openStream) :
    Resting (T.emit s (.called call)) := by
  refine ⟨?_, by simpa using h.holder⟩
  rw [T.trace_emit, T.credentialsInstalled_emit]
  exact h.atRest.called hcall

/-- An `Open` of a stream that is open is refused, and any other one establishes a session or shuts
the stream. -/
theorem Resting.opens (h : Resting s) (establish : S → Bool × S)
    (hestablish : ∀ s, Bare s → (Session.of T.frees (T.trace s)).transportOpen = false →
      Attempted Shut Holding (establish s)) {r : Bool × S}
    (hr : r = if T.credentialsInstalled (T.emit s (.called .openStream))
      then (false, T.emit s (.called .openStream))
        else establish (T.emit s (.called .openStream))) :
    Resting (T.emit r.2 (.returned (.opened r.1))) := by
  have hrest := h.atRest
  rw [T.credentialsInstalled_emit] at hr
  split at hr
  · next hopen =>
    subst hr
    rw [hopen] at hrest
    refine ⟨?_, by simpa using h.holder⟩
    rw [T.trace_emit, T.trace_emit, T.credentialsInstalled_emit, T.credentialsInstalled_emit, hopen]
    exact hrest.refused
  · next hclosed =>
    have hflag : T.credentialsInstalled s = false := by simpa using hclosed
    rw [hflag] at hrest
    obtain ⟨hopening, htransport⟩ := hrest.opening
    rw [← T.trace_emit] at hopening htransport
    have hbare : Bare (T.emit s (.called .openStream)) := ⟨hopening, by simp [hflag]⟩
    have hdone := hestablish _ hbare htransport
    rw [← hr] at hdone
    cases hresult : r.1 with
    | true =>
      have hholding := hdone.holds_of hresult
      refine ⟨?_, fun _ => by simp [hholding.holder]⟩
      rw [T.trace_emit, T.credentialsInstalled_emit, hholding.flag]
      exact hholding.running.opened
    | false => exact (hdone.fails_of hresult).returned rfl

/-- A send leaves the stream as it is or shuts it. -/
theorem Resting.sends (h : Resting s) {send : S → Bool × S}
    (hsend : ∀ s, Resting s → Attempted Shut Resting (send s)) :
    Resting (T.emit (send (T.emit s (.called .send))).2
      (.returned (.sent (send (T.emit s (.called .send))).1))) := by
  have hcalled : Resting (T.emit s (.called .send)) := h.called nofun
  have hsent := hsend _ hcalled
  cases hresult : (send (T.emit s (.called .send))).1 with
  | true => exact (hsent.holds_of hresult).answered rfl nofun
  | false => exact (hsent.fails_of hresult).returned rfl

/-- A read leaves the stream as it is or shuts it. -/
theorem Resting.reads (h : Resting s) {read : S → Option Nat × S}
    (hread : ∀ s, Resting s → if (read s).1.isSome then Resting (read s).2 else Shut (read s).2) :
    Resting (T.emit (read (T.emit s (.called .read))).2
      (.returned (.read (read (T.emit s (.called .read))).1))) := by
  have hcalled : Resting (T.emit s (.called .read)) := h.called nofun
  have hdone := hread _ hcalled
  cases hresult : (read (T.emit s (.called .read))).1 with
  | some size =>
    rw [hresult] at hdone
    exact hdone.answered rfl nofun
  | none =>
    rw [hresult] at hdone
    exact Shut.returned hdone rfl

/-- A close shuts the stream. -/
theorem Resting.closes (h : Resting s) {close : S → S} (hclose : ∀ s, Going s → Shut (close s)) :
    Resting (T.emit (close (T.emit s (.called .close))) (.returned .closed)) := by
  have hcalled : Resting (T.emit s (.called .close)) := h.called nofun
  exact (hclose _ hcalled.going).returned rfl

end Flag

end SolidSyslog.Tls
