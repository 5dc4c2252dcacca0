import SolidSyslog.Lib.Trace

/-!
# What a TLS stream owes its credentials and its transport

The calls a TLS stream answers and those it makes, whichever TLS library is beneath it. A call of
that library may free the object that holds the installed material. `Admissible` says what a stream
may do next, by what its trace shows (`Session.of`); the rules below are the ways a stream keeps to
it.
-/

namespace SolidSyslog.Tls

open Lib

inductive TlsCall where
  | openStream
  | send
  | read
  | close
  deriving DecidableEq

/-- What a call has returned. -/
inductive TlsAnswer where
  | opened (ok : Bool)
  | sent (ok : Bool)
  | read (size : Option Nat)
  | closed
  deriving DecidableEq

/-- The calls of a stream and what they return, and the calls it makes of its transport, its
credentials and a library with the calls `L`. -/
inductive TlsEvent (L : Type) where
  | called (call : TlsCall)
  | returned (answer : TlsAnswer)
  | transportOpen (ok : Bool)
  | transportSend (ok : Bool)
  | transportRead (result : Int)
  | transportClose
  | install (ok : Bool)
  | release
  | library (call : L)
  deriving DecidableEq

/-- What a trace shows: whether an install is outstanding and the object that holds its material has
been freed since, whether the transport has been opened and not closed since, whether the caller has
the stream open, and whether it is now in an `Open` of a stream it has open. -/
structure Session where
  installed : Bool
  freed : Bool
  transportOpen : Bool
  isOpen : Bool
  refusing : Bool
  deriving DecidableEq

/-- The answers after which the stream counts as closed. -/
def TlsAnswer.isNegative : TlsAnswer → Bool
  | .opened ok | .sent ok => !ok
  | .read size => size.isNone
  | .closed => true

namespace Session

variable {L : Type} (frees : L → Bool)

def initial : Session :=
  ⟨false, false, false, false, false⟩

/-- What one more entry shows. -/
def observe (s : Session) : TlsEvent L → Session
  | .called .openStream => { s with refusing := s.isOpen }
  | .called _ => s
  | .returned (.opened ok) =>
    if s.refusing then { s with refusing := false } else { s with isOpen := ok }
  | .returned answer => if answer.isNegative then { s with isOpen := false } else s
  | .transportOpen ok => { s with transportOpen := s.transportOpen || ok }
  | .transportSend _ | .transportRead _ => s
  | .transportClose => { s with transportOpen := false }
  | .install _ => { s with installed := true, freed := false }
  | .release => { s with installed := false }
  | .library call => { s with freed := s.freed || frees call }

/-- What a trace shows. -/
def of (t : List (TlsEvent L)) : Session :=
  t.foldl (observe frees) initial

/-- No install is outstanding and the transport is closed. -/
def Released (s : Session) : Prop :=
  s.installed = false ∧ s.transportOpen = false

end Session

variable {L : Type} {frees : L → Bool}

/-- Installs and releases alternate, and a release comes after the object that holds the material
has been freed; the transport is opened when it is closed; an `Open` of a stream that is open
returns false and calls nothing; after any other answer that closes the stream a bare `Open` can
follow. -/
def Admissible (frees : L → Bool) (before : List (TlsEvent L)) (entry : TlsEvent L) : Prop :=
  let s := Session.of frees before
  match entry with
  | .called _ => True
  | .returned answer =>
    if s.refusing then answer = .opened false else answer.isNegative = true → s.Released
  | .transportOpen _ => s.refusing = false ∧ s.transportOpen = false
  | .transportSend _ | .transportRead _ | .transportClose | .library _ => s.refusing = false
  | .install _ => s.refusing = false ∧ s.installed = false
  | .release => s.refusing = false ∧ s.installed = true ∧ s.freed = true

/-- Calls that neither install, release, open nor close. -/
def Quiet (frees : L → Bool) : TlsEvent L → Prop
  | .transportSend _ | .transportRead _ => True
  | .library call => frees call = false
  | _ => False

/-- Within a call that is not refused. -/
structure Running (frees : L → Bool) (t : List (TlsEvent L)) (held : Bool) : Prop where
  admissible : Always (Admissible frees) t
  installed : (Session.of frees t).installed = held
  refusing : (Session.of frees t).refusing = false

/-- Between two calls, of a stream that is open or not. -/
structure AtRest (frees : L → Bool) (t : List (TlsEvent L)) (held : Bool) : Prop where
  running : Running frees t held
  isOpen : (Session.of frees t).isOpen = held
  transport : held = false → (Session.of frees t).transportOpen = false

theorem of_concat (t : List (TlsEvent L)) (entry : TlsEvent L) :
    Session.of frees (t ++ [entry]) = (Session.of frees t).observe frees entry := by
  simp [Session.of]

theorem of_quiet {t t' : List (TlsEvent L)} (h : Extends (Quiet frees) t t') :
    Session.of frees t' = Session.of frees t := by
  apply h.fold_eq
  intro s entry hquiet
  cases entry with
  | transportSend ok => rfl
  | transportRead result => rfl
  | library call =>
    have hkept : frees call = false := hquiet
    simp [Session.observe, hkept]
  | _ => exact absurd hquiet id

theorem atRest_initial : AtRest frees [] false :=
  ⟨⟨Always.nil, rfl, rfl⟩, rfl, fun _ => rfl⟩

namespace Running

variable {t t' : List (TlsEvent L)} {held : Bool}

theorem quiet (h : Running frees t held) (hquiet : Extends (Quiet frees) t t') :
    Running frees t' held := by
  refine ⟨hquiet.always h.admissible ?_, ?_, ?_⟩
  · intro before entry hbefore hentry
    have hrefusing : (Session.of frees before).refusing = false := by
      rw [of_quiet hbefore]
      exact h.refusing
    cases entry with
    | transportSend ok => exact hrefusing
    | transportRead result => exact hrefusing
    | library call => exact hrefusing
    | _ => exact absurd hentry id
  · rw [of_quiet hquiet]
    exact h.installed
  · rw [of_quiet hquiet]
    exact h.refusing

theorem transportOpen (h : Running frees t held)
    (hclosed : (Session.of frees t).transportOpen = false)
    (ok : Bool) : Running frees (t ++ [.transportOpen ok]) held := by
  refine ⟨h.admissible.concat ⟨h.refusing, hclosed⟩, ?_, ?_⟩
  · rw [of_concat]
    exact h.installed
  · rw [of_concat]
    exact h.refusing

theorem install (h : Running frees t false) (ok : Bool) :
    Running frees (t ++ [.install ok]) true := by
  refine ⟨h.admissible.concat ⟨h.refusing, h.installed⟩, ?_, ?_⟩
  · rw [of_concat]
    rfl
  · rw [of_concat]
    exact h.refusing

/-- The object that holds the material is freed. -/
theorem free (h : Running frees t held) (call : L) (hfrees : frees call = true) :
    Running frees (t ++ [.library call]) held ∧
      (Session.of frees (t ++ [.library call])).freed = true := by
  refine ⟨⟨h.admissible.concat h.refusing, ?_, ?_⟩, ?_⟩
  · rw [of_concat]
    exact h.installed
  · rw [of_concat]
    exact h.refusing
  · rw [of_concat]
    simp [Session.observe, hfrees]

theorem release (h : Running frees t true) (hfreed : (Session.of frees t).freed = true) :
    Running frees (t ++ [.release]) false := by
  refine ⟨h.admissible.concat ⟨h.refusing, h.installed, hfreed⟩, ?_, ?_⟩
  · rw [of_concat]
    rfl
  · rw [of_concat]
    exact h.refusing

theorem transportClose (h : Running frees t false) :
    Running frees (t ++ [.transportClose]) false ∧
      (Session.of frees (t ++ [.transportClose])).transportOpen = false := by
  refine ⟨⟨h.admissible.concat h.refusing, ?_, ?_⟩, ?_⟩
  · rw [of_concat]
    exact h.installed
  · rw [of_concat]
    exact h.refusing
  · rw [of_concat]
    rfl

/-- An `Open` that has installed its credentials succeeds. -/
theorem opened (h : Running frees t true) :
    AtRest frees (t ++ [.returned (.opened true)]) true := by
  have hsession : Session.of frees (t ++ [.returned (.opened true)]) =
      { Session.of frees t with isOpen := true } := by
    rw [of_concat]
    exact if_neg (by simp [h.refusing])
  have hadmissible : Admissible frees t (.returned (.opened true)) := by
    unfold Admissible
    dsimp only
    rw [h.refusing]
    exact nofun
  refine ⟨⟨h.admissible.concat hadmissible, ?_, ?_⟩, ?_, nofun⟩
  · rw [hsession]
    exact h.installed
  · rw [hsession]
    exact h.refusing
  · rw [hsession]

/-- A call that has released everything returns so. -/
theorem closed (h : Running frees t false) (htransport : (Session.of frees t).transportOpen = false)
    {answer : TlsAnswer} (hanswer : answer.isNegative = true) :
    AtRest frees (t ++ [.returned answer]) false := by
  have hsession : Session.of frees (t ++ [.returned answer]) =
      { Session.of frees t with isOpen := false } := by
    rw [of_concat]
    cases answer with
    | opened ok =>
      obtain rfl : ok = false := by simpa [TlsAnswer.isNegative] using hanswer
      exact if_neg (by simp [h.refusing])
    | sent ok => exact if_pos hanswer
    | read size => exact if_pos hanswer
    | closed => rfl
  have hadmissible : Admissible frees t (.returned answer) := by
    unfold Admissible
    dsimp only
    rw [h.refusing]
    exact fun _ => ⟨h.installed, htransport⟩
  refine ⟨⟨h.admissible.concat hadmissible, ?_, ?_⟩, ?_, fun _ => ?_⟩
  · rw [hsession]
    exact h.installed
  · rw [hsession]
    exact h.refusing
  · rw [hsession]
  · rw [hsession]
    exact htransport

end Running

namespace AtRest

variable {t t' : List (TlsEvent L)} {held : Bool}

/-- An `Open` of a stream that is not open begins. -/
theorem opening (h : AtRest frees t false) :
    Running frees (t ++ [.called .openStream]) false ∧
      (Session.of frees (t ++ [.called .openStream])).transportOpen = false := by
  have hsession : Session.of frees (t ++ [.called .openStream]) =
      { Session.of frees t with refusing := false } := by
    rw [of_concat]
    exact congrArg (fun refusing => { Session.of frees t with refusing := refusing }) h.isOpen
  have hadmissible : Admissible frees t (.called .openStream) := trivial
  refine ⟨⟨h.running.admissible.concat hadmissible, ?_, ?_⟩, ?_⟩
  · rw [hsession]
    exact h.running.installed
  · rw [hsession]
  · rw [hsession]
    exact h.transport rfl

/-- An `Open` of a stream that is open is refused. -/
theorem refused (h : AtRest frees t true) :
    AtRest frees (t ++ [.called .openStream] ++ [.returned (.opened false)]) true := by
  have hcalled : Session.of frees (t ++ [.called .openStream]) =
      { Session.of frees t with refusing := true } := by
    rw [of_concat]
    exact congrArg (fun refusing => { Session.of frees t with refusing := refusing }) h.isOpen
  have hsession : Session.of frees (t ++ [.called .openStream] ++ [.returned (.opened false)]) =
      { Session.of frees t with refusing := false } := by
    rw [of_concat, hcalled]
    rfl
  have hbegun : Admissible frees t (.called .openStream) := trivial
  have hadmissible : Admissible frees (t ++ [.called .openStream]) (.returned (.opened false)) := by
    unfold Admissible
    dsimp only
    rw [hcalled]
    rfl
  refine ⟨⟨(h.running.admissible.concat hbegun).concat hadmissible, ?_, ?_⟩, ?_, nofun⟩
  · rw [hsession]
    exact h.running.installed
  · rw [hsession]
  · rw [hsession]
    exact h.isOpen

/-- Any other call begins. -/
theorem called (h : AtRest frees t held) {call : TlsCall} (hcall : call ≠ .openStream) :
    AtRest frees (t ++ [.called call]) held := by
  have hsession : Session.of frees (t ++ [.called call]) = Session.of frees t := by
    rw [of_concat]
    cases call with
    | openStream => exact absurd rfl hcall
    | send => rfl
    | read => rfl
    | close => rfl
  have hadmissible : Admissible frees t (.called call) := trivial
  refine ⟨⟨h.running.admissible.concat hadmissible, ?_, ?_⟩, ?_, ?_⟩
  · rw [hsession]
    exact h.running.installed
  · rw [hsession]
    exact h.running.refusing
  · rw [hsession]
    exact h.isOpen
  · rw [hsession]
    exact h.transport

theorem quiet (h : AtRest frees t held) (hquiet : Extends (Quiet frees) t t') :
    AtRest frees t' held := by
  have hsession := of_quiet hquiet
  exact ⟨h.running.quiet hquiet, hsession ▸ h.isOpen, hsession ▸ h.transport⟩

/-- A `Send` or `Read` that leaves the stream as it is returns so. -/
theorem answered (h : AtRest frees t held) {answer : TlsAnswer}
    (hanswer : answer.isNegative = false)
    (hother : ∀ ok, answer ≠ .opened ok) : AtRest frees (t ++ [.returned answer]) held := by
  have hsession : Session.of frees (t ++ [.returned answer]) = Session.of frees t := by
    rw [of_concat]
    cases answer with
    | opened ok => exact absurd rfl (hother ok)
    | sent ok => exact if_neg (by simp [hanswer])
    | read size => exact if_neg (by simp [hanswer])
    | closed => exact absurd hanswer nofun
  have hadmissible : Admissible frees t (.returned answer) := by
    unfold Admissible
    dsimp only
    rw [h.running.refusing, hanswer]
    exact nofun
  refine ⟨⟨h.running.admissible.concat hadmissible, ?_, ?_⟩, ?_, ?_⟩
  · rw [hsession]
    exact h.running.installed
  · rw [hsession]
    exact h.running.refusing
  · rw [hsession]
    exact h.isOpen
  · rw [hsession]
    exact h.transport

end AtRest

end SolidSyslog.Tls
