import SolidSyslog.Lib.Interleaving

/-!
# The lwIP resolver of names

`SolidSyslogLwipRawDnsResolver.c`. A `Resolve` runs on the caller's thread, the hops it marshals and
the callbacks of lwIP's lookups on lwIP's; each hop and each callback is one move. A lookup that a
`Resolve` has given up may still be answered, into the same fields of the resolver.
-/

namespace SolidSyslog.LwipRaw

open Lib

/-- What is outside: which addresses are IPv4, and the tunables of the wait. -/
structure DnsConfig (Addr : Type) where
  isIpv4 : Addr → Bool
  pollMs : UInt32
  deadlineMs : UInt32

/-- `struct SolidSyslogLwipRawAddress`. -/
structure Address (Addr : Type) where
  ip : Addr
  port : UInt16
  deriving DecidableEq

/-- What `dns_gethostbyname` returns: an address at once, the notice that a lookup is under way, or
any other error. -/
inductive LookupResult (Addr : Type) where
  | ok (ip : Addr)
  | inProgress
  | rejected

/-- Where the caller's thread is in `LwipRawDnsResolver_Resolve`. -/
inductive DnsStep where
  | idle
  | clearResolvedOk
  | getHostByName
  | publish
  | storeAnswer
  | spin (elapsedMs : UInt32)
  | reportTimeout
  | returnDone
  | publishResult
  | reportFamily
  | returned
  deriving DecidableEq

/-- `struct LwipRawDnsResolverCall`, with the address its caller passed as it was. -/
structure DnsCall (Host Addr : Type) where
  host : Host
  destination : Address Addr
  port : UInt16
  resolved : Bool
  familyUnsupported : Bool
  passed : Address Addr
  deriving DecidableEq

/-- `struct SolidSyslogLwipRawDnsResolver`, the call it is in, the hosts of lwIP's lookups under way
and what lwIP has answered so far. -/
structure DnsResolver (Host Addr : Type) where
  done : Bool
  resolvedOk : Bool
  resolvedIp : Addr
  caller : DnsStep
  call : DnsCall Host Addr
  lookups : List Host
  given : List (Host × Addr)
  deriving DecidableEq

/-- What either thread can do next. -/
inductive DnsMove (Host Addr : Type) where
  | resolve (host : Host) (port : UInt16) (destination : Address Addr)
  | lookUp (result : LookupResult Addr)
  | goOn
  | found (lookup : Nat) (ip : Option Addr)

namespace DnsResolver

variable {Host Addr : Type} (C : DnsConfig Addr)

/-- The branch of `LwipRawDnsResolver_Publish` that fills the destination. -/
def storeAnswer (call : DnsCall Host Addr) (answer : Addr) : DnsCall Host Addr :=
  { call with destination := ⟨answer, call.port⟩, resolved := true }

/-- The branch that refuses the family. -/
def refuseFamily (call : DnsCall Host Addr) : DnsCall Host Addr :=
  { call with familyUnsupported := true }

/-- `LwipRawDnsResolver_Publish` as one step, which it is on lwIP's thread. -/
def publish (call : DnsCall Host Addr) (answer : Addr) : DnsCall Host Addr :=
  if C.isIpv4 answer then storeAnswer call answer else refuseFamily call

/-- `LwipRawDnsResolver_FoundCallback`. -/
def foundCallback (r : DnsResolver Host Addr) (ip : Option Addr) : DnsResolver Host Addr :=
  match ip with
  | some ip => { r with resolvedIp := ip, resolvedOk := true, done := true }
  | none => { r with done := true }

/-- `LwipRawDnsResolver_DoPublishResult`. -/
def doPublishResult (r : DnsResolver Host Addr) : DnsResolver Host Addr :=
  if r.resolvedOk then { r with call := publish C r.call r.resolvedIp } else r

/-- The next step of the caller's thread that is not the lookup. An answer given at once is
published on this thread, outside any hop, from the fields the callbacks write: one may fall between
the check of its family and the copy. -/
def goOn (r : DnsResolver Host Addr) : Option (DnsResolver Host Addr) :=
  match r.caller with
  | .clearResolvedOk => some { r with resolvedOk := false, caller := .getHostByName }
  | .publish =>
    if C.isIpv4 r.resolvedIp then some { r with caller := .storeAnswer }
    else some { r with call := refuseFamily r.call, caller := .reportFamily }
  | .storeAnswer => some { r with call := storeAnswer r.call r.resolvedIp, caller := .reportFamily }
  | .spin elapsedMs =>
    if !r.done && elapsedMs < C.deadlineMs then
      some { r with caller := .spin (elapsedMs + C.pollMs) }
    else some { r with caller := .reportTimeout }
  | .reportTimeout => some { r with caller := .returnDone }
  | .returnDone => some { r with caller := if r.done then .publishResult else .reportFamily }
  | .publishResult => some { r.doPublishResult C with caller := .reportFamily }
  | .reportFamily => some { r with caller := .returned }
  | _ => none

/-- One move, if it is possible. -/
def move (r : DnsResolver Host Addr) : DnsMove Host Addr → Option (DnsResolver Host Addr)
  | .resolve host port destination =>
    if r.caller = .idle ∨ r.caller = .returned then
      some { r with
        done := false
        caller := .clearResolvedOk
        call := ⟨host, destination, port, false, false, destination⟩ }
    else none
  | .lookUp result =>
    if r.caller = .getHostByName then
      match result with
      | .ok ip => some { r with
          resolvedIp := ip, caller := .publish, given := (r.call.host, ip) :: r.given }
      | .inProgress => some { r with caller := .spin 0, lookups := r.lookups ++ [r.call.host] }
      | .rejected => some { r with caller := .reportFamily }
    else none
  | .goOn => r.goOn C
  | .found lookup ip =>
    match r.lookups[lookup]? with
    | some host => some { r.foundCallback ip with
        lookups := r.lookups.eraseIdx lookup
        given := match ip with
          | some ip => (host, ip) :: r.given
          | none => r.given }
    | none => none

/-- A resolver that has not been asked yet. -/
def initial (ip : Addr) (call : DnsCall Host Addr) : DnsResolver Host Addr :=
  ⟨false, false, ip, .idle, call, [], []⟩

/-- A `Resolve` that returns true has published an IPv4 address lwIP gave for its host, with its
port; one that returns false has left the destination as it was. -/
structure AnswersHost (r : DnsResolver Host Addr) : Prop where
  published : r.caller = .returned → r.call.resolved = true →
    (r.call.host, r.call.destination.ip) ∈ r.given ∧ C.isIpv4 r.call.destination.ip = true ∧
      r.call.destination.port = r.call.port
  unchanged : r.caller = .returned → r.call.resolved = false → r.call.destination = r.call.passed

/-- The `Resolve` under way has cleared the resolver's fields and not published yet. -/
def isWaiting (r : DnsResolver Host Addr) : Bool :=
  match r.caller with
  | .getHostByName | .publish | .storeAnswer | .spin _ | .reportTimeout | .returnDone
  | .publishResult => true
  | _ => false

/-- No lookup of another host brings an IPv4 address while a `Resolve` waits for its own, and none
at all brings an address of another family once an answer's family has been checked. -/
def Timely (r : DnsResolver Host Addr) : DnsMove Host Addr → Prop
  | .found lookup (some ip) =>
    (r.isWaiting = true → C.isIpv4 ip = true → ∀ host ∈ r.lookups[lookup]?, host = r.call.host) ∧
      (r.caller = .storeAnswer → C.isIpv4 ip = true)
  | _ => True

variable {C} {r r' : DnsResolver Host Addr}

/-- An IPv4 address in the resolver's fields is one lwIP gave for the host. -/
def Trusted (C : DnsConfig Addr) (r : DnsResolver Host Addr) : Prop :=
  C.isIpv4 r.resolvedIp = true → (r.call.host, r.resolvedIp) ∈ r.given

/-- What a `Resolve` that has published or failed leaves. -/
def Settled (C : DnsConfig Addr) (r : DnsResolver Host Addr) : Prop :=
  (r.call.resolved = true → (r.call.host, r.call.destination.ip) ∈ r.given ∧
    C.isIpv4 r.call.destination.ip = true ∧ r.call.destination.port = r.call.port) ∧
  (r.call.resolved = false → r.call.destination = r.call.passed)

/-- What holds between any two moves. -/
structure Sound (C : DnsConfig Addr) (r : DnsResolver Host Addr) : Prop where
  waits : r.caller = .clearResolvedOk ∨ r.isWaiting = true →
    r.call.resolved = false ∧ r.call.destination = r.call.passed
  answered : r.isWaiting = true →
    r.resolvedOk = true ∨ r.caller = .publish ∨ r.caller = .storeAnswer → Trusted C r
  checked : r.caller = .storeAnswer → C.isIpv4 r.resolvedIp = true
  settled : r.caller = .reportFamily ∨ r.caller = .returned → Settled C r

theorem sound_initial (ip : Addr) (call : DnsCall Host Addr) : Sound C (initial ip call) :=
  ⟨by simp [initial, isWaiting], by simp [initial, isWaiting], by simp [initial],
    by simp [initial]⟩

theorem settled_of_unresolved (h : r.call.resolved = false ∧ r.call.destination = r.call.passed) :
    Settled C r := by
  refine ⟨?_, fun _ => h.2⟩
  intro hresolved
  rw [h.1] at hresolved
  cases hresolved

theorem settled_storeAnswer (htrusted : Trusted C r) (hipv4 : C.isIpv4 r.resolvedIp = true) :
    Settled C { r with call := storeAnswer r.call r.resolvedIp } :=
  ⟨fun _ => ⟨htrusted hipv4, hipv4, rfl⟩, nofun⟩

theorem settled_publish (h : r.call.resolved = false ∧ r.call.destination = r.call.passed)
    (htrusted : Trusted C r) : Settled C { r with call := publish C r.call r.resolvedIp } := by
  unfold publish
  split
  · next hipv4 => exact settled_storeAnswer htrusted hipv4
  · exact settled_of_unresolved h

/-- The caller's thread goes on waiting. -/
theorem Sound.wait (h : Sound C r) (hwaiting : r.isWaiting = true) {caller : DnsStep}
    (hcaller : caller ≠ .publish ∧ caller ≠ .storeAnswer ∧ caller ≠ .reportFamily ∧
      caller ≠ .returned) :
    Sound C { r with caller := caller } := by
  obtain ⟨hpublish, hstore, hreport, hreturned⟩ := hcaller
  refine ⟨fun _ => h.waits (.inr hwaiting), ?_, fun hsync => absurd hsync hstore, ?_⟩
  · rintro - (hok | hsync | hsync)
    · exact h.answered hwaiting (.inl hok)
    · exact absurd hsync hpublish
    · exact absurd hsync hstore
  · rintro (hreport' | hreturned')
    · exact absurd hreport' hreport
    · exact absurd hreturned' hreturned

/-- A `Resolve` ends with what its call holds. -/
theorem sound_settled (h : Settled C r) (hcaller : r.caller = .reportFamily ∨
    r.caller = .returned) :
    Sound C r := by
  rcases hcaller with hcaller | hcaller
  · exact ⟨by simp [isWaiting, hcaller], by simp [isWaiting, hcaller], by simp [hcaller],
      fun _ => h⟩
  · exact ⟨by simp [isWaiting, hcaller], by simp [isWaiting, hcaller], by simp [hcaller],
      fun _ => h⟩

theorem Sound.goOn (h : Sound C r) (hmoved : r.goOn C = some r') : Sound C r' := by
  unfold DnsResolver.goOn at hmoved
  cases hcaller : r.caller with
  | idle => simp only [hcaller, reduceCtorEq] at hmoved
  | getHostByName => simp only [hcaller, reduceCtorEq] at hmoved
  | returned => simp only [hcaller, reduceCtorEq] at hmoved
  | clearResolvedOk =>
    simp only [hcaller, Option.some.injEq] at hmoved
    subst hmoved
    have hwaits := h.waits (.inl hcaller)
    exact ⟨fun _ => hwaits, by simp, by simp, by simp⟩
  | publish =>
    have hwaiting : r.isWaiting = true := by simp [isWaiting, hcaller]
    have hwaits := h.waits (.inr hwaiting)
    have htrusted := h.answered hwaiting (.inr (.inl hcaller))
    simp only [hcaller] at hmoved
    split at hmoved
    · next hipv4 =>
      cases hmoved
      exact ⟨fun _ => hwaits, fun _ _ => htrusted, fun _ => hipv4, by simp⟩
    · cases hmoved
      have hsettled : Settled C { r with call := refuseFamily r.call } :=
        settled_of_unresolved hwaits
      exact sound_settled hsettled (.inl rfl)
  | storeAnswer =>
    have hwaiting : r.isWaiting = true := by simp [isWaiting, hcaller]
    have htrusted := h.answered hwaiting (.inr (.inr hcaller))
    have hsettled := settled_storeAnswer htrusted (h.checked hcaller)
    simp only [hcaller, Option.some.injEq] at hmoved
    subst hmoved
    exact sound_settled hsettled (.inl rfl)
  | spin elapsedMs =>
    have hwaiting : r.isWaiting = true := by simp [isWaiting, hcaller]
    simp only [hcaller] at hmoved
    split at hmoved
    · cases hmoved
      exact h.wait hwaiting (by simp)
    · cases hmoved
      exact h.wait hwaiting (by simp)
  | reportTimeout =>
    have hwaiting : r.isWaiting = true := by simp [isWaiting, hcaller]
    simp only [hcaller, Option.some.injEq] at hmoved
    subst hmoved
    exact h.wait hwaiting (by simp)
  | returnDone =>
    have hwaiting : r.isWaiting = true := by simp [isWaiting, hcaller]
    simp only [hcaller, Option.some.injEq] at hmoved
    subst hmoved
    by_cases hdone : r.done = true
    · rw [if_pos hdone]
      exact h.wait hwaiting (by simp)
    · rw [if_neg hdone]
      have hsettled : Settled C r := settled_of_unresolved (h.waits (.inr hwaiting))
      exact sound_settled hsettled (.inl rfl)
  | publishResult =>
    have hwaiting : r.isWaiting = true := by simp [isWaiting, hcaller]
    simp only [hcaller, Option.some.injEq] at hmoved
    subst hmoved
    unfold doPublishResult
    split
    · next hok =>
      have hsettled := settled_publish (h.waits (.inr hwaiting)) (h.answered hwaiting (.inl hok))
      exact sound_settled hsettled (.inl rfl)
    · have hsettled : Settled C r := settled_of_unresolved (h.waits (.inr hwaiting))
      exact sound_settled hsettled (.inl rfl)
  | reportFamily =>
    have hsettled : Settled C r := h.settled (.inl hcaller)
    simp only [hcaller, Option.some.injEq] at hmoved
    subst hmoved
    exact sound_settled hsettled (.inr rfl)

theorem Sound.lookUp (h : Sound C r) {result : LookupResult Addr}
    (hmoved : r.move C (.lookUp result) = some r') : Sound C r' := by
  unfold DnsResolver.move at hmoved
  dsimp only at hmoved
  split at hmoved
  · next hcaller =>
    have hwaiting : r.isWaiting = true := by simp [isWaiting, hcaller]
    have hwaits := h.waits (.inr hwaiting)
    cases result with
    | ok ip =>
      cases hmoved
      exact ⟨fun _ => hwaits, fun _ _ _ => List.mem_cons_self .., by simp, by simp⟩
    | inProgress =>
      cases hmoved
      refine ⟨fun _ => hwaits, ?_, by simp, by simp⟩
      rintro - (hok | hsync | hsync)
      · exact h.answered hwaiting (.inl hok)
      · cases hsync
      · cases hsync
    | rejected =>
      cases hmoved
      have hsettled : Settled C r := settled_of_unresolved hwaits
      exact sound_settled hsettled (.inl rfl)
  · cases hmoved

/-- More answers of lwIP are of no matter to a `Resolve` that has ended. -/
theorem Settled.given {given : List (Host × Addr)} (h : Settled C r) (hgiven : r.given ⊆ given) :
    Settled C { r with given := given } := by
  refine ⟨fun hresolved => ?_, h.2⟩
  obtain ⟨hmem, hrest⟩ := h.1 hresolved
  exact ⟨hgiven hmem, hrest⟩

theorem Sound.found (h : Sound C r) {lookup : Nat} {ip : Option Addr}
    (htimely : Timely C r (.found lookup ip)) (hmoved : r.move C (.found lookup ip) = some r') :
    Sound C r' := by
  unfold DnsResolver.move at hmoved
  dsimp only at hmoved
  split at hmoved
  · next host hlookup =>
    cases ip with
    | none =>
      cases hmoved
      exact ⟨h.waits, h.answered, h.checked, h.settled⟩
    | some ip =>
      cases hmoved
      refine ⟨h.waits, ?_, htimely.2, ?_⟩
      · intro hwaiting _ hipv4
        have hhost : host = r.call.host := htimely.1 hwaiting hipv4 host hlookup
        change (r.call.host, ip) ∈ (host, ip) :: r.given
        rw [hhost]
        exact List.mem_cons_self ..
      · intro hended
        exact (h.settled hended).given (List.subset_cons_self ..)
  · cases hmoved

theorem Sound.resolve {host : Host} {port : UInt16} {destination : Address Addr}
    (hmoved : r.move C (.resolve host port destination) = some r') : Sound C r' := by
  unfold DnsResolver.move at hmoved
  dsimp only at hmoved
  split at hmoved
  · cases hmoved
    exact ⟨fun _ => ⟨rfl, rfl⟩, by simp [isWaiting], by simp, by simp⟩
  · cases hmoved

theorem Sound.move {move : DnsMove Host Addr} (h : Sound C r) (htimely : Timely C r move)
    (hmoved : r.move C move = some r') : Sound C r' := by
  cases move with
  | resolve host port destination => exact Sound.resolve hmoved
  | lookUp result => exact h.lookUp hmoved
  | goOn => exact h.goOn hmoved
  | found lookup ip => exact h.found htimely hmoved

theorem Sound.answersHost (h : Sound C r) : AnswersHost C r :=
  ⟨fun hreturned => (h.settled (.inr hreturned)).1, fun hreturned => (h.settled (.inr hreturned)).2⟩

/-- Where no lookup of another host brings an IPv4 address while a `Resolve` waits for its own, and
none an address of another family between the check of an answer and its copy, every `Resolve`
answers the host it was asked. -/
theorem resolve_answers_host {ip : Addr} {call : DnsCall Host Addr}
    (h : Reached (move C) (Timely C) (initial ip call) r) : AnswersHost C r :=
  (h.invariant (sound_initial ip call) Sound.move).answersHost

/-! ## Runs -/

instance [DecidableEq Host] (r : DnsResolver Host Addr) (move : DnsMove Host Addr) :
    Decidable (Timely C r move) :=
  match move with
  | .found lookup (some ip) =>
    inferInstanceAs (Decidable ((r.isWaiting = true → C.isIpv4 ip = true →
      ∀ host ∈ r.lookups[lookup]?, host = r.call.host) ∧
      (r.caller = .storeAnswer → C.isIpv4 ip = true)))
  | .found _ none | .resolve .. | .lookUp _ | .goOn => .isTrue trivial

/-- Every number is an IPv4 address; one poll is the whole wait. -/
def onePoll : DnsConfig Nat :=
  ⟨fun _ => true, 10, 10⟩

/-- A resolver of numbers for numbers that has not been asked yet. -/
def idleResolver : DnsResolver Nat Nat :=
  initial 0 ⟨0, ⟨0, 0⟩, 0, false, false, ⟨0, 0⟩⟩

/-- Host 1 is looked up and the wait times out; then host 1 is asked again and the first lookup is
answered. The third time it is answered at once, and the second lookup is answered between the check
of that answer and its copy. -/
def retried : List (DnsMove Nat Nat) :=
  [.resolve 1 514 ⟨0, 0⟩, .goOn, .lookUp .inProgress, .goOn, .goOn, .goOn, .goOn, .goOn,
    .resolve 1 514 ⟨0, 0⟩, .goOn, .lookUp .inProgress, .found 0 (some 71), .goOn, .goOn, .goOn,
    .goOn, .goOn,
    .resolve 1 514 ⟨71, 514⟩, .goOn, .lookUp (.ok 72), .goOn, .found 0 (some 73), .goOn, .goOn]

theorem retried_answers_host : ∃ r, runMoves (move onePoll) (Timely onePoll) idleResolver retried =
    some r ∧ r.caller = .returned ∧ r.call.resolved = true ∧ r.call.destination = ⟨73, 514⟩ ∧
    AnswersHost onePoll r := by
  have hrun : ∃ r, runMoves (move onePoll) (Timely onePoll) idleResolver retried = some r ∧
      r.caller = .returned ∧ r.call.resolved = true ∧ r.call.destination = ⟨73, 514⟩ :=
    ⟨_, rfl, rfl, rfl, rfl⟩
  obtain ⟨r, hr, hreturned, hresolved, hdestination⟩ := hrun
  exact ⟨r, hr, hreturned, hresolved, hdestination, resolve_answers_host (Reached.of_runMoves hr)⟩

/-- Host 1 is looked up and the wait times out; then host 2 is asked, and the lookup of host 1 is
answered while it waits. -/
def overtaken : List (DnsMove Nat Nat) :=
  [.resolve 1 514 ⟨0, 0⟩, .goOn, .lookUp .inProgress, .goOn, .goOn, .goOn, .goOn, .goOn,
    .resolve 2 514 ⟨0, 0⟩, .goOn, .lookUp .inProgress, .found 0 (some 71), .goOn, .goOn, .goOn,
    .goOn, .goOn]

/-- The address of host 1 is published for host 2. -/
theorem late_answer_for_another_host :
    ¬ ∀ r, Reached (move onePoll) anyMove idleResolver r → AnswersHost onePoll r := by
  intro hall
  have hrun : ∃ r, runMoves (move onePoll) anyMove idleResolver overtaken = some r ∧
      r.caller = .returned ∧ r.call.resolved = true ∧
      (r.call.host, r.call.destination.ip) ∉ r.given :=
    ⟨_, rfl, rfl, rfl, by decide⟩
  obtain ⟨r, hr, hreturned, hresolved, hnever⟩ := hrun
  exact hnever ((hall r (Reached.of_runMoves hr)).published hreturned hresolved).1

end DnsResolver

end SolidSyslog.LwipRaw
