import SolidSyslog.Sender.SwitchingSender
import SolidSyslog.Sender.Framing
import SolidSyslog.Sender.UdpDelivery

/-!
# Switching keeps one connection and every frame

Each sender behind the switch is called as it could be called on its own, so what holds of its own
runs holds behind the switch. Only the current sender may be connected, and what a sender delivered
is what the switch's `Send` answered true for through it.
-/

namespace SolidSyslog.Sender

open Lib Lib.OctetCounting

variable {ι σ ω : Type}

/-! ## What a sender is known to keep -/

/-- A reading of the senders' states: which have no connection, and which show a list of records and
what their sends answered. -/
structure Account (V : Vtable σ ω) (Admits : Bytes → Prop) where
  Idle : σ → Prop
  Shows : σ → List (Bytes × Bool) → Prop
  idle_disconnect : ∀ s, Idle (V.disconnect s)
  shows_disconnect : ∀ {s handed}, Shows s handed → Shows (V.disconnect s) handed
  shows_send : ∀ {s handed record answers}, Admits record → Shows s handed →
    Shows (V.send s record answers).2 (handed ++ [(record, (V.send s record answers).1)])

/-- Two kinds of sender behind one vtable. -/
def Vtable.sum {τ ψ : Type} (V : Vtable σ ω) (W : Vtable τ ψ) : Vtable (σ ⊕ τ) (ω × ψ) where
  send
    | .inl s, record, answers => Prod.map id .inl (V.send s record answers.1)
    | .inr t, record, answers => Prod.map id .inr (W.send t record answers.2)
  disconnect := Sum.map V.disconnect W.disconnect

def Account.sum {τ ψ : Type} {V : Vtable σ ω} {W : Vtable τ ψ} {Admits Admits' : Bytes → Prop}
    (A : Account V Admits) (B : Account W Admits') :
    Account (V.sum W) (fun record => Admits record ∧ Admits' record) where
  Idle := Sum.elim A.Idle B.Idle
  Shows := Sum.elim A.Shows B.Shows
  idle_disconnect s := by
    cases s with
    | inl s => exact A.idle_disconnect s
    | inr t => exact B.idle_disconnect t
  shows_disconnect {s _} h := by
    cases s with
    | inl s => exact A.shows_disconnect h
    | inr t => exact B.shows_disconnect h
  shows_send {s _ _ _} hadmits h := by
    cases s with
    | inl s => exact A.shows_send hadmits.1 h
    | inr t => exact B.shows_send hadmits.2 h

/-- The records whose sends answered true. -/
def accepted (handed : List (Bytes × Bool)) : List Bytes :=
  (handed.filter (·.2)).map Prod.fst

theorem accepted_concat (handed : List (Bytes × Bool)) (record : Bytes) (ok : Bool) :
    accepted (handed ++ [(record, ok)]) = accepted handed ++ if ok then [record] else [] := by
  cases ok <;> simp [accepted]

namespace SwitchingSender

/-- The sender a selector names. -/
def selection : SwitchEvent ι → Option (Option ι)
  | .selected sender _ => some sender
  | _ => none

/-- The sender that the selector named last. -/
def selectedLast (t : List (SwitchEvent ι)) : Option ι :=
  (t.filterMap selection).getLast?.join

/-- A record goes through the sender the selector named last, and the null sender takes it. -/
def GoesWhereSelected (before : List (SwitchEvent ι)) : SwitchEvent ι → Prop
  | .sent sender _ ok => sender = selectedLast before ∧ (sender = none → ok = true)
  | _ => True

theorem selectedLast_selected (t : List (SwitchEvent ι)) (sender : Option ι) (inRange : Bool) :
    selectedLast (t ++ [.selected sender inRange]) = sender := by
  simp [selectedLast, selection]

theorem selectedLast_concat {t : List (SwitchEvent ι)} {event : SwitchEvent ι}
    (h : selection event = none) : selectedLast (t ++ [event]) = selectedLast t := by
  simp [selectedLast, h]

def isSend : SwitchEvent ι → Bool
  | .sent _ _ _ => true
  | _ => false

theorem goesWhereSelected_of_not_send {before : List (SwitchEvent ι)} {event : SwitchEvent ι}
    (h : isSend event = false) : GoesWhereSelected before event := by
  cases event with
  | sent sender record ok => cases h
  | _ => trivial

variable [DecidableEq ι] {V : Vtable σ ω} {Admits : Bytes → Prop} {s s' : SwitchingSender ι σ}
  {A : Account V Admits} {senders : List (Option ι)} {start : ι → σ}

/-- The records are ones the senders are made for. -/
def AdmitsMove (Admits : Bytes → Prop) (_ : SwitchingSender ι σ) : Move ι ω → Prop
  | .send record _ _ => Admits record
  | _ => True

theorem handedTo_append (t more : List (SwitchEvent ι)) (i : ι) :
    handedTo (t ++ more) i = handedTo t i ++ handedTo more i :=
  List.filterMap_append ..

/-- What is no send hands nothing over. -/
theorem handedTo_of_not_send {entries : List (SwitchEvent ι)}
    (h : ∀ event ∈ entries, isSend event = false) (i : ι) : handedTo entries i = [] := by
  refine List.filterMap_eq_nil_iff.2 fun event hevent => ?_
  have hnone := h event hevent
  cases event with
  | sent sender record ok => cases hnone
  | _ => rfl

/-- Each sender was called as its own runs allow, only the current one may be connected, each has
delivered what went through it, and each run of selectors out of range is reported once. -/
structure Routes (A : Account V Admits) (start : ι → σ) (s : SwitchingSender ι σ) : Prop where
  reached : ∀ i, Reached V.call
    (fun _ call => ∀ record answers, call = .send record answers → Admits record)
    (start i) (s.inner i)
  idle : ∀ i, s.currentSender ≠ some i → A.Idle (s.inner i)
  shows : ∀ i, A.Shows (s.inner i) (handedTo s.trace i)
  selected : Always GoesWhereSelected s.trace
  latched : LatchRun false (s.trace.filterMap observation) s.outOfRangeReported

namespace Routes

theorem initial (hidle : ∀ i, A.Idle (start i)) (hshows : ∀ i, A.Shows (start i) []) :
    Routes A start (initial senders start) where
  reached _ := .start
  idle i _ := hidle i
  shows := hshows
  selected := Always.nil
  latched := .nil false

/-- Entries none of which is a send. -/
theorem extend (h : Routes A start s) (entries : List (SwitchEvent ι)) {reported : Bool}
    (hentries : ∀ event ∈ entries, isSend event = false)
    (hlatched : LatchRun s.outOfRangeReported (entries.filterMap observation) reported) :
    Routes A start { s with trace := s.trace ++ entries, outOfRangeReported := reported } where
  reached := h.reached
  idle := h.idle
  shows i := by
    rw [handedTo_append, handedTo_of_not_send hentries, List.append_nil]
    exact h.shows i
  selected := by
    have hextends : Extends (fun event => isSend event = false) s.trace (s.trace ++ entries) :=
      ⟨entries, rfl, hentries⟩
    exact hextends.always h.selected fun _ _ _ hevent => goesWhereSelected_of_not_send hevent
  latched := by
    rw [List.filterMap_append]
    exact h.latched.append hlatched

theorem requestedSender (h : Routes A start s) (index : UInt8) :
    Routes A start (s.requestedSender index).2 ∧
      (s.requestedSender index).2.currentSender = s.currentSender ∧
      selectedLast (s.requestedSender index).2.trace = (s.requestedSender index).1 := by
  unfold SwitchingSender.requestedSender
  split
  · refine ⟨?_, rfl, selectedLast_selected ..⟩
    exact h.extend [.selected (s.senders.getD index.toNat none) true] (by simp [isSend]) (.clear _)
  · have hreported : ((s.emit (.selected none false)).reportOutOfRange) = { s with
        trace := s.trace ++ .selected none false ::
          if s.outOfRangeReported then [] else [.reported selectorOutOfRange]
        outOfRangeReported := true } := by
      unfold reportOutOfRange emit
      cases s.outOfRangeReported <;> simp
    rw [hreported]
    refine ⟨h.extend _ ?_ ?_, rfl, ?_⟩
    · cases s.outOfRangeReported <;> simp [isSend]
    · cases s.outOfRangeReported
      · exact .fault false
      · exact .fault true
    · cases s.outOfRangeReported with
      | false =>
        change selectedLast (s.trace ++ [.selected none false, .reported selectorOutOfRange]) = none
        rw [List.append_cons, selectedLast_concat rfl, selectedLast_selected]
      | true => exact selectedLast_selected ..

theorem disconnectSender (h : Routes A start s) (sender : Option ι) :
    Routes A start (s.disconnectSender V sender) := by
  have hnoted : Routes A start (s.emit (.disconnected sender)) :=
    h.extend [.disconnected sender] (by simp [isSend]) (.nil _)
  cases sender with
  | none => exact hnoted
  | some i =>
    have hother : ∀ j, j ≠ i → (s.disconnectSender V (some i)).inner j = s.inner j :=
      fun j hne => Function.update_of_ne hne ..
    have hsame : (s.disconnectSender V (some i)).inner i = V.disconnect (s.inner i) :=
      Function.update_self ..
    refine ⟨fun j => ?_, fun j hj => ?_, fun j => ?_, hnoted.selected, hnoted.latched⟩
    all_goals rcases eq_or_ne j i with rfl | hne
    · rw [hsame]
      exact (h.reached j).step .disconnect nofun rfl
    · rw [hother j hne]
      exact h.reached j
    · rw [hsame]
      exact A.idle_disconnect _
    · rw [hother j hne]
      exact h.idle j hj
    · rw [hsame]
      exact A.shows_disconnect (hnoted.shows j)
    · rw [hother j hne]
      exact hnoted.shows j

/-- The sender left is disconnected, and no other one was connected. -/
theorem switchTo (h : Routes A start s) (newCurrent : Option ι) :
    Routes A start (s.switchTo V newCurrent) := by
  have hleft := h.disconnectSender s.currentSender
  refine ⟨hleft.reached, fun i hi => ?_, hleft.shows, hleft.selected, hleft.latched⟩
  by_cases hcurrent : s.currentSender = some i
  · have hsame : (s.switchTo V newCurrent).inner i = V.disconnect (s.inner i) := by
      change (s.disconnectSender V s.currentSender).inner i = _
      rw [hcurrent]
      exact Function.update_self ..
    rw [hsame]
    exact A.idle_disconnect _
  · apply hleft.idle i
    rwa [currentSender_disconnectSender]

theorem selectSender (h : Routes A start s) (index : UInt8) :
    Routes A start (s.selectSender V index) ∧
      selectedLast (s.selectSender V index).trace = (s.selectSender V index).currentSender := by
  obtain ⟨hrequested, hcurrent, hlast⟩ := h.requestedSender index
  unfold SwitchingSender.selectSender
  dsimp only
  split
  · refine ⟨hrequested.switchTo _, ?_⟩
    change selectedLast (SwitchingSender.disconnectSender V _ _).trace = _
    rw [trace_disconnectSender, selectedLast_concat rfl]
    exact hlast
  · next hsame =>
    refine ⟨hrequested, hlast.trans ?_⟩
    simpa [senderChanged] using hsame

/-- A record goes through the current sender. -/
theorem sendThrough (h : Routes A start s) (hlast : selectedLast s.trace = s.currentSender)
    {record : Bytes} (hadmits : Admits record) (answers : ω) :
    Routes A start (s.sendThrough V s.currentSender record answers).2 := by
  cases hcurrent : s.currentSender with
  | none =>
    rw [hcurrent] at hlast
    have hafter : (s.sendThrough V none record answers).2 = s.emit (.sent none record true) := rfl
    rw [hafter]
    refine ⟨h.reached, h.idle, fun i => ?_, h.selected.concat ⟨hlast.symm, fun _ => rfl⟩, ?_⟩
    · change A.Shows (s.inner i) (handedTo (s.trace ++ [SwitchEvent.sent none record true]) i)
      have hnone : handedTo [SwitchEvent.sent none record true] i = [] := rfl
      rw [handedTo_append, hnone, List.append_nil]
      exact h.shows i
    · change LatchRun false ((s.trace ++ [SwitchEvent.sent none record true]).filterMap observation)
        _
      rw [List.filterMap_append]
      exact h.latched.append (.nil _)
  | some i =>
    rw [hcurrent] at hlast
    have hother : ∀ j, j ≠ i →
        (s.sendThrough V (some i) record answers).2.inner j = s.inner j :=
      fun j hne => Function.update_of_ne hne ..
    have hsame : (s.sendThrough V (some i) record answers).2.inner i =
        (V.send (s.inner i) record answers).2 := Function.update_self ..
    have htrace : (s.sendThrough V (some i) record answers).2.trace =
        s.trace ++ [.sent (some i) record (V.send (s.inner i) record answers).1] := rfl
    refine ⟨fun j => ?_, fun j hj => ?_, fun j => ?_, ?_, ?_⟩
    · rcases eq_or_ne j i with rfl | hne
      · rw [hsame]
        refine (h.reached j).step (.send record answers) ?_ rfl
        rintro _ _ ⟨⟩
        exact hadmits
      · rw [hother j hne]
        exact h.reached j
    · rcases eq_or_ne j i with rfl | hne
      · exact absurd hcurrent hj
      · rw [hother j hne]
        exact h.idle j hj
    · rw [htrace, handedTo_append]
      rcases eq_or_ne j i with rfl | hne
      · have hone : handedTo
          [SwitchEvent.sent (some j) record (V.send (s.inner j) record answers).1] j =
            [(record, (V.send (s.inner j) record answers).1)] := by simp [handedTo]
        rw [hsame, hone]
        exact A.shows_send hadmits (h.shows j)
      · have hnone : handedTo
          [SwitchEvent.sent (some i) record (V.send (s.inner i) record answers).1] j =
            [] := by simp [handedTo, hne.symm]
        rw [hother j hne, hnone, List.append_nil]
        exact h.shows j
    · rw [htrace]
      exact h.selected.concat ⟨hlast.symm, nofun⟩
    · rw [htrace, List.filterMap_append]
      exact h.latched.append (.nil _)

theorem move {move : Move ι ω} (h : Routes A start s) (hadmits : AdmitsMove Admits s move)
    (hmoved : s.move V move = some s') : Routes A start s' := by
  cases move with
  | send record index answers =>
    obtain ⟨hselected, hlast⟩ := h.selectSender index
    cases hmoved
    exact hselected.sendThrough hlast hadmits answers
  | disconnect =>
    cases hmoved
    exact h.disconnectSender _
  | rewire senders =>
    have hrewired : (if senders.length = s.senders.length then some { s with senders := senders }
        else none) = some s' := hmoved
    split at hrewired
    · cases hrewired
      exact ⟨h.reached, h.idle, h.shows, h.selected, h.latched⟩
    · cases hrewired

end Routes

end SwitchingSender

/-! ## Streams -/

namespace Wire

/-- The records delivered on any connection. -/
def delivered (w : Wire) : List Bytes :=
  w.connections.flatMap Connection.delivered

theorem delivered_of_connection {w w' : Wire} (hended : w'.ended = w.ended)
    (hconnection : w'.connection.map Connection.delivered = w.connection.map Connection.delivered) :
    w'.delivered = w.delivered := by
  have hlast : w'.connection.toList.flatMap Connection.delivered =
      w.connection.toList.flatMap Connection.delivered := by
    cases h : w.connection <;> cases h' : w'.connection <;> simp_all
  rw [delivered, connections, List.flatMap_append, hended, hlast, ← List.flatMap_append]
  rfl

/-- An entry between the start and the end of a `Send`. -/
def IsInside : StreamEvent → Prop
  | .called _ => False
  | .returned _ => False
  | _ => True

/-- Only a `Send` that returns true delivers. -/
theorem delivered_observe (w : Wire) {event : StreamEvent} (h : event ≠ .returned true) :
    (w.observe event).delivered = w.delivered := by
  rcases event with _ | _ | ok | ⟨asked, put, ok⟩ | _ | ok
  · rfl
  · rfl
  · cases ok with
    | true =>
      change (w.connections ++ [_]).flatMap Connection.delivered = _
      rw [List.flatMap_append, List.flatMap_singleton, List.append_nil]
      rfl
    | false => rfl
  · cases ok with
    | true => exact delivered_of_connection rfl (by simp [observe, Function.comp_def])
    | false => exact delivered_of_connection rfl (by simp [observe, Function.comp_def])
  · exact delivered_of_connection rfl (by simp [observe, Function.comp_def])
  · cases ok with
    | true => exact absurd rfl h
    | false => rfl

theorem record_observe (w : Wire) {event : StreamEvent} (h : IsInside event) :
    (w.observe event).record = w.record := by
  rcases event with _ | _ | ok | ⟨asked, put, ok⟩ | _ | ok
  · cases h
  · rfl
  · cases ok <;> rfl
  · cases ok <;> rfl
  · rfl
  · cases h

theorem of_extends {t t' : List StreamEvent} (h : Extends IsInside t t') :
    (of t').delivered = (of t).delivered ∧ (of t').record = (of t).record := by
  obtain ⟨new, rfl, hnew⟩ := h
  induction new using List.reverseRecOn with
  | nil => rw [List.append_nil]; exact ⟨rfl, rfl⟩
  | append_singleton new event ih =>
    have hevent : IsInside event := hnew event (by simp)
    obtain ⟨hdelivered, hrecord⟩ := ih fun e he => hnew e (List.mem_append_left _ he)
    rw [← List.append_assoc, of_concat, record_observe _ hevent, delivered_observe]
    · exact ⟨hdelivered, hrecord⟩
    · rintro rfl
      cases hevent

end Wire

namespace StreamSender

variable {s : StreamSender} {record : Bytes} {answers : SendAnswers}

theorem inside_disconnect (s : StreamSender) :
    Extends Wire.IsInside s.trace s.disconnect.trace := by
  unfold StreamSender.disconnect
  split
  · exact (Extends.refl _).concat trivial
  · exact .refl _

theorem inside_reconcile (s : StreamSender) (answers : SendAnswers) :
    Extends Wire.IsInside s.trace (s.reconcile answers).2.trace := by
  have hpolled : Extends Wire.IsInside s.trace
      (s.emit (.versions answers.endpointVersion answers.streamVersion)).trace :=
    (Extends.refl _).concat trivial
  have hstale : Extends Wire.IsInside s.trace (s.disconnectIfStale answers).trace := by
    unfold StreamSender.disconnectIfStale
    dsimp only
    split
    · exact hpolled.trans (inside_disconnect _)
    · exact hpolled
  unfold StreamSender.reconcile StreamSender.ensureConnected
  split
  · exact hstale
  · unfold StreamSender.connect
    split
    · exact hstale.concat trivial
    · exact hstale

theorem inside_sendBytes (s : StreamSender) (data : Bytes) (fails : Option Nat) :
    Extends Wire.IsInside s.trace (s.sendBytes data fails).2.trace := by
  cases fails with
  | none => exact (Extends.refl _).concat trivial
  | some put => exact ((Extends.refl _).concat trivial).concat trivial

theorem inside_transmitFramed (s : StreamSender) (record : Bytes) (answers : SendAnswers) :
    Extends Wire.IsInside s.trace (s.transmitFramed record answers).2.trace := by
  have hlength := inside_sendBytes s
    (formatOctetCountingPrefix record.length).asFormattedBuffer.bytes answers.lengthFails
  unfold StreamSender.transmitFramed
  dsimp only
  split
  · next s₁ hsent =>
    rw [hsent] at hlength
    exact hlength.trans (inside_sendBytes _ _ _)
  · next s₁ hsent =>
    rw [hsent] at hlength
    exact hlength

/-- All that a `Send` does stands between its start and its end. -/
theorem trace_send (s : StreamSender) (record : Bytes) (answers : SendAnswers) :
    ∃ t, Extends Wire.IsInside (s.trace ++ [.called record]) t ∧
      (s.send record answers).2.trace = t ++ [.returned (s.send record answers).1] := by
  have hhealth : ∀ (s : StreamSender) (delivered : Bool),
      (s.updateDeliveryHealth delivered).trace = s.trace := by
    intro s delivered
    unfold StreamSender.updateDeliveryHealth
    split <;> rfl
  have hready := inside_reconcile (s.emit (.called record)) answers
  unfold StreamSender.send
  dsimp only
  split
  · next s₁ hreconciled =>
    rw [hreconciled] at hready
    refine ⟨(s₁.transmitFramed record answers).2.trace, ?_, ?_⟩
    · exact hready.trans (inside_transmitFramed _ _ _)
    · rw [StreamSender.emit, hhealth]
  · next s₁ hreconciled =>
    rw [hreconciled] at hready
    exact ⟨s₁.trace, hready, by rw [StreamSender.emit, hhealth]⟩

/-- A `Send` that returns true delivers its record, on the connection there is. -/
theorem delivered_send (h : Rest s) (hcounted : record.length < 4294967296) :
    (Wire.of (s.send record answers).2.trace).delivered =
      (Wire.of s.trace).delivered ++ if (s.send record answers).1 then [record] else [] := by
  obtain ⟨t, hinside, htrace⟩ := trace_send s record answers
  obtain ⟨hdelivered, hrecord⟩ := Wire.of_extends hinside
  have hcalled : (Wire.of (s.trace ++ [.called record])).delivered =
    (Wire.of s.trace).delivered := by
    rw [Wire.of_concat]
    rfl
  have hheld : (Wire.of (s.trace ++ [.called record])).record = record := by
    rw [Wire.of_concat]
    rfl
  rw [hcalled] at hdelivered
  rw [hheld] at hrecord
  have hrest : Rest (s.send record answers).2 := h.send hcounted
  have hadmissible := hrest.admissible t (.returned (s.send record answers).1) [] htrace
  rw [htrace, Wire.of_concat]
  cases hok : (s.send record answers).1 with
  | false => simpa [Wire.delivered_observe] using hdelivered
  | true =>
    rw [hok] at hadmissible
    obtain ⟨-, c, hlive, -⟩ := hadmissible
    have hconnection := (live_eq_some.1 hlive).1
    have hsplit : (Wire.of t).delivered =
        (Wire.of t).ended.flatMap Connection.delivered ++ c.delivered := by
      rw [Wire.delivered, Wire.connections, hconnection]
      simp
    rw [← hdelivered, hsplit, Wire.delivered, Wire.connections]
    have hafter : ((Wire.of t).observe (.returned true)).connection =
        some { c with delivered := c.delivered ++ [record] } := by
      change (Wire.of t).connection.map _ = _
      rw [hconnection, hrecord]
      rfl
    rw [hafter]
    simp [Wire.observe]

/-- `StreamSender_Send` and `StreamSender_Disconnect` behind a vtable. -/
def vtable : Vtable StreamSender SendAnswers :=
  ⟨send, disconnect⟩

theorem shows_send {handed : List (Bytes × Bool)} (hcounted : record.length < 4294967296)
    (h : Rest s ∧ (Wire.of s.trace).delivered = accepted handed) :
    Rest (s.send record answers).2 ∧ (Wire.of (s.send record answers).2.trace).delivered =
      accepted (handed ++ [(record, (s.send record answers).1)]) := by
  refine ⟨h.1.send hcounted, ?_⟩
  rw [delivered_send h.1 hcounted, h.2, accepted_concat]

/-- A stream sender delivers, each on one connection, the records its `Send` answers true for. -/
def account : Account vtable (·.length < 4294967296) where
  Idle s := s.connected = false
  Shows s handed := Rest s ∧ (Wire.of s.trace).delivered = accepted handed
  idle_disconnect s := by
    change s.disconnect.connected = false
    unfold disconnect
    split
    · rfl
    · next hnot => simpa using hnot
  shows_disconnect h :=
    ⟨h.1.disconnect.1, (Wire.of_extends (inside_disconnect _)).1.trans h.2⟩
  shows_send := shows_send

end StreamSender

/-! ## Datagrams -/

/-- The datagrams offered of a record: it and then a part of it, and none only if its `Send`
failed. -/
structure OfferedOf (given : Bytes × Bool) (offered : List (Bytes × DatagramResult)) : Prop where
  atMostTwo : offered.length ≤ 2
  parts : ∀ datagram ∈ offered, datagram.1 <+: given.1
  some : given.2 = true → offered ≠ []

/-- The datagrams offered belong to the records handed over, one record after the other. -/
def OffersInOrder (t : List UdpEvent) (handed : List (Bytes × Bool)) : Prop :=
  ∃ groups, List.Forall₂ OfferedOf handed groups ∧
    t.filterMap UdpEvent.transmission = groups.flatten

theorem clip_prefix (record : Bytes) (limit : Nat) : clip record limit <+: record :=
  List.take_prefix _ _

/-- An exchange offers its record and at most a part of it. -/
theorem Exchange.offered {record : Bytes} {reported reported' : Bool} {exchange : List UdpEvent}
    {outcome : DatagramResult} (h : Exchange record reported exchange outcome reported')
    (ok : Bool) :
    OfferedOf (record, ok) (exchange.filterMap UdpEvent.transmission) := by
  have hone : ∀ answer, OfferedOf (record, ok) [(record, answer)] := by
    intro answer
    exact ⟨by simp, by simp, by simp⟩
  obtain ⟨-, h | ⟨known, -, h⟩ | ⟨answer, known, limit, -, -, h⟩ |
      ⟨answer, known, limit, -, -, h⟩⟩ :=
    h.seen
  · rw [h.1]
    exact hone _
  · rw [h.1]
    exact hone _
  · rw [h.1]
    refine ⟨by simp, ?_, by simp⟩
    intro datagram hmem
    rcases List.mem_cons.1 hmem with rfl | hmem
    · exact List.prefix_rfl
    · obtain rfl := List.mem_singleton.1 hmem
      exact clip_prefix record limit
  · rw [h.1]
    exact hone _

namespace UdpSender

variable {s : UdpSender} {record : Bytes} {answers : DatagramAnswers}

/-- `UdpSender_Send` and `UdpSender_Disconnect` behind a vtable. -/
def vtable : Vtable UdpSender DatagramAnswers :=
  ⟨fun s record => s.send (some record), disconnect⟩

theorem offers_disconnect {handed : List (Bytes × Bool)} (h : OffersInOrder s.trace handed) :
    OffersInOrder s.disconnect.trace handed := by
  obtain ⟨groups, hgroups, hoffered⟩ := h
  obtain ⟨⟨quiet, hquiet, htrace⟩, -, -⟩ := still_disconnect s
  refine ⟨groups, hgroups, ?_⟩
  have hnone : quiet.filterMap UdpEvent.transmission = [] :=
    List.filterMap_eq_nil_iff.2 fun e he => (hquiet e he).1
  rw [htrace, List.filterMap_append, hnone, List.append_nil, hoffered]

theorem offers_send {handed : List (Bytes × Bool)} (h : OffersInOrder s.trace handed) :
    OffersInOrder (s.send (some record) answers).2.trace
      (handed ++ [(record, (s.send (some record) answers).1)]) := by
  obtain ⟨groups, hgroups, hoffered⟩ := h
  obtain ⟨quiet, exchange, outcome, hquiet, htrace, hok, -, hexchanged⟩ :=
    s.send_sends record answers
  have hhealth : (healthEntries s.deliveryHealthy outcome).filterMap UdpEvent.transmission = [] :=
    (healthEntries_cases s.deliveryHealthy outcome).1
  refine ⟨groups ++ [exchange.filterMap UdpEvent.transmission], ?_, ?_⟩
  · refine List.rel_append hgroups (.cons ?_ .nil)
    rcases hexchanged with ⟨-, hexchange⟩ | ⟨-, rfl, rfl, -⟩
    · exact hexchange.offered _
    · refine ⟨by simp, by simp, fun htrue => ?_⟩
      rw [hok] at htrue
      cases htrue
  · rw [htrace, List.filterMap_append, List.filterMap_append, hoffered, hhealth,
      filterMap_quiet fun e he => (hquiet e he).1, List.append_nil]
    simp

/-- A datagram sender offers, in order, what it was handed. -/
def account : Account vtable (fun _ => True) where
  Idle s := s.connected = false
  Shows s := OffersInOrder s.trace
  idle_disconnect s := by
    change s.disconnect.connected = false
    unfold disconnect
    split
    · rfl
    · next hnot => simpa using hnot
  shows_disconnect := offers_disconnect
  shows_send _ := offers_send

end UdpSender

/-! ## A switch over streams and datagrams -/

namespace SwitchingSender

variable [DecidableEq ι]

/-- The senders over a stream and over datagrams. -/
abbrev InnerSender :=
  StreamSender ⊕ UdpSender

namespace InnerSender

def vtable : Vtable InnerSender (SendAnswers × DatagramAnswers) :=
  StreamSender.vtable.sum UdpSender.vtable

def account : Account vtable (fun record => record.length < 4294967296 ∧ True) :=
  StreamSender.account.sum UdpSender.account

def connected (inner : InnerSender) : Bool :=
  Sum.elim (·.connected) (·.connected) inner

/-- An inner sender as its `Create` leaves it. -/
def IsInitial (inner : InnerSender) : Prop :=
  inner = .inl .initial ∨ inner = .inr .initial

theorem IsInitial.idle {inner : InnerSender} (h : IsInitial inner) : account.Idle inner := by
  rcases h with rfl | rfl
  · exact rfl
  · exact rfl

theorem IsInitial.shows {inner : InnerSender} (h : IsInitial inner) : account.Shows inner [] := by
  rcases h with rfl | rfl
  · exact ⟨.initial, rfl⟩
  · exact ⟨[], .nil, rfl⟩

end InnerSender

/-- The records are short enough for their length to be counted. -/
def CountedMove : SwitchingSender ι InnerSender → Move ι (SendAnswers × DatagramAnswers) → Prop :=
  AdmitsMove (·.length < 4294967296)

variable {s : SwitchingSender ι InnerSender} {senders : List (Option ι)} {start : ι → InnerSender}

theorem routes_of_reached (hstart : ∀ i, (start i).IsInitial)
    (h : Reached (move InnerSender.vtable) CountedMove (initial senders start) s) :
    Routes InnerSender.account start s := by
  refine h.invariant (.initial (fun i => (hstart i).idle) fun i => (hstart i).shows) ?_
  intro s₁ move s₂ hroutes hcounted hmoved
  refine hroutes.move ?_ hmoved
  cases move with
  | send record index answers => exact ⟨hcounted, trivial⟩
  | disconnect => exact trivial
  | rewire senders => exact trivial

/-- Over any run of a switch no sender but the current one is connected; each stream sender sends
counted frames and has delivered, in order, the records whose `Send` through it answered true; each
datagram sender has offered, in order, what it was handed; every record goes through the sender
selected last; and each run of selectors out of range is reported once. -/
theorem switches_between_senders (hstart : ∀ i, (start i).IsInitial)
    (h : Reached (move InnerSender.vtable) CountedMove (initial senders start) s) :
    (∀ i, s.currentSender ≠ some i → (s.inner i).connected = false) ∧
      (∀ i stream, s.inner i = .inl stream → OctetCounted stream ∧
        (Wire.of stream.trace).delivered = accepted (handedTo s.trace i)) ∧
      (∀ i udp, s.inner i = .inr udp → OffersInOrder udp.trace (handedTo s.trace i)) ∧
      Always GoesWhereSelected s.trace ∧
      RunsReported false (s.trace.filterMap observation) := by
  have hroutes := routes_of_reached hstart h
  refine ⟨fun i hi => ?_, fun i stream hstream => ?_, fun i udp hudp => ?_, hroutes.selected,
    hroutes.latched.reported⟩
  · have hidle := hroutes.idle i hi
    cases hinner : s.inner i with
    | inl stream =>
      rw [hinner] at hidle
      exact hidle
    | inr udp =>
      rw [hinner] at hidle
      exact hidle
  · have hshows := hroutes.shows i
    rw [hstream] at hshows
    exact ⟨hshows.1.octetCounted, hshows.2⟩
  · have hshows := hroutes.shows i
    rw [hudp] at hshows
    exact hshows

/-! ## Runs -/

instance (s : SwitchingSender ι InnerSender) (move : Move ι (SendAnswers × DatagramAnswers)) :
    Decidable (CountedMove s move) :=
  match move with
  | .send record _ _ => inferInstanceAs (Decidable (record.length < 4294967296))
  | .disconnect => .isTrue trivial
  | .rewire _ => .isTrue trivial

/-- Everything behind the senders does as it is asked. -/
def allAnswered : SendAnswers × DatagramAnswers :=
  (StreamSender.allWell, ⟨1, true, true, .sent, 0, 0, .sent⟩)

/-- A stream sender takes a record, a datagram sender the next; a selector twice out of range drops
two, and the stream sender takes one more on a new connection. -/
def switched : List (Move Bool (SendAnswers × DatagramAnswers)) :=
  [.send [104, 105] 0 allAnswered, .send [98, 121, 101] 1 allAnswered, .send [111] 9 allAnswered,
    .send [112] 9 allAnswered, .send [113] 0 allAnswered]

/-- A stream sender in the first place, and a datagram sender in the second. -/
def bothSenders (i : Bool) : InnerSender :=
  if i then .inr .initial else .inl .initial

theorem switched_between_both : ∃ s,
    runMoves (move InnerSender.vtable) CountedMove (initial [some false, some true] bothSenders)
        switched = some s ∧
      accepted (handedTo s.trace false) = [[104, 105], [113]] ∧
      accepted (handedTo s.trace true) = [[98, 121, 101]] ∧
      s.trace.filterMap observation = [.clear, .clear, .fault, .report, .fault, .clear] ∧
      (s.inner true).connected = false := by
  have hrun : ∃ s, runMoves (move InnerSender.vtable) CountedMove
      (initial [some false, some true] bothSenders) switched = some s ∧
        s.currentSender = some false ∧ accepted (handedTo s.trace false) = [[104, 105], [113]] ∧
        accepted (handedTo s.trace true) = [[98, 121, 101]] ∧
        s.trace.filterMap observation = [.clear, .clear, .fault, .report, .fault, .clear] :=
    ⟨_, rfl, by decide +kernel, by decide +kernel, by decide +kernel, by decide +kernel⟩
  obtain ⟨s, hs, hcurrent, hstream, hudp, hseen⟩ := hrun
  have hinitial : ∀ i, (bothSenders i).IsInitial := by
    intro i
    cases i
    · exact .inl rfl
    · exact .inr rfl
  obtain ⟨hconnected, -⟩ := switches_between_senders hinitial (Reached.of_runMoves hs)
  refine ⟨s, hs, hstream, hudp, hseen, hconnected true ?_⟩
  rw [hcurrent]
  decide

end SwitchingSender

end SolidSyslog.Sender
