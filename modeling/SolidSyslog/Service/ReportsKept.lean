import SolidSyslog.Service.Reporting
import SolidSyslog.Lib.Run

/-!
# An event report is never lost

What the account of events and reports says of each kind, for every state of every run: its last
event waits in the slot of the kind or is in a report, and every report made was kept by the store
or accepted by the sender, or is the one in the slot.
-/

namespace SolidSyslog.Service

open Lib

variable {ε ρ : Type} {S : Surroundings ε ρ} {s s' : State (ε × List Happening) ρ}

/-! ## The log of a kind -/

/-- The event something happened to. -/
def Happening.event : Happening → ErrorEvent
  | .raised event => event
  | .taken event => event

/-- Whether something happened to an event of a kind. -/
def Happening.isOf (index : Fin PendingEvents.kindCount) (h : Happening) : Bool :=
  PendingEvents.indexOf h.event.category = some index

/-- Whether an event is of a kind. -/
def isOfKind (index : Fin PendingEvents.kindCount) (event : ErrorEvent) : Bool :=
  PendingEvents.indexOf event.category = some index

/-- What happens to other kinds changes nothing. -/
theorem waiting_append {index : Fin PendingEvents.kindCount} {before after : List Happening}
    (hother : ∀ h ∈ after, h.isOf index = false) :
    waiting index (before ++ after) = waiting index before := by
  induction after generalizing before with
  | nil => rw [List.append_nil]
  | cons h rest ih =>
    rw [← List.singleton_append, ← List.append_assoc, ih fun h' hmem =>
      hother h' (List.mem_cons_of_mem _ hmem), waiting_concat]
    have hfirst := hother h List.mem_cons_self
    cases h with
    | raised event => exact if_neg (of_decide_eq_false hfirst)
    | taken event => exact if_neg (of_decide_eq_false hfirst)

/-- The last event raised of a kind waits, or was taken after it was raised. -/
theorem waiting_or_taken {index : Fin PendingEvents.kindCount} {before after : List Happening}
    {event : ErrorEvent} (h : Always TakesWaiting (before ++ .raised event :: after))
    (hindex : PendingEvents.indexOf event.category = some index)
    (hlast : ∀ later, Happening.raised later ∈ after → later.category ≠ event.category) :
    waiting index (before ++ .raised event :: after) = some event ∨
      ∃ middle rest, after = middle ++ .taken event :: rest := by
  have hraised : waiting index (before ++ [.raised event]) = some event := by
    rw [waiting_concat]
    exact if_pos hindex
  rw [← List.singleton_append, ← List.append_assoc]
  cases hfind : after.find? (Happening.isOf index) with
  | none =>
    left
    rw [List.find?_eq_none] at hfind
    rw [waiting_append (fun h hmem => by simpa using hfind h hmem), hraised]
  | some first =>
    right
    obtain ⟨hfirst, middle, rest, rfl, hmiddle⟩ := List.find?_eq_some_iff_append.1 hfind
    have hkind : PendingEvents.indexOf first.event.category = some index := by
      simpa [Happening.isOf] using hfirst
    cases first with
    | raised later =>
      have hcategory : later.category = event.category :=
        (PendingEvents.kindAt_of_indexOf hkind).symm.trans (PendingEvents.kindAt_of_indexOf hindex)
      exact absurd hcategory (hlast later (by simp))
    | taken taken =>
      -- What is taken waits, and what waits is still the event.
      obtain ⟨index', hindex', hwaits⟩ :=
        h (before ++ .raised event :: middle) (.taken taken) rest (by simp)
      obtain rfl : index = index' := Option.some.inj (hkind.symm.trans hindex')
      rw [← List.singleton_append, ← List.append_assoc,
        waiting_append (fun h hmem => by simpa using hmiddle h hmem), hraised] at hwaits
      obtain rfl := Option.some.inj hwaits
      exact ⟨middle, rest, rfl⟩

/-- No more events of a kind are taken than were raised. -/
theorem countP_taken_le {happened : List Happening} (h : Always TakesWaiting happened)
    (index : Fin PendingEvents.kindCount) :
    (takenIn happened).countP (isOfKind index) + (waiting index happened).toList.length ≤
      (raisedIn happened).countP (isOfKind index) := by
  induction happened using List.reverseRecOn with
  | nil => exact Nat.le_refl _
  | append_singleton before last ih =>
    have hbefore : Always TakesWaiting before := fun front entry after heq =>
      h front entry (after ++ [last]) (by simp [heq])
    specialize ih hbefore
    rw [waiting_concat]
    cases last with
    | raised event =>
      have htaken : takenIn (before ++ [.raised event]) = takenIn before := by simp [takenIn]
      have hraised : raisedIn (before ++ [.raised event]) = raisedIn before ++ [event] := by
        simp [raisedIn]
      rw [htaken, hraised, List.countP_append, List.countP_singleton, waitingNext]
      by_cases hkind : PendingEvents.indexOf event.category = some index
      · have : isOfKind index event = true := by simpa [isOfKind] using hkind
        rw [if_pos hkind, if_pos this]
        simp only [Option.toList_some, List.length_singleton]
        omega
      · rw [if_neg hkind]
        omega
    | taken event =>
      have htaken : takenIn (before ++ [.taken event]) = takenIn before ++ [event] := by
        simp [takenIn]
      have hraised : raisedIn (before ++ [.taken event]) = raisedIn before := by simp [raisedIn]
      obtain ⟨index', hindex', hwaits⟩ := h before (.taken event) [] rfl
      rw [htaken, hraised, List.countP_append, List.countP_singleton, waitingNext]
      by_cases hkind : PendingEvents.indexOf event.category = some index
      · obtain rfl : index = index' := Option.some.inj (hkind.symm.trans hindex')
        have : isOfKind index event = true := by simpa [isOfKind] using hkind
        rw [hwaits, Option.toList_some, List.length_singleton] at ih
        rw [if_pos hkind, if_pos this, Option.toList_none, List.length_nil]
        exact ih
      · have : isOfKind index event ≠ true := by simpa [isOfKind] using hkind
        rw [if_neg hkind, if_neg this]
        exact ih

/-! ## Runs -/

/-- The others raise events, and leave the rest of the system as they please. -/
def RaiseEvents (events : List ErrorEvent) (s s' : State (ε × List Happening) ρ) : Prop :=
  ∃ env, s' = { s with
    env := (env, s.env.2 ++ events.map .raised)
    pending := events.foldl PendingEvents.record s.pending }

/-- The logger as created, with no event raised yet. -/
def State.unreported (recordCapacity : Nat) (record : ρ) (env : ε) :
    State (ε × List Happening) ρ :=
  ⟨.initial recordCapacity record, (env, []), PendingEvents.empty, []⟩

theorem unreported_balanced (recordCapacity : Nat) (record : ρ) (env : ε) :
    Balanced (State.unreported recordCapacity record env) :=
  ⟨tableHolds_empty, .nil, rfl, rfl, .nil⟩

theorem step_balanced {op : RunOp (List ErrorEvent)} {status : Option ServiceStatus}
    (h : Balanced s)
    (hstep : RunStep S.parts RaiseEvents s op status s') : Balanced s' := by
  cases hstep with
  | others events hraised =>
    obtain ⟨env, rfl⟩ := hraised
    refine ⟨h.table.foldl_raised events, takesWaiting_map_raised h.taken events, ?_, h.held,
      h.leaves⟩
    rw [takenIn_append, takenIn_raised, List.append_nil]
    exact h.made
  | pass _ fuel => exact service_balanced h fuel

/-- An event report is never lost. In every run: the last event raised of a reported kind waits in
its slot, or was taken after it was raised and its report is among those made; the reports made are
those kept by the store or accepted by the sender and the one that is held; the held one is in the
slot, and nothing but being kept or accepted takes it from there; and no kind has more reports kept
or accepted than it was raised. -/
theorem report_never_lost {recordCapacity : Nat} {record : ρ} {env : ε}
    {ops : List (RunOp (List ErrorEvent))}
    {statuses : List (Option ServiceStatus)}
    (hrun : Run (RunStep S.parts RaiseEvents) (State.unreported recordCapacity record env)
      ops statuses s) :
    (∀ before event after index, s.env.2 = before ++ .raised event :: after →
      PendingEvents.indexOf event.category = some index →
      (∀ later, Happening.raised later ∈ after → later.category ≠ event.category) →
      (PendingEvents.isPending s.pending index = true ∧
        (PendingEvents.take s.pending index).2.1 = event) ∨
      ∃ middle rest report, after = middle ++ .taken event :: rest ∧
        ((ledgerOf s.trace).done ++ (ledgerOf s.trace).held.toList)[
          (takenIn (before ++ .raised event :: middle)).length]? = some (event, report)) ∧
    (ledgerOf s.trace).held.map Prod.snd =
      (if s.logger.holdsRecord && s.logger.heldRecordIsReport then some s.logger.record else none) ∧
    Always LeavesReport s.trace ∧
    (∀ index, ((ledgerOf s.trace).done.map Prod.fst).countP (isOfKind index) ≤
      (raisedIn s.env.2).countP (isOfKind index)) := by
  have h : Balanced s := by
    apply hrun.invariant (D := fun _ => True) (fun _ _ => trivial) (unreported_balanced ..)
    exact fun _ => step_balanced
  refine ⟨?_, h.held, h.leaves, ?_⟩
  · intro before event after index hlog hindex hlast
    have htaken := h.taken
    rw [hlog] at htaken
    rcases waiting_or_taken htaken hindex hlast with hwaits | ⟨middle, rest, rfl⟩
    · left
      rw [← hlog, h.table index] at hwaits
      split at hwaits
      · exact ⟨by assumption, Option.some.inj hwaits⟩
      · cases hwaits
    · right
      have hmade := h.made
      rw [hlog] at hmade
      have hnumber : (takenIn (before ++ .raised event :: (middle ++ .taken event :: rest)))[
          (takenIn (before ++ .raised event :: middle)).length]? = some event := by
        have hsplit : before ++ .raised event :: (middle ++ .taken event :: rest) =
            (before ++ .raised event :: middle) ++ .taken event :: rest := by simp
        rw [hsplit, takenIn_append, List.getElem?_append_right (Nat.le_refl _), Nat.sub_self]
        rfl
      rw [hmade, List.getElem?_map, Option.map_eq_some_iff] at hnumber
      obtain ⟨⟨event', report⟩, hreport, rfl⟩ := hnumber
      exact ⟨middle, rest, report, rfl, hreport⟩
  · intro index
    have hcount := countP_taken_le h.taken index
    rw [h.made, Ledger.made, List.map_append, List.countP_append] at hcount
    omega

/-- Surroundings with an empty buffer, a store that keeps what it is given, and reporting on. -/
def keepingSurroundings : Surroundings Unit Nat where
  answer
    | .bufferRead _, env, _ => (none, env, [])
    | .bufferIsFull, env, _ => (false, env, [])
    | .storeWrite _, env, _ => (.kept, env, [])
    | .storeReadNextUnsent _, env, _ => (none, env, [])
    | .storeMarkSent, env, _ => ((), env, [])
    | .storeHasUnsent, env, _ => (true, env, [])
    | .storeIsTransient, env, _ => (false, env, [])
    | .senderSend _, env, _ => (false, env, [])
    | .getDiscardPolicy, env, _ => (.oldest, env, [])
    | .isEventReportingOn, env, _ => (true, env, [])
    | .onHalt, env, _ => ((), env, [])
    | .errorHandler _, env, _ => ((), env, [])
    | .formatReport _ event, env, _ => (event.detail.toNat, env, [])

/-- A logger over them after one event was raised. -/
def raisedOne : State (Unit × List Happening) Nat :=
  let event : ErrorEvent := ⟨.error, .fileIoFailed, false, "File", 7, 0⟩
  { State.unreported 16 0 () with
    env := ((), [.raised event])
    pending := PendingEvents.record PendingEvents.empty event }

theorem report_never_lost_kept :
    (ledgerOf (service keepingSurroundings.parts 1 raisedOne).2.trace).done.map Prod.snd = [7] ∧
    Always LeavesReport (service keepingSurroundings.parts 1 raisedOne).2.trace := by
  have hrun : Run (RunStep keepingSurroundings.parts RaiseEvents) (State.unreported 16 0 ())
      [.others [⟨.error, .fileIoFailed, false, "File", 7, 0⟩], .pass 1]
      [none, (service keepingSurroundings.parts 1 raisedOne).1]
      (service keepingSurroundings.parts 1 raisedOne).2 :=
    .cons (.others _ ⟨(), rfl⟩) (.cons (.pass raisedOne 1) (.nil _))
  exact ⟨by decide +kernel, (report_never_lost hrun).2.2.1⟩

end SolidSyslog.Service
