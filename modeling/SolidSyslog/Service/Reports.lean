import SolidSyslog.Service.Rules
import SolidSyslog.Lib.Trace

/-!
# Events and their reports

An event that is raised waits in the slot of its kind, a later one of the kind in its place, until a
pass takes it into a report. `Happening` is what happens to events, in the order of the table, and a
`Surroundings` is a rest of the system that changes the table only by raising events, which is how
one logger and its components use it. The trace has what becomes of the reports: each is held from
its formatting until the store keeps it or the sender accepts it.
-/

namespace SolidSyslog.Service

open Lib

variable {ε ρ : Type}

/-! ## What happens to events -/

/-- An event is recorded in the table, or taken from it into a report. -/
inductive Happening where
  | raised (event : ErrorEvent)
  | taken (event : ErrorEvent)

/-- The event of a kind that waits: the last one raised since the last one taken. -/
def waitingNext (index : Fin PendingEvents.kindCount) (waiting : Option ErrorEvent) :
    Happening → Option ErrorEvent
  | .raised event =>
    if PendingEvents.indexOf event.category = some index then some event else waiting
  | .taken event =>
    if PendingEvents.indexOf event.category = some index then none else waiting

def waiting (index : Fin PendingEvents.kindCount) (happened : List Happening) :
    Option ErrorEvent :=
  happened.foldl (waitingNext index) none

/-- The events taken into reports. -/
def takenIn (happened : List Happening) : List ErrorEvent :=
  happened.filterMap fun
    | .raised _ => none
    | .taken event => some event

/-- The events raised. -/
def raisedIn (happened : List Happening) : List ErrorEvent :=
  happened.filterMap fun
    | .raised event => some event
    | .taken _ => none

/-- Only an event that waits is taken. -/
def TakesWaiting (before : List Happening) : Happening → Prop
  | .raised _ => True
  | .taken event => ∃ index, PendingEvents.indexOf event.category = some index ∧
      waiting index before = some event

/-- What a call logs, given the events raised during it. An event is taken just before its report is
formatted, and one the pass itself raises is recorded just after the handler has heard of it. -/
def happenings : Request ρ → List ErrorEvent → List Happening
  | .formatReport _ event, raised => .taken event :: raised.map .raised
  | .errorHandler event, raised => raised.map .raised ++ [.raised event]
  | _, raised => raised.map .raised

/-- The rest of the system: the answer to each call, what it leaves behind, and the events raised
meanwhile, by the call or by other tasks. -/
structure Surroundings (ε ρ : Type) where
  answer : (request : Request ρ) → ε → PendingEvents.Table →
    request.Answer × ε × List ErrorEvent

/-- The surroundings as a pass sees them, with a log of what happens to events. -/
def Surroundings.parts (S : Surroundings ε ρ) : Parts (ε × List Happening) ρ where
  answer request env pending :=
    let outcome := S.answer request env.1 pending
    (outcome.1, (outcome.2.1, env.2 ++ happenings request outcome.2.2),
      outcome.2.2.foldl PendingEvents.record pending)

/-! ## What becomes of reports -/

/-- The report in the slot, and those the store kept or the sender accepted. -/
structure Ledger (ρ : Type) where
  held : Option (ErrorEvent × ρ)
  done : List (ErrorEvent × ρ)

/-- The reports made. -/
def Ledger.made (ledger : Ledger ρ) : List (ErrorEvent × ρ) :=
  ledger.done ++ ledger.held.toList

/-- The held report, if any, is kept or accepted. -/
def Ledger.settle (ledger : Ledger ρ) : Ledger ρ :=
  ⟨none, ledger.made⟩

def Ledger.next (ledger : Ledger ρ) : Entry ρ → Ledger ρ
  | .call (.formatReport _ event) record => { ledger with held := some (event, record) }
  | .call (.storeWrite _) result => if result = .kept then ledger.settle else ledger
  | .call (.senderSend _) accepted => if accepted then ledger.settle else ledger
  | _ => ledger

def ledgerOf (trace : List (Entry ρ)) : Ledger ρ :=
  trace.foldl Ledger.next ⟨none, []⟩

/-- What may follow while a report is held: nothing is read into the slot, formatted into it or
dropped from it, and what is offered to the store or the sender is the report. -/
def LeavesReport (before : List (Entry ρ)) (entry : Entry ρ) : Prop :=
  ∀ report, (ledgerOf before).held = some report →
    match entry with
    | .call (.bufferRead _) _ => False
    | .call (.storeReadNextUnsent _) _ => False
    | .call (.formatReport _ _) _ => False
    | .dropped _ => False
    | .call (.storeWrite record) _ => record = report.2
    | .call (.senderSend record) _ => record = report.2
    | _ => True

/-! ## The table -/

/-- The table holds what waits. -/
def TableHolds (happened : List Happening) (table : PendingEvents.Table) : Prop :=
  ∀ index, waiting index happened =
    if PendingEvents.isPending table index then some (PendingEvents.take table index).2.1 else none

@[simp] theorem waiting_concat (index : Fin PendingEvents.kindCount) (happened : List Happening)
    (h : Happening) : waiting index (happened ++ [h]) =
      waitingNext index (waiting index happened) h := by
  simp [waiting]

/-- A slot that stays as it is holds what it held. -/
theorem inSlot_congr {table table' : PendingEvents.Table} {index : Fin PendingEvents.kindCount}
    (h : table index = table' index) :
    (if PendingEvents.isPending table index then some (PendingEvents.take table index).2.1
      else none) =
    if PendingEvents.isPending table' index then some (PendingEvents.take table' index).2.1
      else none := by
  have hpending : PendingEvents.isPending table index = PendingEvents.isPending table' index :=
    congrArg PendingEvents.Slot.pending h
  have hevent : (PendingEvents.take table index).2.1 = (PendingEvents.take table' index).2.1 := by
    simp only [PendingEvents.take, h]
  rw [hpending, hevent]

theorem tableHolds_empty : TableHolds [] PendingEvents.empty :=
  fun _ => rfl

/-- The slot of an event that is recorded holds it. -/
theorem TableHolds.raised {happened : List Happening} {table : PendingEvents.Table}
    (h : TableHolds happened table) (event : ErrorEvent) :
    TableHolds (happened ++ [.raised event]) (PendingEvents.record table event) := by
  intro index
  rw [waiting_concat, waitingNext]
  by_cases hindex : PendingEvents.indexOf event.category = some index
  · obtain ⟨hpending, hevent⟩ := @PendingEvents.take_record table _ _ hindex
    have hisPending : PendingEvents.isPending (PendingEvents.record table event) index = true :=
      hpending
    rw [if_pos hindex, if_pos hisPending, hevent]
  · rw [if_neg hindex, h index]
    apply inSlot_congr
    unfold PendingEvents.record
    cases hother : PendingEvents.indexOf event.category with
    | none => rfl
    | some index' =>
      apply (Function.update_of_ne _ _ _).symm
      rintro rfl
      exact hindex hother

theorem TableHolds.foldl_raised {happened : List Happening} {table : PendingEvents.Table}
    (h : TableHolds happened table) (events : List ErrorEvent) :
    TableHolds (happened ++ events.map .raised) (events.foldl PendingEvents.record table) := by
  induction events generalizing happened table with
  | nil => simpa using h
  | cons event rest ih => simpa using ih (h.raised event)

/-- The slot an event is taken from is empty. -/
theorem TableHolds.taken {happened : List Happening} {table : PendingEvents.Table}
    (h : TableHolds happened table) (index : Fin PendingEvents.kindCount) :
    TableHolds (happened ++ [.taken (PendingEvents.take table index).2.1])
      (PendingEvents.take table index).2.2 := by
  intro index'
  have hindex : PendingEvents.indexOf (PendingEvents.take table index).2.1.category = some index :=
    PendingEvents.indexOf_kindAt index
  rw [waiting_concat, waitingNext, hindex]
  by_cases hsame : index = index'
  · subst hsame
    simp [PendingEvents.isPending, PendingEvents.take]
  · rw [if_neg (by simpa using hsame), h index']
    exact inSlot_congr (Function.update_of_ne (Ne.symm hsame) _ _).symm

theorem isPending_foldl_record {table : PendingEvents.Table} {index : Fin PendingEvents.kindCount}
    (h : PendingEvents.isPending table index = true) (events : List ErrorEvent) :
    PendingEvents.isPending (events.foldl PendingEvents.record table) index = true := by
  induction events generalizing table with
  | nil => exact h
  | cons event rest ih =>
    apply ih
    unfold PendingEvents.record PendingEvents.isPending
    cases PendingEvents.indexOf event.category with
    | none => exact h
    | some index' =>
      by_cases hindex : index = index'
      · subst hindex
        simp
      · dsimp only
        rw [Function.update_of_ne hindex]
        exact h

/-! ## Orderly logs -/

theorem takesWaiting_map_raised {happened : List Happening} (h : Always TakesWaiting happened)
    (events : List ErrorEvent) : Always TakesWaiting (happened ++ events.map .raised) := by
  induction events generalizing happened with
  | nil => simpa using h
  | cons event rest ih =>
    have hfirst : Always TakesWaiting (happened ++ [.raised event]) := h.concat trivial
    simpa using ih hfirst

@[simp] theorem takenIn_append (before after : List Happening) :
    takenIn (before ++ after) = takenIn before ++ takenIn after := by
  simp [takenIn]

@[simp] theorem takenIn_raised (events : List ErrorEvent) :
    takenIn (events.map .raised) = [] := by
  simp [takenIn]

end SolidSyslog.Service
