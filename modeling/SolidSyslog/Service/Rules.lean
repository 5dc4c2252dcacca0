import SolidSyslog.Service.Model

/-!
# Rules for the steps of a pass

One rule for each thing a pass does to its state: a look at the logger, a change to it, a call out
and the drop of a record.
-/

namespace SolidSyslog.Service

open Lib

variable {ε ρ : Type} {P : Parts ε ρ} {s : State ε ρ}

/-- The state after a call out of the pass. -/
def State.asked (P : Parts ε ρ) (request : Request ρ) (s : State ε ρ) : State ε ρ :=
  { s with
    env := (P.answer request s.env s.pending).2.1
    pending := (P.answer request s.env s.pending).2.2
    trace := s.trace ++ [.call request (P.answer request s.env s.pending).1] }

@[simp] theorem State.asked_logger (request : Request ρ) :
    (s.asked P request).logger = s.logger :=
  rfl

@[simp] theorem State.asked_trace (request : Request ρ) : (s.asked P request).trace =
    s.trace ++ [.call request (P.answer request s.env s.pending).1] :=
  rfl

@[simp] theorem ensures_logger {Q : Logger ρ → State ε ρ → Prop} :
    Ensures logger Q s = Q s.logger s :=
  rfl

@[simp] theorem ensures_setLogger {change : Logger ρ → Logger ρ} {Q : Unit → State ε ρ → Prop} :
    Ensures (setLogger change) Q s = Q () { s with logger := change s.logger } :=
  rfl

theorem ensures_ask (request : Request ρ) {Q : request.Answer → State ε ρ → Prop} :
    Ensures (ask P request) Q s ↔
      Q (P.answer request s.env s.pending).1 (s.asked P request) :=
  Iff.rfl

@[simp] theorem ensures_report {severity : Severity} {category : Category} {error : LoggerError}
    {Q : Unit → State ε ρ → Prop} :
    Ensures (report P severity category error) Q s =
      Q () { s.asked P (.errorHandler
        ⟨severity, category, false, "SolidSyslog", error.code, 0⟩) with
        pending := PendingEvents.record
          (s.asked P (.errorHandler ⟨severity, category, false, "SolidSyslog",
            error.code, 0⟩)).pending
          ⟨severity, category, false, "SolidSyslog", error.code, 0⟩ } :=
  rfl

/-! ## Runs -/

/-- What happens around a logger: other tasks do something, or `Service` makes a pass. -/
inductive RunOp (ω : Type) where
  | others (what : ω)
  | pass (fuel : Nat)

/-- One step of a run, in which the others do what `Others` lets them. A pass that runs out of fuel
stands for one that is still draining the buffer. -/
inductive RunStep {ω : Type} (P : Parts ε ρ) (Others : ω → State ε ρ → State ε ρ → Prop) :
    State ε ρ → RunOp ω → Option ServiceStatus → State ε ρ → Prop
  | others (what : ω) {s s' : State ε ρ} (h : Others what s s') :
      RunStep P Others s (.others what) none s'
  | pass (s : State ε ρ) (fuel : Nat) :
      RunStep P Others s (.pass fuel) (service P fuel s).1 (service P fuel s).2

/-- The others change their state and raise events: nothing more is said of them. -/
def LeaveLogger (_ : Unit) (s s' : State ε ρ) : Prop :=
  ∃ env pending, s' = { s with env := env, pending := pending }

end SolidSyslog.Service
