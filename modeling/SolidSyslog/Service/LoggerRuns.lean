import SolidSyslog.FileDevice.StoreOnFiles
import SolidSyslog.Service.Assembly
import SolidSyslog.Service.Delivery

/-!
# Runs of the logger

The logger over its ring, its store and its stream, followed with the account of its records. A run
of the logger is also one of a logger of labelled records: the same passes, each call of which is
answered the bytes the parts answer and moves the account as it may move there. Where that account
ends is the account of the run, and what the passes keep of it holds of the bytes in the ring, in
the store and on the wire.
-/

namespace SolidSyslog.Service

open Lib Buffer Store Sender

variable {σ : Type} {P : Platform σ} {C : Config} {media : σ → Media} {m₀ : Media} {a : Assembly σ}
  {p : Pipeline}

/-! ## The logger with its account -/

theorem Accounts.counted (h : Accounts P C media m₀ a p) (n : Nat) :
    Accounts P C media m₀ { a with calls := n } p :=
  ⟨h.ring, h.fits, h.store, h.sender, h.sent, h.written, h.retains⟩

/-- What a call answers in terms of records, and where it leaves the account, behind the writes of
other tasks. -/
structure Explains (P : Platform σ) (C : Config) (media : σ → Media) (m₀ : Media)
    (outside : Nat → Outside) (request : Request Item) (a : Assembly σ)
    (table : PendingEvents.Table)
    (p : Pipeline) (outcome : request.Answer × Pipeline) : Prop where
  answer : ((assembled P C outside).answer (request.map Item.bytes) a table).1 =
    request.mapAnswer Item.bytes outcome.1
  fits : request.AnswerFits (FitsSlot C) outcome.1
  moves : ∃ p₁, RingWrites C.tunables a p (outside a.calls).writes p₁ ∧
    Moves (a.before C (outside a.calls)).store
      ((assembled P C outside).answer (request.map Item.bytes) a table).2.1.store p₁ request
      outcome.1 outcome.2
  accounts : Accounts P C media m₀
    ((assembled P C outside).answer (request.map Item.bytes) a table).2.1 outcome.2

/-- A call, behind what other tasks do before it, can be explained. -/
theorem Accounts.explained (hP : Faithful P media) (hdispose : DisposesAlways P media)
    (hpolicy : SealsInPlace P C) (h : Accounts P C media m₀ a p) (outside : Nat → Outside)
    (table : PendingEvents.Table) {request : Request Item}
    (hasks : request.Asks C.tunables.maxMessageSize (FitsSlot C)) :
    ∃ outcome, Explains P C media m₀ outside request a table p outcome := by
  obtain ⟨p₁, hwrites, h₁⟩ := h.writeAll (outside a.calls).writes
  obtain ⟨answer, p', hanswer, hfits, hmoves, h'⟩ :=
    (h₁.counted (a.calls + 1)).call hP hdispose hpolicy (outside a.calls) hasks
  exact ⟨(answer, p'), hanswer, hfits, ⟨p₁, hwrites, hmoves⟩, h'⟩

/-- A logger of labelled records over the parts: whatever a call answers and does to an account of
them is explained. -/
structure Labels (P : Platform σ) (C : Config) (media : σ → Media) (m₀ : Media)
    (outside : Nat → Outside) (L : Parts (Assembly σ × Pipeline) Item) : Prop where
  isPipeline : IsPipeline L Prod.snd
  explains : ∀ (request : Request Item) (a : Assembly σ) (p : Pipeline)
    (table : PendingEvents.Table),
    request.Asks C.tunables.maxMessageSize (FitsSlot C) → Accounts P C media m₀ a p →
    ∃ outcome, Explains P C media m₀ outside request a table p outcome ∧
      L.answer request (a, p) table = (outcome.1,
        (((assembled P C outside).answer (request.map Item.bytes) a table).2.1, outcome.2),
        ((assembled P C outside).answer (request.map Item.bytes) a table).2.2)

open Classical in
/-- The parts with their account beside them, which chooses the records that the bytes of an answer
stand for. Where the parts are not those accounted for, the account moves by itself. -/
noncomputable def accounted (P : Platform σ) (C : Config) (media : σ → Media) (m₀ : Media)
    (outside : Nat → Outside) : Parts (Assembly σ × Pipeline) Item where
  answer request env table :=
    let outcome := (assembled P C outside).answer (request.map Item.bytes) env.1 table
    if h : ∃ explained, Explains P C media m₀ outside request env.1 table env.2 explained then
      (h.choose.1, (outcome.2.1, h.choose.2), outcome.2.2)
    else
      ((smoothParts.answer request env.2 table).1,
        (outcome.2.1, (smoothParts.answer request env.2 table).2.1), outcome.2.2)

theorem accounted_labels (hP : Faithful P media) (hdispose : DisposesAlways P media)
    (hpolicy : SealsInPlace P C) (outside : Nat → Outside) :
    Labels P C media m₀ outside (accounted P C media m₀ outside) where
  isPipeline := by
    refine ⟨fun request env table => ?_⟩
    obtain ⟨a, p⟩ := env
    by_cases h : ∃ outcome, Explains P C media m₀ outside request a table p outcome
    · have hanswer : (accounted P C media m₀ outside).answer request (a, p) table = (h.choose.1,
          (((assembled P C outside).answer (request.map Item.bytes) a table).2.1, h.choose.2),
          ((assembled P C outside).answer (request.map Item.bytes) a table).2.2) :=
        dif_pos h
      obtain ⟨p₁, hwrites, hmoves⟩ := h.choose_spec.moves
      rw [hanswer]
      exact ⟨p₁, hwrites.bufferWrites, .inl hmoves.effect⟩
    · have hanswer : (accounted P C media m₀ outside).answer request (a, p) table =
          ((smoothParts.answer request p table).1,
            (((assembled P C outside).answer (request.map Item.bytes) a table).2.1,
              (smoothParts.answer request p table).2.1),
            ((assembled P C outside).answer (request.map Item.bytes) a table).2.2) :=
        dif_neg h
      rw [hanswer]
      exact smoothParts_isPipeline.step request p table
  explains request a p table hasks haccounts := by
    have h := haccounts.explained hP hdispose hpolicy outside table hasks
    exact ⟨h.choose, h.choose_spec, dif_pos h⟩

/-- The environment of a run with its account. -/
def Kept (P : Platform σ) (C : Config) (media : σ → Media) (m₀ : Media) (a : Assembly σ)
    (env : Assembly σ × Pipeline) : Prop :=
  env.1 = a ∧ Accounts P C media m₀ a env.2

theorem Labels.answersAlike {outside : Nat → Outside} {L : Parts (Assembly σ × Pipeline) Item}
    (hL : Labels P C media m₀ outside L) :
    AnswersAlike (assembled P C outside) L Item.bytes C.tunables.maxMessageSize (FitsSlot C)
      (Kept P C media m₀) where
  answer := by
    rintro request a ⟨_, p⟩ table hasks ⟨rfl, haccounts⟩
    obtain ⟨outcome, hexplains, hanswer⟩ := hL.explains request _ p table hasks haccounts
    rw [hanswer]
    exact ⟨hexplains.answer, hexplains.fits, ⟨rfl, hexplains.accounts⟩, rfl⟩

/-! ## Runs -/

/-- What happens around the logger: other tasks write the ring, each write under an answer of the
policy, or `Service` makes a pass. -/
abbrev RingOp :=
  RunOp (List (DiscardPolicy × Bytes))

/-- Between passes other tasks write the ring and raise events. -/
def WriteRing (T : Tunables) (writes : List (DiscardPolicy × Bytes))
    (s s' : State (Assembly σ) Bytes) : Prop :=
  ∃ pending, s' = { s with env := s.env.writeAll T writes, pending := pending }

/-- The same, with what the account makes of the writes. -/
def WriteLabelled (T : Tunables) (writes : List (DiscardPolicy × Bytes))
    (t t' : State (Assembly σ × Pipeline) Item) : Prop :=
  ∃ p pending, RingWrites T t.env.1 t.env.2 writes p ∧
    t' = { t with env := (t.env.1.writeAll T writes, p), pending := pending }

/-- The runs of the logger. -/
abbrev AssemblyRun (P : Platform σ) (C : Config) (outside : Nat → Outside) :=
  Run (RunStep (assembled P C outside) (WriteRing C.tunables))

/-- The runs of a logger of labelled records. -/
abbrev LabelledRun (C : Config) (L : Parts (Assembly σ × Pipeline) Item) :=
  Run (RunStep L (WriteLabelled C.tunables))

/-- The logger with its account. -/
abbrev LabelledAs (P : Platform σ) (C : Config) (media : σ → Media) (m₀ : Media)
    (s : State (Assembly σ) Bytes) (t : State (Assembly σ × Pipeline) Item) : Prop :=
  InStep Item.bytes C.tunables.maxMessageSize (FitsSlot C) (Kept P C media m₀) s t

theorem Labels.step {outside : Nat → Outside} {L : Parts (Assembly σ × Pipeline) Item}
    (hL : Labels P C media m₀ outside L) {s s' : State (Assembly σ) Bytes}
    {t : State (Assembly σ × Pipeline) Item} {op : RingOp}
    {status : Option ServiceStatus} (h : LabelledAs P C media m₀ s t)
    (hstep : RunStep (assembled P C outside) (WriteRing C.tunables) s op status s') :
    ∃ t', RunStep L (WriteLabelled C.tunables) t op status t' ∧ LabelledAs P C media m₀ s' t' := by
  cases hstep with
  | others writes hwrite =>
    obtain ⟨pending, rfl⟩ := hwrite
    obtain ⟨henv, haccounts⟩ := h.env
    obtain ⟨p', hwrites, haccounts'⟩ := haccounts.writeAll writes
    refine ⟨_, .others writes ⟨p', pending, henv ▸ hwrites, rfl⟩, ?_⟩
    rw [henv]
    exact ⟨h.logger, ⟨rfl, haccounts'⟩, rfl, h.trace, h.capacity, h.fits⟩
  | pass _ fuel =>
    obtain ⟨hstatus, h'⟩ := service_coupled hL.answersAlike fuel s t h
    rw [hstatus]
    exact ⟨_, .pass t fuel, h'⟩

/-- A run of the logger is one of labelled records. -/
theorem Labels.run {outside : Nat → Outside} {L : Parts (Assembly σ × Pipeline) Item}
    (hL : Labels P C media m₀ outside L) {s s' : State (Assembly σ) Bytes}
    {t : State (Assembly σ × Pipeline) Item} {ops : List RingOp}
    {statuses : List (Option ServiceStatus)} (h : LabelledAs P C media m₀ s t)
    (hrun : AssemblyRun P C outside s ops statuses s') :
    ∃ t', LabelledRun C L t ops statuses t' ∧ LabelledAs P C media m₀ s' t' :=
  hrun.simulates (D := fun _ => True) (fun _ _ => trivial) h fun _ h hstep => hL.step h hstep

/-- Labelled passes keep the law of the queues. -/
theorem Labels.atRest {outside : Nat → Outside} {L : Parts (Assembly σ × Pipeline) Item}
    (hL : Labels P C media m₀ outside L) {t t' : State (Assembly σ × Pipeline) Item}
    {ops : List RingOp} {statuses : List (Option ServiceStatus)}
    (h : AtRest Prod.snd false t) (hrun : LabelledRun C L t ops statuses t') :
    AtRest Prod.snd false t' := by
  refine hrun.invariant (D := fun _ => True) (fun _ _ => trivial) h fun _ h hstep => ?_
  cases hstep with
  | others writes hwrite =>
    obtain ⟨p, pending, hwrites, rfl⟩ := hwrite
    refine atRest_of_runStep hL.isPipeline h (.others () ⟨_, pending, ?_, rfl⟩)
    exact hwrites.bufferWrites
  | pass _ fuel => exact atRest_of_runStep hL.isPipeline h (.pass _ fuel)

/-- A new logger over an empty ring, a store that holds the records `old` of an earlier run, and a
sender with no connection. -/
structure StartsAssembled (P : Platform σ) (C : Config) (media : σ → Media) (m₀ : Media)
    (old : List Bytes) (s : State (Assembly σ) Bytes) : Prop where
  logger : ∃ record : Bytes, record.length ≤ C.tunables.maxMessageSize ∧
    s.logger = Logger.initial C.tunables.maxMessageSize record
  trace : s.trace = []
  ring : ∃ ring, s.env.ring = CircularBuffer.initialise ring
  store : s.env.store.Queues P C media m₀ ⟨old, false⟩
  sender : s.env.sender = .initial
  written : s.env.written = []

/-- The account of a new logger: the records of an earlier run came from no buffer of this one. -/
def startAccount (old : List Bytes) : Pipeline :=
  ⟨[], old.map (⟨·, none⟩), false, false, none, [], [], [], []⟩

theorem StartsAssembled.accounts {old : List Bytes} {s : State (Assembly σ) Bytes}
    (h : StartsAssembled P C media m₀ old s) :
    Accounts P C media m₀ s.env (startAccount old) := by
  obtain ⟨ring, hring⟩ := h.ring
  have hold : (startAccount old).store.map Item.bytes = old := by
    rw [startAccount, List.map_map]
    exact List.map_id'' (fun _ => rfl) old
  refine ⟨?_, fun r hr => absurd hr List.not_mem_nil, ?_, ?_, ?_, ?_, rfl⟩
  · rw [hring]
    exact initialise_holds ring
  · rw [hold]
    exact h.store
  · rw [h.sender]
    exact .initial
  · rw [h.sender]
    rfl
  · rw [h.written]
    rfl

/-- A new logger with its account. -/
def labelledStart (old : List Bytes) (s : State (Assembly σ) Bytes) :
    State (Assembly σ × Pipeline) Item :=
  ⟨Logger.initial s.logger.recordCapacity ⟨s.logger.record, none⟩, (s.env, startAccount old),
    s.pending, []⟩

theorem labelledStart_atRest (old : List Bytes) (s : State (Assembly σ) Bytes) :
    AtRest Prod.snd false (labelledStart old s) := by
  have hstart : Starts Prod.snd (labelledStart old s) := by
    refine ⟨⟨_, _, rfl⟩, rfl, rfl, rfl, rfl, rfl, rfl, ?_, fun hfalse => by cases hfalse⟩
    intro r hr
    obtain ⟨bytes, -, rfl⟩ := List.mem_map.1 hr
    rfl
  exact hstart.atRest fun hfalse => by cases hfalse

theorem StartsAssembled.labelled {old : List Bytes} {s : State (Assembly σ) Bytes}
    (h : StartsAssembled P C media m₀ old s) :
    LabelledAs P C media m₀ s (labelledStart old s) := by
  obtain ⟨record, hrecord, hlogger⟩ := h.logger
  refine ⟨?_, ⟨rfl, h.accounts⟩, rfl, h.trace, ?_, ?_⟩
  · simp only [labelledStart, hlogger]
    rfl
  · simp only [labelledStart, hlogger]
    rfl
  · simp only [labelledStart, hlogger]
    exact hrecord

/-- The account of a run: where the same run of a logger of labelled records, from the account of a
new logger, leaves it. -/
inductive AccountOf (P : Platform σ) (C : Config) (media : σ → Media) (m₀ : Media)
    (outside : Nat → Outside) (old : List Bytes) (s : State (Assembly σ) Bytes)
    (ops : List RingOp) (statuses : List (Option ServiceStatus))
    (s' : State (Assembly σ) Bytes) : Pipeline → Prop
  | mk {L : Parts (Assembly σ × Pipeline) Item} {t : State (Assembly σ × Pipeline) Item}
      (labels : Labels P C media m₀ outside L)
      (run : LabelledRun C L (labelledStart old s) ops statuses t)
      (same : LabelledAs P C media m₀ s' t) :
      AccountOf P C media m₀ outside old s ops statuses s' t.env.2

/-- What the account of a run says. A record of the buffer is in the slot only during a pass. -/
structure Delivers (p : Pipeline) (trace : List (Entry Bytes)) : Prop where
  order : (arrivals (p.sent ++ p.store ++ p.buffer)).Sublist p.accepted
  nodup : p.accepted.Nodup
  perm : p.accepted.Perm
    (arrivals (p.sent ++ p.store ++ p.buffer) ++ arrivals (p.lost.map Prod.fst))
  losses : ∀ x ∈ p.lost, x.2 ≠ .leftOnMedia ∧ (x.2 = .bufferEvicted → .oldest ∈ p.policies)
  kept : ∀ record, .dropped record ∉ trace

variable {outside : Nat → Outside} {old : List Bytes} {s s' : State (Assembly σ) Bytes}
  {ops : List RingOp} {statuses : List (Option ServiceStatus)}

theorem AccountOf.accounts (h : AccountOf P C media m₀ outside old s ops statuses s' p) :
    Accounts P C media m₀ s'.env p := by
  obtain ⟨-, -, same⟩ := h
  exact same.env.2

theorem AccountOf.delivers (h : AccountOf P C media m₀ outside old s ops statuses s' p) :
    Delivers p s'.trace := by
  obtain ⟨hL, hrun, hin⟩ := h
  have hrest := hL.atRest (labelledStart_atRest old s) hrun
  rename_i L t
  obtain ⟨-, haccounts⟩ := hin.env
  have hconserved : Conserved t.env.2 t.logger.held (droppedIn t.trace) := hrest.holds.conserved
  have hretains := haccounts.retains
  have hreport : arrivals t.logger.held = [] := by
    unfold Logger.held
    split
    · next hholds =>
      rcases hrest.parked hholds with htransient | hnone
      · rw [hretains] at htransient
        cases htransient
      · exact arrivals_of_none hnone
    · rfl
  have hkept : t.env.2.kept t.logger.held =
      arrivals (t.env.2.sent ++ t.env.2.store ++ t.env.2.buffer) := by
    simp only [Pipeline.kept, arrivals_append, hreport, List.append_nil]
  have hdropped : droppedIn t.trace = [] := by
    by_contra hne
    have htransient := hconserved.frozen (.inr hne)
    rw [hretains] at htransient
    cases htransient
  have hmissing : t.env.2.missing (droppedIn t.trace) = arrivals (t.env.2.lost.map Prod.fst) := by
    rw [hdropped, Pipeline.missing, List.append_nil]
  refine ⟨?_, hconserved.nodup_accepted, ?_, ?_, ?_⟩
  · rw [← hkept]
    exact hconserved.order
  · rw [← hkept, ← hmissing]
    exact hconserved.perm
  · refine fun x hx => ⟨fun hleft => ?_, fun hevicted => hconserved.blame (.inl ⟨x, hx, hevicted⟩)⟩
    have htransient := hconserved.frozen (.inl ⟨x, hx, hleft⟩)
    rw [hretains] at htransient
    cases htransient
  · intro record hrecord
    rw [hin.trace] at hrecord
    obtain ⟨entry, hentry, heq⟩ := List.mem_map.1 hrecord
    cases entry with
    | call request answer => cases heq
    | dropped r =>
      have hmem : r ∈ droppedIn t.trace := List.mem_filterMap.2 ⟨.dropped r, hentry, rfl⟩
      rw [hdropped] at hmem
      cases hmem

/-- Every run of a new logger has an account. -/
theorem StartsAssembled.account (hP : Faithful P media) (hdispose : DisposesAlways P media)
    (hpolicy : SealsInPlace P C) (hstart : StartsAssembled P C media m₀ old s)
    (hrun : AssemblyRun P C outside s ops statuses s') :
    ∃ p, AccountOf P C media m₀ outside old s ops statuses s' p := by
  have hlabels : Labels P C media m₀ outside (accounted P C media m₀ outside) :=
    accounted_labels hP hdispose hpolicy outside
  obtain ⟨t, hlabelled, hsame⟩ := hlabels.run hstart.labelled hrun
  exact ⟨t.env.2, .mk hlabels hlabelled hsame⟩

/-- Before the first call another task writes one record; the stream takes everything. -/
def oneWrite (n : Nat) : Outside :=
  ⟨if n = 0 then [(.newest, [65])] else [], id, .newest, false, [], StreamSender.allWell⟩

/-- A logger over a ring of 32 bytes and a store that starts on an empty device. -/
def smallLogger : State (Assembly Media) Bytes :=
  ⟨Logger.initial 64 [],
    ⟨.initialise (List.replicate 32 0), .created (ramDevice .oldest) .small Media.empty, .initial,
      [], 0⟩,
    PendingEvents.empty, []⟩

theorem smallLogger_starts :
    StartsAssembled (ramDevice .oldest) .small id Media.empty [] smallLogger where
  logger := ⟨[], Nat.zero_le _, rfl⟩
  trace := rfl
  ring := ⟨_, rfl⟩
  store := FileDevice.created_queues (ramDevice_faithful .oldest)
    (ramDevice_disposesAlways .oldest) fun _ => rfl
  sender := rfl
  written := rfl

/-- A pass of it. -/
def smallLoggerServed : Option ServiceStatus × State (Assembly Media) Bytes :=
  service (assembled (ramDevice .oldest) .small oneWrite) 2 smallLogger

end SolidSyslog.Service
