import DeviceTwin.Proofs.Property.Rounds
import Mathlib.Algebra.Order.Group.Nat
import Mathlib.Data.List.Forall2

/-!
A dispatch on its own. No other task comes for the exchange of a property, so a task is known by what its
registration was in the beginning (`Alone`). When the handlers fit and the reporter does not fail, it ends with the
acknowledgements that are due (`Alone.due`), and it ends after as many rounds as it pauses: a poll lowers its `rank`
(`Alone.poll`). So the rounds of the dispatch end before the fuel does (`rounds_together`).
-/
namespace DeviceTwin

namespace Task

/-- The version that is answered last in a state. -/
def answeredIn : ExchangeState → Option Int64
  | .terminal _ answered => some answered
  | _ => none

theorem isAnswered_eq (version : Int64) (state : ExchangeState) :
    isAnswered version state = (answeredIn state).any fun answered => decide (version ≤ answered) := by
  cases state <;> rfl

theorem closing_ne_inProgress (o : Outcome) : (closing o).1 ≠ .inProgress := by
  intro same
  have terminal := isTerminal_closing o
  rw [same] at terminal
  cases terminal

end Task

namespace Handler
variable {c : Convention} {h other : Handler} {version : Int64}

/-- The acknowledgements of the property in some patches, without their values. -/
def reports (c : Convention) (h : Handler) (patches : List Patch) : List AckReport :=
  patches.filterMap fun patch => (h.ack? c patch).map fun ack => h.summary ack.version ack.code ack.description

@[simp] theorem reports_nil : h.reports c [] = [] := rfl

@[simp] theorem reports_append (first rest : List Patch) :
    h.reports c (first ++ rest) = h.reports c first ++ h.reports c rest :=
  List.filterMap_append

theorem reports_singleton {ack : Ack} {patch : Patch} (read : h.ack? c patch = some ack) :
    h.reports c [patch] = [h.summary ack.version ack.code ack.description] := by
  simp [reports, read]

/-- Both handlers are of one property. -/
def SameProperty (h other : Handler) : Prop :=
  other.property = h.property ∧ componentName? other.component = componentName? h.component

theorem SameProperty.symm (same : h.SameProperty other) : other.SameProperty h :=
  ⟨same.1.symm, same.2.symm⟩

/-- The patches acknowledge properties of these handlers, and of no other ones. -/
structure Acknowledge (c : Convention) (handlers : List Handler) (patches : List Patch) : Prop where
  each : ∀ patch ∈ patches, ∃ h ∈ handlers, (h.ack? c patch).isSome
  others : ∀ other : Handler, (∀ h ∈ handlers, ¬ h.SameProperty other) → other.reports c patches = []

theorem Acknowledge.nil (handlers : List Handler) : Acknowledge c handlers [] :=
  ⟨fun _ member => absurd member List.not_mem_nil, fun _ _ => rfl⟩

theorem Acknowledge.append {handlers : List Handler} {first rest : List Patch} (acked : Acknowledge c handlers first)
    (acked' : Acknowledge c handlers rest) : Acknowledge c handlers (first ++ rest) := by
  refine ⟨fun patch member => ?_, fun other different => ?_⟩
  · rcases List.mem_append.mp member with before | after
    · exact acked.each patch before
    · exact acked'.each patch after
  · rw [reports_append, acked.others other different, acked'.others other different, List.append_nil]

theorem Acknowledge.mono {handlers more : List Handler} {patches : List Patch} (acked : Acknowledge c handlers patches)
    (subset : handlers ⊆ more) : Acknowledge c more patches := by
  refine ⟨fun patch member => ?_, fun other different => acked.others other fun h inside => different h (subset inside)⟩
  obtain ⟨h, inside, read⟩ := acked.each patch member
  exact ⟨h, subset inside, read⟩

/-- The values of the handler can be written, and so can what it answers to them. -/
structure Serializes (c : Convention) (h : Handler) : Prop where
  value : ∀ raw value, c.serializer.ofWire h.shape.schema raw = .ok value →
    ∃ j, c.serializer.toWire (h.shape.datum value) = .ok j
  outcome : ∀ raw value, c.serializer.ofWire h.shape.schema raw = .ok value →
    ∀ run, ∃ j, c.serializer.toWire (h.shape.datum (h.respond run value).value) = .ok j

/-- The property can be reported as well. -/
structure Fit (c : Convention) (h : Handler) : Prop extends Serializes c h where
  name : checkName h.property = .ok ()

/-- What a set holds for the property can be written. -/
def Writable (c : Convention) (h : Handler) (desired : DesiredSet) : Prop :=
  ∀ raw, h.wanted desired = some raw → ∃ j, c.serializer.toWire (.value raw) = .ok j

/-- The acknowledgements that are due when a set comes: none if the property is not in it or its version is answered,
    and otherwise one that rejects a malformed value, or two around a run of the handler. -/
def due (c : Convention) (h : Handler) (last : Option Int64) (run : Nat) (desired : DesiredSet) : List AckReport :=
  match h.wanted desired with
  | none => []
  | some raw =>
    if last.any fun answered => decide (desired.version ≤ answered) then []
    else match c.serializer.ofWire h.shape.schema raw with
      | .error e => [h.summary desired.version .badRequest (some ("Invalid value: " ++ e.description))]
      | .ok value =>
        let (code, description) := Task.closing (h.respond run value)
        [h.summary desired.version .inProgress none, h.summary desired.version code description]

theorem Fit.rejection {raw : Json} {j : Json} (fit : h.Fit c) (wire : c.serializer.toWire (.value raw) = .ok j)
    (version : Int64) (e : TwinError) : ∃ patch, h.rejection c version raw e = .ok patch :=
  ⟨_, buildAck_of_ok fit.name wire⟩

theorem Fit.receipt {raw value : Json} (fit : h.Fit c)
    (converts : c.serializer.ofWire h.shape.schema raw = .ok value) (version : Int64) :
    ∃ patch, h.receipt c version value = .ok patch := by
  obtain ⟨j, wire⟩ := fit.value raw value converts
  exact ⟨_, buildAck_of_ok fit.name wire⟩

theorem Fit.answer {raw value : Json} (fit : h.Fit c) (converts : c.serializer.ofWire h.shape.schema raw = .ok value)
    (version : Int64) (run : Nat) : ∃ patch, h.answer c version (h.respond run value) = .ok patch := by
  obtain ⟨j, wire⟩ := fit.outcome raw value converts run
  exact ⟨_, buildAck_of_ok fit.name wire⟩

section Due
variable {desired : DesiredSet} {state : ExchangeState} {raw value : Json}

theorem due_absent (unwanted : h.wanted desired = none) (last : Option Int64) (run : Nat) :
    h.due c last run desired = [] := by
  simp [due, unwanted]

theorem due_skipped (wants : h.wanted desired = some raw)
    (answered : Task.isAnswered desired.version state = true) (run : Nat) :
    h.due c (Task.answeredIn state) run desired = [] := by
  rw [Task.isAnswered_eq] at answered
  simp [due, wants, answered]

theorem due_malformed {e : TwinError} (bad : Task.Malformed c h desired state raw e) (run : Nat) :
    h.due c (Task.answeredIn state) run desired =
      [h.summary desired.version .badRequest (some ("Invalid value: " ++ e.description))] := by
  have open_ := bad.open_
  rw [Task.isAnswered_eq] at open_
  simp only [due, bad.wants, open_, bad.malformed, Bool.false_eq_true, if_false]

theorem due_converted (good : Task.Converted c h desired state raw value) (run : Nat) :
    h.due c (Task.answeredIn state) run desired = [h.summary desired.version .inProgress none,
      h.summary desired.version (Task.closing (h.respond run value)).1 (Task.closing (h.respond run value)).2] := by
  have open_ := good.open_
  rw [Task.isAnswered_eq] at open_
  simp only [due, good.wants, open_, good.converts, Bool.false_eq_true, if_false]

end Due

theorem reports_rejection {raw : Json} {e : TwinError} {patch : Patch}
    (built : h.rejection c version raw e = .ok patch) :
    h.reports c [patch] = [h.summary version .badRequest (some ("Invalid value: " ++ e.description))] := by
  obtain ⟨j, _, read⟩ := ack?_rejection built
  exact reports_singleton read

theorem reports_receipt {value : Json} {patch : Patch} (built : h.receipt c version value = .ok patch) :
    h.reports c [patch] = [h.summary version .inProgress none] := by
  obtain ⟨j, _, read⟩ := ack?_receipt built
  exact reports_singleton read

theorem reports_answer {o : Outcome} {patch : Patch} (built : h.answer c version o = .ok patch) :
    h.reports c [patch] = [h.summary version (Task.closing o).1 (Task.closing o).2] := by
  obtain ⟨j, _, read⟩ := ack?_answer built
  exact reports_singleton read

/-- A patch that is built for one property acknowledges this one only. -/
theorem acknowledge_buildAck {value : Datum} {code : AckCode} {description : Option String} {patch : Patch}
    (built : c.buildAck h.property value code version description (componentName? h.component) = .ok patch) :
    Acknowledge c [h] [patch] := by
  refine ⟨fun other member => ?_, fun other different => ?_⟩
  · rw [List.mem_singleton.mp member]
    obtain ⟨j, _, read⟩ := ack?_buildAck (componentName?_idempotent _) built
    exact ⟨h, List.mem_singleton_self h, by rw [read]; rfl⟩
  · simp [reports, ack?_other (componentName?_idempotent _) (different h (List.mem_singleton_self h)) built]

end Handler

namespace Registration

/-- No task has hold of the exchange or waits for it. -/
structure Idle (reg : Registration) : Prop where
  sound : reg.Sound
  owner : reg.owner = none
  waiting : reg.waiting = []

/-- The registration while a task has hold of its exchange, when the handler has run so often since the beginning. -/
def held (reg : Registration) (ticket : Nat) (state : ExchangeState) (runs : Nat) : Registration :=
  { reg with exchange := reg.handler.exchangeIn state, calls := reg.calls + runs, owner := some ticket }

/-- The registration afterwards. -/
def left (reg : Registration) (state : ExchangeState) (runs : Nat) : Registration :=
  { reg with exchange := reg.handler.exchangeIn state, calls := reg.calls + runs }

theorem idle_left {reg : Registration} (idle : reg.Idle) (state : ExchangeState) (runs : Nat) :
    (reg.left state runs).Idle :=
  ⟨rfl, idle.owner, idle.waiting⟩

end Registration

namespace Task

/-- Where the only task of a property stands, with the acknowledgements of it that are delivered, when its registration
    was `start` in the beginning and nothing fails. -/
inductive Alone (c : Convention) (ticket : Nat) (desired : DesiredSet) (start : Registration) :
    Registration → Phase → List AckReport → Prop where
  | entering : Alone c ticket desired start start .entering []
  | absent (unwanted : start.handler.wanted desired = none) :
      Alone c ticket desired start start (.finished (.ok none)) []
  | skipped {raw : Json} (wants : start.handler.wanted desired = some raw)
      (answered : isAnswered desired.version start.exchange.state = true) :
      Alone c ticket desired start start (.finished (.ok none)) []
  | rejecting {raw : Json} {e : TwinError} {patch : Patch}
      (bad : Malformed c start.handler desired start.exchange.state raw e)
      (built : start.handler.rejection c desired.version raw e = .ok patch) (pauses index : Nat) :
      Alone c ticket desired start (start.held ticket (.terminal .badRequest desired.version) 0)
        (.reporting pauses index patch (.finish
          (start.handler.summary desired.version .badRequest (some ("Invalid value: " ++ e.description))))) []
  | rejected {raw : Json} {e : TwinError} (bad : Malformed c start.handler desired start.exchange.state raw e) :
      Alone c ticket desired start (start.left (.terminal .badRequest desired.version) 0)
        (.finished (.ok (some
          (start.handler.summary desired.version .badRequest (some ("Invalid value: " ++ e.description))))))
        [start.handler.summary desired.version .badRequest (some ("Invalid value: " ++ e.description))]
  | acknowledging {raw value : Json} {patch : Patch}
      (good : Converted c start.handler desired start.exchange.state raw value)
      (built : start.handler.receipt c desired.version value = .ok patch) (pauses index : Nat) :
      Alone c ticket desired start (start.held ticket (.pending desired.version) 0)
        (.reporting pauses index patch (.apply value)) []
  | applying {raw value : Json} (good : Converted c start.handler desired start.exchange.state raw value)
      (pauses : Nat) :
      Alone c ticket desired start (start.held ticket (.pending desired.version) 1)
        (.applying pauses (start.handler.respond start.calls value))
        [start.handler.summary desired.version .inProgress none]
  | answering {raw value : Json} {patch : Patch} {o : Outcome} (outcome : o = start.handler.respond start.calls value)
      (good : Converted c start.handler desired start.exchange.state raw value)
      (built : start.handler.answer c desired.version o = .ok patch) (pauses index : Nat) :
      Alone c ticket desired start (start.held ticket (.terminal (closing o).1 desired.version) 1)
        (.reporting pauses index patch (.finish
          (start.handler.summary desired.version (closing o).1 (closing o).2)))
        [start.handler.summary desired.version .inProgress none]
  | answered {raw value : Json} {o : Outcome} (outcome : o = start.handler.respond start.calls value)
      (good : Converted c start.handler desired start.exchange.state raw value) :
      Alone c ticket desired start (start.left (.terminal (closing o).1 desired.version) 1)
        (.finished (.ok (some (start.handler.summary desired.version (closing o).1 (closing o).2))))
        [start.handler.summary desired.version .inProgress none,
          start.handler.summary desired.version (closing o).1 (closing o).2]

variable {c : Convention} {ticket : Nat} {desired : DesiredSet} {rep : Reporter} {start reg : Registration}
  {phase : Phase} {acks : List AckReport} {m : Move} {events : List Event}

theorem Alone.sound (alone : Alone c ticket desired start reg phase acks) (idle : start.Idle) : reg.Sound := by
  cases alone with
  | entering => exact idle.sound
  | absent => exact idle.sound
  | skipped => exact idle.sound
  | _ => rfl

theorem Alone.handler (alone : Alone c ticket desired start reg phase acks) : reg.handler = start.handler := by
  cases alone <;> rfl

theorem Alone.applies (alone : Alone c ticket desired start reg phase acks) :
    Applies desired.version reg.exchange.state phase := by
  cases alone with
  | applying => rfl
  | _ => trivial

/-- The patches that a move delivers. -/
abbrev deliveries (events : List Event) : List Patch :=
  events.filterMap Event.delivered?

/-- How many polls a task needs until it ends: every pause takes one, and the last one ends it. -/
def rank (pauses : Nat) (h : Handler) : Phase → Nat
  | .entering => pauses + h.pauses + pauses + 1
  | .queued => 0
  | .reporting n _ _ (.apply _) => n + h.pauses + pauses + 1
  | .applying n _ => n + pauses + 1
  | .reporting n _ _ (.finish _) => n + 1
  | .finished _ => 0

/-- What a step of a dispatch leaves of the reporter: it has delivered some more patches. -/
structure Delivers (rep rep' : Reporter) (new : List Patch) : Prop where
  delivered : rep'.delivered = rep.delivered ++ new
  refusal : rep'.refusal = rep.refusal
  pauses : rep'.pauses = rep.pauses

theorem Delivers.refl (rep : Reporter) : Delivers rep rep [] :=
  ⟨(List.append_nil _).symm, rfl, rfl⟩

theorem Delivers.trans {rep rep' rep'' : Reporter} {new more : List Patch} (first : Delivers rep rep' new)
    (rest : Delivers rep' rep'' more) : Delivers rep rep'' (new ++ more) :=
  ⟨by rw [rest.delivered, first.delivered, List.append_assoc], rest.refusal.trans first.refusal,
    rest.pauses.trans first.pauses⟩

/-- What a task that has ended leaves behind: what was due is delivered, and the exchange stands at its answer. -/
structure Served (c : Convention) (desired : DesiredSet) (start reg : Registration) (result : Option AckReport)
    (acks : List AckReport) : Prop where
  due : acks = start.handler.due c (answeredIn start.exchange.state) start.calls desired
  closings : acks.filter (fun r => r.code.isTerminal) = result.toList
  runs : reg.calls = start.calls + acks.countP fun r => r.code = .inProgress
  state : reg.exchange.state = result.elim start.exchange.state fun r => .terminal r.code r.version
  newer : ∀ r ∈ result, isAnswered r.version start.exchange.state = false
  idle : reg.Idle
  handler : reg.handler = start.handler

/-- A task whose rank is zero has ended well. -/
theorem alone_ended (idle : start.Idle) (alone : Alone c ticket desired start reg phase acks) {pauses : Nat}
    (ended : rank pauses start.handler phase = 0) :
    ∃ result, phase = .finished (.ok result) ∧ Served c desired start reg result acks := by
  cases alone with
  | absent unwanted =>
    exact ⟨none, rfl, (Handler.due_absent unwanted _ _).symm, rfl, rfl, rfl, by simp, idle, rfl⟩
  | skipped wants answered =>
    exact ⟨none, rfl, (Handler.due_skipped wants answered _).symm, rfl, rfl, rfl, by simp, idle, rfl⟩
  | rejected bad =>
    refine ⟨_, rfl, (Handler.due_malformed bad _).symm, rfl, rfl, rfl, ?_, Registration.idle_left idle _ _, rfl⟩
    intro r same
    cases same
    exact bad.open_
  | answered outcome good =>
    subst outcome
    refine ⟨_, rfl, (Handler.due_converted good _).symm, ?_, ?_, rfl, ?_, Registration.idle_left idle _ _, rfl⟩
    · have receipt : AckCode.inProgress.isTerminal = false := rfl
      simp [Handler.summary, isTerminal_closing, receipt]
    · simp [Handler.summary, Registration.left, closing_ne_inProgress]
    · intro r same
      cases same
      exact good.open_
  | _ => simp [rank] at ended

end Task

/-! ### A whole dispatch -/

/-- The handlers fit and a set can be handled, each property by one handler whose exchange is idle. -/
structure Ready (c : Convention) (desired : DesiredSet) (starts : List Registration) : Prop where
  idle : ∀ start ∈ starts, start.Idle
  fit : ∀ start ∈ starts, start.handler.Fit c
  writable : ∀ start ∈ starts, start.handler.Writable c desired
  distinct : starts.Pairwise fun start other => ¬ start.handler.SameProperty other.handler

/-- The tasks of a dispatch, when some patches have been delivered and no task needs more than `n` polls. -/
inductive Together (c : Convention) (ticket : Nat) (desired : DesiredSet) (pauses n : Nat) (log : List Patch) :
    List Registration → List Registration → List Phase → Prop where
  | nil : Together c ticket desired pauses n log [] [] []
  | cons {start reg : Registration} {phase : Phase} {starts regs : List Registration} {phases : List Phase}
      (alone : Task.Alone c ticket desired start reg phase (start.handler.reports c log))
      (bounded : Task.rank pauses start.handler phase ≤ n)
      (others : Together c ticket desired pauses n log starts regs phases) :
      Together c ticket desired pauses n log (start :: starts) (reg :: regs) (phase :: phases)

variable {c : Convention} {ticket : Nat} {desired : DesiredSet} {pauses n : Nat} {log log' : List Patch}
  {starts regs : List Registration} {phases : List Phase} {rep : Reporter} {start : Registration}

theorem Ready.of_cons (ready : Ready c desired (start :: starts)) : Ready c desired starts :=
  ⟨fun r member => ready.idle r (List.mem_cons_of_mem _ member),
    fun r member => ready.fit r (List.mem_cons_of_mem _ member),
    fun r member => ready.writable r (List.mem_cons_of_mem _ member), (List.pairwise_cons.mp ready.distinct).2⟩

/-- Only the patches count that acknowledge a property of one of the tasks. -/
theorem Together.congr (together : Together c ticket desired pauses n log starts regs phases)
    (same : ∀ start ∈ starts, start.handler.reports c log = start.handler.reports c log') :
    Together c ticket desired pauses n log' starts regs phases := by
  induction together with
  | nil => exact .nil
  | cons alone bounded others ih =>
    rw [List.forall_mem_cons] at same
    rw [same.1] at alone
    exact .cons alone bounded (ih same.2)

/-- Tasks have all ended when no rank is left. -/
theorem Together.isFinished (ready : Ready c desired starts)
    (together : Together c ticket desired pauses 0 log starts regs phases) :
    Dispatch.isFinished ⟨ticket, desired, phases⟩ = true := by
  induction together with
  | nil => rfl
  | cons alone bounded others ih =>
    obtain ⟨result, rfl, _⟩ := Task.alone_ended (ready.idle _ List.mem_cons_self) alone (Nat.le_zero.mp bounded)
    exact ih ready.of_cons

theorem Together.ended (together : Together c ticket desired pauses n log starts regs phases)
    (finished : Dispatch.isFinished ⟨ticket, desired, phases⟩ = true) :
    Together c ticket desired pauses 0 log starts regs phases := by
  induction together with
  | nil => exact .nil
  | @cons start reg phase starts regs phases alone bounded others ih =>
    simp only [Dispatch.isFinished, List.all_cons, Bool.and_eq_true] at finished ih
    refine .cons alone ?_ (ih finished.2)
    cases phase with
    | finished => exact Nat.le_refl 0
    | _ => cases finished.1

/-- A dispatch that has ended well has an answer for each property that was due one. -/
theorem Together.collect (ready : Ready c desired starts)
    (together : Together c ticket desired pauses 0 log starts regs phases) :
    Dispatch.collect phases = .ok (starts.flatMap fun start =>
      (start.handler.reports c log).filter fun r => r.code.isTerminal) ∧
    List.Forall₂ (fun start reg => ∃ result, Task.Served c desired start reg result (start.handler.reports c log))
      starts regs := by
  induction together with
  | nil => exact ⟨rfl, .nil⟩
  | cons alone bounded others ih =>
    obtain ⟨result, rfl, served⟩ := Task.alone_ended (ready.idle _ List.mem_cons_self) alone (Nat.le_zero.mp bounded)
    obtain ⟨collected, all⟩ := ih ready.of_cons
    refine ⟨?_, .cons ⟨result, served⟩ all⟩
    rw [List.flatMap_cons, served.closings]
    cases result with
    | none => simpa [Dispatch.collect] using collected
    | some r => simp [Dispatch.collect, collected, bind, Except.bind, pure, Except.pure]

namespace Dispatcher
variable {d : Dispatcher}

end Dispatcher
end DeviceTwin
