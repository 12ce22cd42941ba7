import DeviceTwin.Proofs.Property.Envelope

/-!
What a task of a dispatch does, one move at a time. The visible parts of its moves are events (`Task.shows`); `Moved`
says once and for all what a move can be, and `step_moved` that a move is one of these. From there a task is followed
to its end: `Stage` ties its phase and the state of its exchange to the events so far, every move keeps it
(`stage_step`), and `Ended` lists the ways in which a task can end.
-/
namespace DeviceTwin

/-! ### What a handler reports -/

/-- What a state becomes when a new desired value comes: an interrupted exchange is forgotten. -/
def ExchangeState.renewed : ExchangeState → ExchangeState
  | .pending _ => .idle
  | state => state

/-- A state that does not answer a version yet lets an exchange for it begin. -/
theorem opensFor_renewed {version : Int64} {state : ExchangeState} (open_ : Task.isAnswered version state = false) :
    Exchange.opensFor version state.renewed = true := by
  cases state with
  | idle => rfl
  | pending _ => rfl
  | terminal code answered =>
    simp only [Task.isAnswered, decide_eq_false_iff_not, Int64.not_le] at open_
    simpa [ExchangeState.renewed, Exchange.opensFor] using open_

theorem isTerminal_closing (o : Outcome) : (Task.closing o).1.isTerminal = true := by
  unfold Task.closing
  split
  · assumption
  · rfl

namespace Handler
variable {c : Convention} {h : Handler} {version : Int64}

/-- The value that a desired set holds for the property of a handler. -/
def wanted (h : Handler) (desired : DesiredSet) : Option Json :=
  desired.property h.property h.component

/-- The patch that answers a value which does not have the shape that the handler wants. -/
def rejection (c : Convention) (h : Handler) (version : Int64) (raw : Json) (e : TwinError) : Except TwinError Patch :=
  c.buildAck h.property (.value raw) .badRequest version (some ("Invalid value: " ++ e.description))
    (componentName? h.component)

/-- The patch that acknowledges a value before the handler runs. -/
def receipt (c : Convention) (h : Handler) (version : Int64) (value : Json) : Except TwinError Patch :=
  c.buildAck h.property (h.shape.datum value) .inProgress version none (componentName? h.component)

/-- The patch that answers a value with an outcome. -/
def answer (c : Convention) (h : Handler) (version : Int64) (o : Outcome) : Except TwinError Patch :=
  c.buildAck h.property (h.shape.datum o.value) (Task.closing o).1 version (Task.closing o).2
    (componentName? h.component)

theorem ack?_rejection {raw : Json} {e : TwinError} {patch : Patch} (built : h.rejection c version raw e = .ok patch) :
    ∃ j, c.serializer.toWire (.value raw) = .ok j ∧
      h.ack? c patch = some ⟨j, .badRequest, version, some ("Invalid value: " ++ e.description)⟩ :=
  ack?_buildAck (componentName?_idempotent _) built

theorem ack?_receipt {value : Json} {patch : Patch} (built : h.receipt c version value = .ok patch) :
    ∃ j, c.serializer.toWire (h.shape.datum value) = .ok j ∧ h.ack? c patch = some ⟨j, .inProgress, version, none⟩ :=
  ack?_buildAck (componentName?_idempotent _) built

theorem ack?_answer {o : Outcome} {patch : Patch} (built : h.answer c version o = .ok patch) :
    ∃ j, c.serializer.toWire (h.shape.datum o.value) = .ok j ∧
      h.ack? c patch = some ⟨j, (Task.closing o).1, version, (Task.closing o).2⟩ :=
  ack?_buildAck (componentName?_idempotent _) built

/-- The end of an exchange, as its dispatch reports it. -/
def summary (h : Handler) (version : Int64) (code : AckCode) (description : Option String) : AckReport :=
  ⟨h.property, componentName? h.component, code, version, description⟩

/-- The exchange of the property of a handler, in some state. -/
def exchangeIn (h : Handler) (state : ExchangeState) : Exchange :=
  ⟨h.property, componentName? h.component, state⟩

theorem reject_exchangeIn {state : ExchangeState} (opens : Exchange.opensFor version state = true) (raw : Json)
    (e : TwinError) :
    (h.exchangeIn state).reject c version (.value raw) ("Invalid value: " ++ e.description) =
      (h.rejection c version raw e).map fun patch => (patch, h.exchangeIn (.terminal .badRequest version)) := by
  simp only [Exchange.reject, rejection, exchangeIn, opens, if_true]
  cases c.buildAck h.property (.value raw) .badRequest version (some ("Invalid value: " ++ e.description))
    (componentName? h.component) <;> rfl

theorem acknowledge_exchangeIn {state : ExchangeState} (opens : Exchange.opensFor version state = true) (value : Json) :
    (h.exchangeIn state).acknowledge c version (h.shape.datum value) =
      (h.receipt c version value).map fun patch => (patch, h.exchangeIn (.pending version)) := by
  simp only [Exchange.acknowledge, receipt, exchangeIn, opens, if_true]
  cases c.buildAck h.property (h.shape.datum value) .inProgress version none (componentName? h.component) <;> rfl

theorem complete_exchangeIn (o : Outcome) :
    (h.exchangeIn (.pending version)).complete c (Task.closing o).1 (h.shape.datum o.value) (Task.closing o).2 =
      (h.answer c version o).map fun patch => (patch, h.exchangeIn (.terminal (Task.closing o).1 version)) := by
  simp only [Exchange.complete, exchangeIn, isTerminal_closing, if_true, answer]
  cases c.buildAck h.property (h.shape.datum o.value) (Task.closing o).1 version (Task.closing o).2
    (componentName? h.component) <;> rfl

end Handler

namespace Registration
variable {reg : Registration}

/-- The exchange is that of the property of the handler. -/
def Sound (reg : Registration) : Prop :=
  reg.exchange = reg.handler.exchangeIn reg.exchange.state

/-- The registration with the exchange of its property in the given state. -/
def inState (reg : Registration) (state : ExchangeState) : Registration :=
  { reg with exchange := reg.handler.exchangeIn state }

@[simp] theorem release_exchange : reg.release.exchange = reg.exchange := rfl

/-- For a new desired value, the exchange is there in its renewed state. -/
theorem renew_eq (sound : reg.Sound) : Task.renew reg = reg.handler.exchangeIn reg.exchange.state.renewed := by
  cases state : reg.exchange.state with
  | pending version => simp [Task.renew, state, ExchangeState.renewed, Exchange.start, Handler.exchangeIn]
  | _ =>
    rw [Registration.Sound, state] at sound
    simpa [Task.renew, state, ExchangeState.renewed] using sound

end Registration

namespace Reporter

/-- The reporter when one more of its calls has begun. -/
def called (rep : Reporter) : Reporter :=
  { rep with calls := rep.calls + 1 }

/-- The reporter with one more patch delivered. -/
def deliver (rep : Reporter) (patch : Patch) : Reporter :=
  { rep with delivered := rep.delivered ++ [patch] }

end Reporter

/-! ### Events -/

/-- What is seen of a task when it moves. -/
inductive Event where
  /-- The task has got hold of the exchange, for a set of this version, and finds it in a state. -/
  | found (state : ExchangeState) (version : Int64)
  /-- The reporter is called with a patch. -/
  | called (patch : Patch)
  /-- A call of the reporter is over. -/
  | settled (patch : Patch) (delivered : Bool)
  /-- The handler is run on a value, after so many earlier runs. -/
  | ran (version : Int64) (run : Nat) (value : Json)

/-- The patch that an event delivers. -/
def Event.delivered? : Event → Option Patch
  | .settled patch true => some patch
  | _ => none

namespace Task

/-- The call of the reporter with which a phase begins. -/
def calling : Phase → List Event
  | .reporting _ _ patch _ => [.called patch]
  | _ => []

/-- What the next move of a task shows. -/
def shows (c : Convention) (ticket : Nat) (desired : DesiredSet) (rep : Reporter) (reg : Registration) :
    Phase → List Event
  | .entering =>
    if (reg.handler.wanted desired).isSome ∧ reg.owner = none then
      .found reg.exchange.state desired.version :: calling (step c ticket desired rep reg .entering).phase
    else []
  | .queued =>
    if (reg.handler.wanted desired).isSome ∧ reg.owner = some ticket then
      .found reg.exchange.state desired.version :: calling (step c ticket desired rep reg .queued).phase
    else []
  | .reporting (_ + 1) _ _ _ => []
  | .reporting 0 index patch next =>
    match rep.refusal index, next with
    | some _, _ => [.settled patch false]
    | none, .apply value => [.settled patch true, .ran desired.version reg.calls value]
    | none, .finish _ => [.settled patch true]
  | .applying (_ + 1) _ => []
  | .applying 0 o => calling (step c ticket desired rep reg (.applying 0 o)).phase
  | .finished _ => []

/-! ### Moves -/

/-- What a task can do with the value `raw` once it holds the exchange. -/
inductive Opened (c : Convention) (desired : DesiredSet) (raw : Json) (rep : Reporter) (reg : Registration) :
    Move → List Event → Prop where
  | skipped (answered : isAnswered desired.version reg.exchange.state = true) :
      Opened c desired raw rep reg ⟨rep, reg.release, .finished (.ok none), false⟩
        [.found reg.exchange.state desired.version]
  | unrejected {e failure : TwinError} (open_ : isAnswered desired.version reg.exchange.state = false)
      (malformed : c.serializer.ofWire reg.handler.shape.schema raw = .error e)
      (failed : reg.handler.rejection c desired.version raw e = .error failure) :
      Opened c desired raw rep reg
        ⟨rep, (reg.inState reg.exchange.state.renewed).release, .finished (.error (.twin failure)), false⟩
        [.found reg.exchange.state desired.version]
  | unacknowledged {value : Json} {failure : TwinError}
      (open_ : isAnswered desired.version reg.exchange.state = false)
      (converts : c.serializer.ofWire reg.handler.shape.schema raw = .ok value)
      (failed : reg.handler.receipt c desired.version value = .error failure) :
      Opened c desired raw rep reg
        ⟨rep, (reg.inState reg.exchange.state.renewed).release, .finished (.error (.twin failure)), false⟩
        [.found reg.exchange.state desired.version]
  | rejects {e : TwinError} {patch : Patch} (open_ : isAnswered desired.version reg.exchange.state = false)
      (malformed : c.serializer.ofWire reg.handler.shape.schema raw = .error e)
      (built : reg.handler.rejection c desired.version raw e = .ok patch) :
      Opened c desired raw rep reg
        ⟨rep.called, reg.inState (.terminal .badRequest desired.version),
          .reporting rep.pauses rep.calls patch (.finish (reg.handler.summary desired.version .badRequest
            (some ("Invalid value: " ++ e.description)))), true⟩
        [.found reg.exchange.state desired.version, .called patch]
  | acknowledges {value : Json} {patch : Patch} (open_ : isAnswered desired.version reg.exchange.state = false)
      (converts : c.serializer.ofWire reg.handler.shape.schema raw = .ok value)
      (built : reg.handler.receipt c desired.version value = .ok patch) :
      Opened c desired raw rep reg
        ⟨rep.called, reg.inState (.pending desired.version), .reporting rep.pauses rep.calls patch (.apply value), true⟩
        [.found reg.exchange.state desired.version, .called patch]

/-- What a move of a task can be. -/
inductive Moved (c : Convention) (ticket : Nat) (desired : DesiredSet) (rep : Reporter) (reg : Registration) :
    Phase → Move → List Event → Prop where
  | absent (unwanted : reg.handler.wanted desired = none) :
      Moved c ticket desired rep reg .entering ⟨rep, reg, .finished (.ok none), false⟩ []
  | queues {raw : Json} {holder : Nat} (wants : reg.handler.wanted desired = some raw)
      (held : reg.owner = some holder) :
      Moved c ticket desired rep reg .entering ⟨rep, { reg with waiting := reg.waiting ++ [ticket] }, .queued, false⟩ []
  | opens {raw : Json} {m : Move} {events : List Event} (wants : reg.handler.wanted desired = some raw)
      (free : reg.owner = none) (opened : Opened c desired raw rep { reg with owner := some ticket } m events) :
      Moved c ticket desired rep reg .entering m events
  | waits (held : reg.owner ≠ some ticket) : Moved c ticket desired rep reg .queued ⟨rep, reg, .queued, false⟩ []
  | leaves (unwanted : reg.handler.wanted desired = none) (held : reg.owner = some ticket) :
      Moved c ticket desired rep reg .queued ⟨rep, reg.release, .finished (.ok none), false⟩ []
  | opensLate {raw : Json} {m : Move} {events : List Event} (wants : reg.handler.wanted desired = some raw)
      (held : reg.owner = some ticket) (opened : Opened c desired raw rep reg m events) :
      Moved c ticket desired rep reg .queued m events
  | pauses (n index : Nat) (patch : Patch) (next : Next) :
      Moved c ticket desired rep reg (.reporting (n + 1) index patch next)
        ⟨rep, reg, .reporting n index patch next, false⟩ []
  | refused {index : Nat} {patch : Patch} {next : Next} {reason : String}
      (refusal : rep.refusal index = some reason) :
      Moved c ticket desired rep reg (.reporting 0 index patch next)
        ⟨rep, reg.release, .finished (.error (.undelivered reason)), false⟩ [.settled patch false]
  | applies {index : Nat} {patch : Patch} {value : Json} (accepted : rep.refusal index = none) :
      Moved c ticket desired rep reg (.reporting 0 index patch (.apply value))
        ⟨rep.deliver patch, { reg with calls := reg.calls + 1 },
          .applying reg.handler.pauses (reg.handler.respond reg.calls value), true⟩
        [.settled patch true, .ran desired.version reg.calls value]
  | finishes {index : Nat} {patch : Patch} {r : AckReport} (accepted : rep.refusal index = none) :
      Moved c ticket desired rep reg (.reporting 0 index patch (.finish r))
        ⟨rep.deliver patch, reg.release, .finished (.ok (some r)), false⟩ [.settled patch true]
  | works (n : Nat) (o : Outcome) :
      Moved c ticket desired rep reg (.applying (n + 1) o) ⟨rep, reg, .applying n o, false⟩ []
  | unanswered {o : Outcome} {failure : TwinError}
      (failed : reg.handler.answer c desired.version o = .error failure) :
      Moved c ticket desired rep reg (.applying 0 o) ⟨rep, reg.release, .finished (.error (.twin failure)), false⟩ []
  | answers {o : Outcome} {patch : Patch} (built : reg.handler.answer c desired.version o = .ok patch) :
      Moved c ticket desired rep reg (.applying 0 o)
        ⟨rep.called, reg.inState (.terminal (closing o).1 desired.version),
          .reporting rep.pauses rep.calls patch (.finish (reg.handler.summary desired.version (closing o).1
            (closing o).2)), true⟩
        [.called patch]
  | rests (r : Except DeviceError (Option AckReport)) :
      Moved c ticket desired rep reg (.finished r) ⟨rep, reg, .finished r, false⟩ []

variable {c : Convention} {ticket : Nat} {desired : DesiredSet} {rep : Reporter} {reg : Registration}

theorem open_opened (sound : reg.Sound) (raw : Json) :
    Opened c desired raw rep reg (open_ c rep reg desired.version raw)
      (.found reg.exchange.state desired.version :: calling (open_ c rep reg desired.version raw).phase) := by
  have renewed := Registration.renew_eq sound
  unfold open_
  cases answered : isAnswered desired.version reg.exchange.state with
  | true => exact .skipped answered
  | false =>
    have opens := opensFor_renewed answered
    simp only [Bool.false_eq_true, if_false]
    cases converted : c.serializer.ofWire reg.handler.shape.schema raw with
    | error e =>
      simp only [reject, renewed, Handler.reject_exchangeIn opens]
      cases built : reg.handler.rejection c desired.version raw e with
      | error failure => exact .unrejected answered converted built
      | ok patch => exact .rejects answered converted built
    | ok value =>
      simp only [acknowledge, renewed, Handler.acknowledge_exchangeIn opens]
      cases built : reg.handler.receipt c desired.version value with
      | error failure => exact .unacknowledged answered converted built
      | ok patch => exact .acknowledges answered converted built

/-- A phase in which the handler works, or has worked, belongs to an exchange that is pending. -/
def Applies (version : Int64) (state : ExchangeState) : Phase → Prop
  | .applying _ _ => state = .pending version
  | _ => True

/-- Every move of a task is one of the moves above, and shows what it says. -/
theorem step_moved (sound : reg.Sound) {phase : Phase} (applies : Applies desired.version reg.exchange.state phase) :
    Moved c ticket desired rep reg phase (step c ticket desired rep reg phase)
      (shows c ticket desired rep reg phase) := by
  cases phase with
  | entering =>
    cases wants : reg.handler.wanted desired with
    | none =>
      simp only [Handler.wanted] at wants
      simp only [step, shows, Handler.wanted, wants]
      exact .absent wants
    | some raw =>
      have wanted := wants
      simp only [Handler.wanted] at wanted
      cases held : reg.owner with
      | some holder =>
        have moved : step c ticket desired rep reg .entering =
            ⟨rep, { reg with waiting := reg.waiting ++ [ticket] }, .queued, false⟩ := by
          simp [step, wanted, held]
        have quiet : shows c ticket desired rep reg .entering = [] := by simp [shows, held]
        rw [moved, quiet]
        exact .queues wants held
      | none =>
        have owned : { reg with owner := some ticket : Registration }.Sound := sound
        simp only [step, shows, wants, wanted, held, Option.isSome_some, and_self, if_true]
        exact .opens wants held (open_opened owned raw)
  | queued =>
    by_cases held : reg.owner = some ticket
    · cases wants : reg.handler.wanted desired with
      | none =>
        simp only [Handler.wanted] at wants
        simp only [step, shows, Handler.wanted, wants, held, if_true]
        exact .leaves wants held
      | some raw =>
        have wanted := wants
        simp only [Handler.wanted] at wanted
        simp only [step, shows, wants, wanted, held, Option.isSome_some, and_self, if_true]
        exact .opensLate wants held (open_opened sound raw)
    · simp only [step, shows, held, and_false, if_false]
      exact .waits held
  | reporting pauses index patch next =>
    cases pauses with
    | succ n => exact .pauses n index patch next
    | zero =>
      cases refusal : rep.refusal index with
      | some reason =>
        simp only [step, shows, Reporter.settle, refusal]
        exact .refused refusal
      | none =>
        cases next with
        | apply value =>
          simp only [step, shows, Reporter.settle, refusal]
          exact .applies refusal
        | finish r =>
          simp only [step, shows, Reporter.settle, refusal]
          exact .finishes refusal
  | applying pauses o =>
    cases pauses with
    | succ n => exact .works n o
    | zero =>
      have pending : reg.exchange.state = .pending desired.version := applies
      have exchange : reg.exchange = reg.handler.exchangeIn (.pending desired.version) := by
        rw [← pending]
        exact sound
      simp only [step, shows, close, exchange, Handler.complete_exchangeIn]
      cases built : reg.handler.answer c desired.version o with
      | error failure => exact .unanswered built
      | ok patch => exact .answers built
  | finished r => exact .rests r

/-! ### From the beginning of a task to its end -/

/-- A set holds a value for a handler that is not answered in some state, and the value is malformed. -/
structure Malformed (c : Convention) (h : Handler) (desired : DesiredSet) (state : ExchangeState) (raw : Json)
    (e : TwinError) : Prop where
  wants : h.wanted desired = some raw
  open_ : isAnswered desired.version state = false
  malformed : c.serializer.ofWire h.shape.schema raw = .error e

/-- A set holds a value for a handler that is not answered in some state, and that converts to `value`. -/
structure Converted (c : Convention) (h : Handler) (desired : DesiredSet) (state : ExchangeState) (raw value : Json) :
    Prop where
  wants : h.wanted desired = some raw
  open_ : isAnswered desired.version state = false
  converts : c.serializer.ofWire h.shape.schema raw = .ok value

/-- What a task has shown when its first call of the reporter has begun. -/
def began (state : ExchangeState) (version : Int64) (patch : Patch) : List Event :=
  [.found state version, .called patch]

/-- What a task has shown when its handler has run. -/
def worked (state : ExchangeState) (version : Int64) (patch : Patch) (run : Nat) (value : Json) : List Event :=
  began state version patch ++ [.settled patch true, .ran version run value]

/-- How a task ends, and what it has shown until then. -/
inductive Ended (c : Convention) (h : Handler) (desired : DesiredSet) :
    Except DeviceError (Option AckReport) → List Event → Prop where
  | absent (unwanted : h.wanted desired = none) : Ended c h desired (.ok none) []
  | skipped {state : ExchangeState} {raw : Json} (wants : h.wanted desired = some raw)
      (answered : isAnswered desired.version state = true) :
      Ended c h desired (.ok none) [.found state desired.version]
  | unrejected {state : ExchangeState} {raw : Json} {e failure : TwinError} (bad : Malformed c h desired state raw e)
      (failed : h.rejection c desired.version raw e = .error failure) :
      Ended c h desired (.error (.twin failure)) [.found state desired.version]
  | rejectionLost {state : ExchangeState} {raw : Json} {e : TwinError} {patch : Patch} (reason : String)
      (bad : Malformed c h desired state raw e) (built : h.rejection c desired.version raw e = .ok patch) :
      Ended c h desired (.error (.undelivered reason)) (began state desired.version patch ++ [.settled patch false])
  | rejected {state : ExchangeState} {raw : Json} {e : TwinError} {patch : Patch}
      (bad : Malformed c h desired state raw e) (built : h.rejection c desired.version raw e = .ok patch) :
      Ended c h desired (.ok (some (h.summary desired.version .badRequest (some ("Invalid value: " ++ e.description)))))
        (began state desired.version patch ++ [.settled patch true])
  | unacknowledged {state : ExchangeState} {raw value : Json} {failure : TwinError}
      (good : Converted c h desired state raw value) (failed : h.receipt c desired.version value = .error failure) :
      Ended c h desired (.error (.twin failure)) [.found state desired.version]
  | receiptLost {state : ExchangeState} {raw value : Json} {patch : Patch} (reason : String)
      (good : Converted c h desired state raw value) (built : h.receipt c desired.version value = .ok patch) :
      Ended c h desired (.error (.undelivered reason)) (began state desired.version patch ++ [.settled patch false])
  | unanswered {state : ExchangeState} {raw value : Json} {patch : Patch} {run : Nat} {failure : TwinError}
      (good : Converted c h desired state raw value) (built : h.receipt c desired.version value = .ok patch)
      (failed : h.answer c desired.version (h.respond run value) = .error failure) :
      Ended c h desired (.error (.twin failure)) (worked state desired.version patch run value)
  | answerLost {state : ExchangeState} {raw value : Json} {patch last : Patch} {run : Nat} (reason : String)
      (good : Converted c h desired state raw value) (built : h.receipt c desired.version value = .ok patch)
      (closed : h.answer c desired.version (h.respond run value) = .ok last) :
      Ended c h desired (.error (.undelivered reason))
        (worked state desired.version patch run value ++ [.called last, .settled last false])
  | answered {state : ExchangeState} {raw value : Json} {patch last : Patch} {run : Nat}
      (good : Converted c h desired state raw value) (built : h.receipt c desired.version value = .ok patch)
      (closed : h.answer c desired.version (h.respond run value) = .ok last) :
      Ended c h desired
        (.ok (some (h.summary desired.version (closing (h.respond run value)).1 (closing (h.respond run value)).2)))
        (worked state desired.version patch run value ++ [.called last, .settled last true])

/-- Where a task stands when the exchange of its property is in the given state and it has shown the given events. -/
inductive Stage (c : Convention) (h : Handler) (desired : DesiredSet) : ExchangeState → Phase → List Event → Prop where
  | entering (state : ExchangeState) : Stage c h desired state .entering []
  | queued (state : ExchangeState) : Stage c h desired state .queued []
  | rejecting {state : ExchangeState} {raw : Json} {e : TwinError} {patch : Patch} (pauses index : Nat)
      (bad : Malformed c h desired state raw e) (built : h.rejection c desired.version raw e = .ok patch) :
      Stage c h desired (.terminal .badRequest desired.version)
        (.reporting pauses index patch (.finish
          (h.summary desired.version .badRequest (some ("Invalid value: " ++ e.description)))))
        (began state desired.version patch)
  | acknowledging {state : ExchangeState} {raw value : Json} {patch : Patch} (pauses index : Nat)
      (good : Converted c h desired state raw value) (built : h.receipt c desired.version value = .ok patch) :
      Stage c h desired (.pending desired.version) (.reporting pauses index patch (.apply value))
        (began state desired.version patch)
  | applying {state : ExchangeState} {raw value : Json} {patch : Patch} (pauses run : Nat)
      (good : Converted c h desired state raw value) (built : h.receipt c desired.version value = .ok patch) :
      Stage c h desired (.pending desired.version) (.applying pauses (h.respond run value))
        (worked state desired.version patch run value)
  | answering {state : ExchangeState} {raw value : Json} {patch last : Patch} {run : Nat} (pauses index : Nat)
      (good : Converted c h desired state raw value) (built : h.receipt c desired.version value = .ok patch)
      (closed : h.answer c desired.version (h.respond run value) = .ok last) :
      Stage c h desired (.terminal (closing (h.respond run value)).1 desired.version)
        (.reporting pauses index last (.finish (h.summary desired.version (closing (h.respond run value)).1
          (closing (h.respond run value)).2)))
        (worked state desired.version patch run value ++ [.called last])
  | finished (state : ExchangeState) {r : Except DeviceError (Option AckReport)} {events : List Event}
      (ended : Ended c h desired r events) : Stage c h desired state (.finished r) events

theorem Stage.applies {h : Handler} {state : ExchangeState} {phase : Phase} {trace : List Event}
    (stage : Stage c h desired state phase trace) : Applies desired.version state phase := by
  cases stage with
  | applying => rfl
  | _ => trivial

theorem Stage.ended {h : Handler} {state : ExchangeState} {r : Except DeviceError (Option AckReport)}
    {trace : List Event} (stage : Stage c h desired state (.finished r) trace) : Ended c h desired r trace := by
  cases stage with
  | finished _ ended => exact ended

variable {phase : Phase} {m : Move} {trace events : List Event}

/-- A task that gets hold of the exchange stands where it should after its first move. -/
theorem stage_opened {h : Handler} {raw : Json} (wants : h.wanted desired = some raw) (same : h = reg.handler)
    (opened : Opened c desired raw rep reg m events) :
    Stage c h desired m.registration.exchange.state m.phase events := by
  subst same
  cases opened with
  | skipped answered => exact .finished _ (.skipped wants answered)
  | unrejected open_ malformed failed => exact .finished _ (.unrejected ⟨wants, open_, malformed⟩ failed)
  | unacknowledged open_ converts failed => exact .finished _ (.unacknowledged ⟨wants, open_, converts⟩ failed)
  | rejects open_ malformed built => exact .rejecting _ _ ⟨wants, open_, malformed⟩ built
  | acknowledges open_ converts built => exact .acknowledging _ _ ⟨wants, open_, converts⟩ built

/-- A task stands after a move where it should. -/
theorem stage_step (stage : Stage c reg.handler desired reg.exchange.state phase trace)
    (moved : Moved c ticket desired rep reg phase m events) :
    Stage c reg.handler desired m.registration.exchange.state m.phase (trace ++ events) := by
  generalize current : reg.exchange.state = state at stage
  cases stage with
  | entering =>
    cases moved with
    | absent unwanted => exact .finished _ (.absent unwanted)
    | queues wants held => exact .queued _
    | opens wants free opened => exact stage_opened wants (by rfl) opened
  | queued =>
    cases moved with
    | waits held => exact .queued _
    | leaves unwanted held => exact .finished _ (.absent unwanted)
    | opensLate wants held opened => exact stage_opened wants rfl opened
  | rejecting pauses index bad built =>
    cases moved with
    | pauses n => simpa [current] using .rejecting n index bad built
    | refused refusal => exact .finished _ (.rejectionLost _ bad built)
    | finishes accepted => exact .finished _ (.rejected bad built)
  | acknowledging pauses index good built =>
    cases moved with
    | pauses n => simpa [current] using .acknowledging n index good built
    | refused refusal => exact .finished _ (.receiptLost _ good built)
    | applies accepted => simpa [current] using .applying reg.handler.pauses reg.calls good built
  | applying pauses run good built =>
    cases moved with
    | works n => simpa [current] using .applying n run good built
    | unanswered failed => simpa using Stage.finished _ (.unanswered good built failed)
    | answers closed => exact .answering _ _ good built closed
  | answering pauses index good built closed =>
    cases moved with
    | pauses n => simpa [current] using .answering n index good built closed
    | refused refusal => simpa using Stage.finished _ (.answerLost _ good built closed)
    | finishes accepted => simpa using Stage.finished _ (.answered good built closed)
  | finished _ ended =>
    cases moved with
    | rests r => simpa using Stage.finished _ ended

/-! ### What a move leaves alone -/

/-- A task in this phase has hold of the exchange. -/
def Holds : Phase → Prop
  | .reporting _ _ _ _ => True
  | .applying _ _ => True
  | _ => False

/-- Where a task stands without a hold of the exchange does not depend on the exchange. -/
theorem Stage.free {h : Handler} {state : ExchangeState} (stage : Stage c h desired state phase trace)
    (free : ¬ Holds phase) (other : ExchangeState) : Stage c h desired other phase trace := by
  cases stage with
  | entering => exact .entering other
  | queued => exact .queued other
  | finished _ ended => exact .finished other ended
  | _ => exact absurd trivial free

theorem moved_handler (moved : Moved c ticket desired rep reg phase m events) :
    m.registration.handler = reg.handler := by
  cases moved with
  | opens wants free opened => cases opened <;> rfl
  | opensLate wants held opened => cases opened <;> rfl
  | _ => rfl

theorem moved_sound (sound : reg.Sound) (moved : Moved c ticket desired rep reg phase m events) :
    m.registration.Sound := by
  cases moved with
  | opens wants free opened =>
    cases opened with
    | skipped => exact sound
    | _ => rfl
  | opensLate wants held opened =>
    cases opened with
    | skipped => exact sound
    | _ => rfl
  | answers built => rfl
  | _ => exact sound

/-- Delivered is what the events of a move deliver; besides, only calls of the reporter are counted. -/
theorem moved_reporter (moved : Moved c ticket desired rep reg phase m events) :
    m.reporter.delivered = rep.delivered ++ events.filterMap Event.delivered? ∧ m.reporter.refusal = rep.refusal ∧
      m.reporter.pauses = rep.pauses := by
  cases moved with
  | opens wants free opened => cases opened <;> simp [Reporter.called, Event.delivered?]
  | opensLate wants held opened => cases opened <;> simp [Reporter.called, Event.delivered?]
  | _ => simp [Reporter.called, Reporter.deliver, Event.delivered?]

/-- A task that holds the exchange after a move is its owner. -/
theorem moved_owner (owns : Holds phase → reg.owner = some ticket)
    (moved : Moved c ticket desired rep reg phase m events) (holds : Holds m.phase) :
    m.registration.owner = some ticket := by
  cases moved with
  | opens wants free opened => cases opened <;> first | rfl | exact holds.elim
  | opensLate wants held opened => cases opened <;> first | exact held | exact holds.elim
  | pauses => exact owns trivial
  | applies => exact owns trivial
  | works => exact owns trivial
  | answers => exact owns trivial
  | _ => exact holds.elim

/-- A move of a task does not touch an exchange that another one owns. -/
theorem moved_owned_by_other {holder : Nat} (owns : Holds phase → reg.owner = some ticket)
    (owned : reg.owner = some holder) (other : holder ≠ ticket)
    (moved : Moved c ticket desired rep reg phase m events) :
    m.registration.owner = some holder ∧ m.registration.exchange = reg.exchange := by
  have notOwner : reg.owner ≠ some ticket := by
    intro same
    rw [owned] at same
    exact other (Option.some.inj same)
  have free : ¬ Holds phase := fun holds => notOwner (owns holds)
  cases moved with
  | absent => exact ⟨owned, rfl⟩
  | queues => exact ⟨owned, rfl⟩
  | waits => exact ⟨owned, rfl⟩
  | rests => exact ⟨owned, rfl⟩
  | opens wants none _ => simp [owned] at none
  | opensLate wants held _ => exact absurd held notOwner
  | leaves unwanted held => exact absurd held notOwner
  | _ => exact absurd trivial free

end Task
end DeviceTwin
