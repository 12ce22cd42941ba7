import DeviceTwin.Proofs.Property.Protocol

/-!
Refused calls of an exchange. The calls are made here in place, each on the exchange that the one before has left: a
call looks at the state, builds its patch, and moves the exchange last (`ExchangeCall.perform`). Giving up undoes
nothing, so that a refused call leaves no trace only because nothing has been moved before (`perform_eq`). A run of
calls is then the run of the accepted ones among them, and whether a call is accepted depends on the state, the property
and the value (`Exchange.refusals_invisible`).
-/
namespace DeviceTwin

/-! ### Calls in place -/

/-- A program on an exchange. Where it gives up, the exchange stays as it is then. -/
abbrev ExchangeM : Type → Type := ExceptT TwinError (StateM Exchange)

namespace ExchangeM
variable {α β : Type}

/-- What a program gives, and the exchange that it leaves. -/
def runOn (x : Exchange) (m : ExchangeM α) : Except TwinError α × Exchange :=
  StateT.run (ExceptT.run m) x

theorem runOn_bind (x : Exchange) (m : ExchangeM α) (f : α → ExchangeM β) :
    runOn x (m >>= f) = match runOn x m with
      | (.ok a, x') => runOn x' (f a)
      | (.error e, x') => (.error e, x') := by
  simp only [runOn, ExceptT.run_bind, StateT.run_bind]
  rcases StateT.run (ExceptT.run m) x with ⟨_ | _, _⟩
  · rfl
  · rfl

@[simp] theorem runOn_get (x : Exchange) : runOn x (get : ExchangeM Exchange) = (.ok x, x) := rfl

@[simp] theorem runOn_pure (x : Exchange) (a : α) : runOn x (pure a : ExchangeM α) = (.ok a, x) := rfl

@[simp] theorem runOn_throw (x : Exchange) (e : TwinError) : runOn x (throw e : ExchangeM α) = (.error e, x) := rfl

@[simp] theorem runOn_ofExcept (x : Exchange) (r : Except TwinError α) :
    runOn x (MonadExcept.ofExcept r : ExchangeM α) = (r, x) := by
  cases r <;> rfl

end ExchangeM

namespace Exchange
open ExchangeM

/-- Goes on from a state that is open for a version. -/
def requireOpen (action : ExchangeAction) (version : Int64) : ExchangeM Unit := do
  let x ← get
  unless opensFor version x.state do throw (.refusedAction action x.property x.state)

/-- The version that waits for its answer. -/
def requirePending : ExchangeM Int64 := do
  let x ← get
  match x.state with
  | .pending version => return version
  | state => throw (.refusedAction .complete x.property state)

/-- Builds the patch of an acknowledgement, then moves the exchange. -/
def emit (c : Convention) (value : Datum) (code : AckCode) (version : Int64) (description : Option String)
    (state : ExchangeState) : ExchangeM Patch := do
  let x ← get
  let patch ← MonadExcept.ofExcept (c.buildAck x.property value code version description x.component)
  set { x with state }
  return patch

def acknowledging (c : Convention) (version : Int64) (value : Datum) : ExchangeM Patch := do
  requireOpen (.acknowledge version) version
  emit c value .inProgress version none (.pending version)

def completing (c : Convention) (code : AckCode) (value : Datum) (description : Option String) : ExchangeM Patch := do
  let version ← requirePending
  unless code.isTerminal do throw (.openCode code (← get).property)
  emit c value code version description (.terminal code version)

def rejecting (c : Convention) (version : Int64) (value : Datum) (description : String) : ExchangeM Patch := do
  requireOpen (.reject version) version
  emit c value .badRequest version (some description) (.terminal .badRequest version)

end Exchange

/-- The call as a program. -/
def ExchangeCall.program : ExchangeCall → ExchangeM Patch
  | .acknowledge c version value => Exchange.acknowledging c version value
  | .complete c code value description => Exchange.completing c code value description
  | .reject c version value description => Exchange.rejecting c version value description

/-- Makes a call on an exchange. -/
def ExchangeCall.perform (x : Exchange) (call : ExchangeCall) : Except TwinError Patch × Exchange :=
  call.program.runOn x

/-- Makes calls, each on the exchange that the one before has left. -/
def Exchange.performAll (x : Exchange) : List ExchangeCall → List (Except TwinError Patch) × Exchange
  | [] => ([], x)
  | call :: calls =>
    let rest := (call.perform x).2.performAll calls
    ((call.perform x).1 :: rest.1, rest.2)

/-! ### One call -/

namespace Exchange
open ExchangeM
variable {x : Exchange} {c : Convention} {value : Datum} {code : AckCode} {version : Int64}
  {description : Option String} {state : ExchangeState}

/-- What a call gives and leaves on an exchange, if it gives a patch along with the moved exchange. -/
def settle (x : Exchange) : Except TwinError (Patch × Exchange) → Except TwinError Patch × Exchange
  | .error e => (.error e, x)
  | .ok (patch, x') => (.ok patch, x')

/-- The exchange is moved only if its patch is built. -/
theorem emit_eq (x : Exchange) : runOn x (emit c value code version description state) =
    x.settle (do
      let patch ← c.buildAck x.property value code version description x.component
      return (patch, { x with state })) := by
  simp only [emit, runOn_bind, runOn_get, runOn_ofExcept]
  cases c.buildAck x.property value code version description x.component <;> rfl

theorem requireOpen_eq (x : Exchange) (action : ExchangeAction) :
    runOn x (requireOpen action version) =
      (if opensFor version x.state then .ok () else .error (.refusedAction action x.property x.state), x) := by
  simp only [requireOpen, runOn_bind, runOn_get]
  by_cases opens : opensFor version x.state = true
  · simp [opens]
  · simp [opens]

theorem opening_eq (x : Exchange) (action : ExchangeAction) :
    runOn x (do requireOpen action version; emit c value code version description state) =
      x.settle (do
        if opensFor version x.state then
          let patch ← c.buildAck x.property value code version description x.component
          return (patch, { x with state })
        else throw (.refusedAction action x.property x.state)) := by
  rw [runOn_bind, requireOpen_eq]
  by_cases opens : opensFor version x.state = true
  · rw [if_pos opens, if_pos opens]
    exact emit_eq x
  · rw [if_neg opens, if_neg opens]
    rfl

theorem completing_eq (x : Exchange) :
    runOn x (completing c code value description) = x.settle (x.complete c code value description) := by
  obtain ⟨property, component, state⟩ := x
  cases state with
  | idle => rfl
  | terminal answered version => rfl
  | pending version =>
    simp only [completing, requirePending, runOn_bind, runOn_get, runOn_pure, complete]
    by_cases terminal : code.isTerminal = true
    · simp only [terminal, if_true]
      exact emit_eq _
    · simp only [terminal]
      rfl

end Exchange

namespace ExchangeCall
open ExchangeM
variable {x : Exchange} {call : ExchangeCall}

/-- A call that is refused leaves the exchange as it is, an accepted one leaves what it has made of it. -/
theorem perform_eq (x : Exchange) (call : ExchangeCall) : call.perform x = x.settle (call.apply x) := by
  cases call with
  | acknowledge c version value => exact Exchange.opening_eq x _
  | complete c code value description => exact Exchange.completing_eq x
  | reject c version value description => exact Exchange.opening_eq x _

theorem perform_refused {e : TwinError} (refused : (call.perform x).1 = .error e) : (call.perform x).2 = x := by
  rw [perform_eq] at refused ⊢
  cases applied : call.apply x with
  | error e => rfl
  | ok r =>
    rw [applied] at refused
    cases refused

theorem perform_isOk_iff : (call.perform x).1.isOk = true ↔ ∃ r, call.apply x = .ok r := by
  rw [perform_eq]
  cases call.apply x with
  | error e => simp [Exchange.settle, Except.isOk, Except.toBool]
  | ok r => simp [Exchange.settle, Except.isOk, Except.toBool]

/-- The transition of a call is allowed: an exchange may be opened from the start or after an older answer, and closed
    with a terminal code while it is pending. -/
def Allowed (state : ExchangeState) : ExchangeCall → Prop
  | .acknowledge _ version _ | .reject _ version _ _ =>
    state = .idle ∨ ∃ code answered, state = .terminal code answered ∧ answered < version
  | .complete _ code _ _ => (∃ version, state = .pending version) ∧ code.isTerminal = true

theorem opensFor_iff {version : Int64} {state : ExchangeState} : Exchange.opensFor version state = true ↔
    state = .idle ∨ ∃ code answered, state = .terminal code answered ∧ answered < version := by
  cases state with
  | idle => simp [Exchange.opensFor]
  | pending v => simp [Exchange.opensFor]
  | terminal code answered => simp [Exchange.opensFor]

theorem suits_iff_allowed {state : ExchangeState} : call.suits state = true ↔ call.Allowed state := by
  cases call with
  | acknowledge c version value => exact opensFor_iff
  | reject c version value description => exact opensFor_iff
  | complete c code value description =>
    rw [suits, Bool.and_eq_true, and_comm]
    refine and_congr_left fun _ => ?_
    cases state <;> simp [ExchangeState.isPending]

end ExchangeCall

/-! ### Runs -/

namespace Exchange

/-- The calls that are accepted, by the results of all of them. -/
def accepted (calls : List ExchangeCall) (results : List (Except TwinError Patch)) : List ExchangeCall :=
  ((calls.zip results).filter fun r => r.2.isOk).map (·.1)

/-- Without the calls that are refused, the others give what they have given, and the exchange ends as it has ended. -/
theorem performAll_accepted (x : Exchange) (calls : List ExchangeCall) :
    x.performAll (accepted calls (x.performAll calls).1) =
      ((x.performAll calls).1.filter Except.isOk, (x.performAll calls).2) := by
  induction calls generalizing x with
  | nil => rfl
  | cons call calls ih =>
    cases result : (call.perform x).1 with
    | error e =>
      have same := ExchangeCall.perform_refused result
      have skipped : accepted (call :: calls) (x.performAll (call :: calls)).1 =
          accepted calls (x.performAll calls).1 := by
        simp [accepted, performAll, result, same, Except.isOk, Except.toBool]
      rw [skipped, ih, performAll, result, same, List.filter_cons_of_neg Bool.false_ne_true]
    | ok patch =>
      have kept : accepted (call :: calls) (x.performAll (call :: calls)).1 =
          call :: accepted calls ((call.perform x).2.performAll calls).1 := by
        simp [accepted, performAll, result, Except.isOk, Except.toBool]
      rw [kept, performAll, ih, performAll, result, List.filter_cons_of_pos rfl]

/-- Calls in place give the patches of `Exchange.run`, and leave its exchange. -/
theorem run_eq_performAll (x : Exchange) (calls : List ExchangeCall) :
    ((x.run calls).2.map (·.2), (x.run calls).1) =
      ((x.performAll calls).1.filterMap Except.toOption, (x.performAll calls).2) := by
  induction calls generalizing x with
  | nil => rfl
  | cons call calls ih =>
    rw [performAll, run, ExchangeCall.perform_eq]
    cases call.apply x with
    | error e => exact ih x
    | ok r =>
      obtain ⟨patch, x'⟩ := r
      have rest := ih x'
      simp only [Prod.mk.injEq] at rest
      simp [settle, Except.toOption, rest]

/-- A call that is refused leaves any exchange as it was. In a run of calls, those that are refused can be left out: the
    others give the same patches, and the exchange ends in the same state. A call is accepted exactly if its transition
    is allowed, the property has a name that is not reserved, and the value can be written. -/
theorem refusals_invisible (x : Exchange) (calls : List ExchangeCall) :
    (∀ call e, (ExchangeCall.perform x call).1 = .error e → (call.perform x).2 = x) ∧
      x.performAll (accepted calls (x.performAll calls).1) =
        ((x.performAll calls).1.filter Except.isOk, (x.performAll calls).2) ∧
      ∀ call, (ExchangeCall.perform x call).1.isOk = true ↔
        call.Allowed x.state ∧ (x.property ≠ "" ∧ x.property ≠ markerKey) ∧
          ∃ j, call.convention.serializer.toWire call.value = .ok j := by
  refine ⟨fun call e => ExchangeCall.perform_refused, performAll_accepted x calls, fun call => ?_⟩
  rw [ExchangeCall.perform_isOk_iff, ExchangeCall.apply_ok_iff, ExchangeCall.suits_iff_allowed, checkName_ok_iff]

end Exchange
end DeviceTwin
