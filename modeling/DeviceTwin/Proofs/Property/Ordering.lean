import DeviceTwin.Proofs.Property.Delivery

/-!
The order of what one task does: whatever state it finds the exchange in, and whichever reports fail, it shows nothing,
or rejects a value, or acknowledges a value before its handler runs on it once and answers it after that
(`orderly_task`). No step of an exchange is refused on the way.
-/
namespace DeviceTwin

/-- The calls of the reporter and the runs of the handler among some events. -/
def workOf (events : List Event) : List Event :=
  events.filter fun
    | .found _ _ => false
    | _ => true

/-- A patch acknowledges a version of a property with a code. -/
def Acknowledges (c : Convention) (h : Handler) (patch : Patch) (code : AckCode) (version : Int64) : Prop :=
  ∃ ack, h.ack? c patch = some ack ∧ ack.code = code ∧ ack.version = version

/-- The work of a task for a version, as far as it has come: the last call may be under way. -/
inductive Orderly (c : Convention) (h : Handler) (version : Int64) : List Event → Prop where
  | nothing : Orderly c h version []
  | rejects {patch : Patch} (rejection : Acknowledges c h patch .badRequest version) (reply : Option Bool) :
      Orderly c h version (.called patch :: ending patch reply)
  | unreceived {patch : Patch} (receipt : Acknowledges c h patch .inProgress version) (reply : Option Bool)
      (undelivered : reply ≠ some true) : Orderly c h version (.called patch :: ending patch reply)
  | runs {patch : Patch} (receipt : Acknowledges c h patch .inProgress version) (run : Nat) (value : Json) :
      Orderly c h version [.called patch, .settled patch true, .ran version run value]
  | answers {patch last : Patch} {code : AckCode} (receipt : Acknowledges c h patch .inProgress version) (run : Nat)
      (value : Json) (terminal : code.isTerminal = true) (answer : Acknowledges c h last code version)
      (reply : Option Bool) :
      Orderly c h version
        ([.called patch, .settled patch true, .ran version run value, .called last] ++ ending last reply)

/-- No call of the reporter is under way. -/
def AllOver (events : List Event) : Prop :=
  ∀ patch, events.getLast? ≠ some (.called patch)

variable {c : Convention} {h : Handler} {desired : DesiredSet} {state : ExchangeState} {phase : Phase}
  {version : Int64} {patch : Patch} {events : List Event} {result : Except DeviceError (Option AckReport)}

theorem acknowledges_rejection {raw : Json} {e : TwinError} (built : h.rejection c version raw e = .ok patch) :
    Acknowledges c h patch .badRequest version := by
  obtain ⟨j, _, read⟩ := Handler.ack?_rejection built
  exact ⟨_, read, rfl, rfl⟩

theorem acknowledges_receipt {value : Json} (built : h.receipt c version value = .ok patch) :
    Acknowledges c h patch .inProgress version := by
  obtain ⟨j, _, read⟩ := Handler.ack?_receipt built
  exact ⟨_, read, rfl, rfl⟩

theorem acknowledges_answer {o : Outcome} (built : h.answer c version o = .ok patch) :
    Acknowledges c h patch (Task.closing o).1 version := by
  obtain ⟨j, _, read⟩ := Handler.ack?_answer built
  exact ⟨_, read, rfl, rfl⟩

namespace Task

/-- A task that has ended has done its work in order, and all its calls are over. -/
theorem Ended.orderly (ended : Ended c h desired result events) :
    Orderly c h desired.version (workOf events) ∧ AllOver (workOf events) := by
  cases ended with
  | absent => exact ⟨.nothing, by simp [AllOver, workOf]⟩
  | skipped => exact ⟨.nothing, by simp [AllOver, workOf]⟩
  | unrejected => exact ⟨.nothing, by simp [AllOver, workOf]⟩
  | unacknowledged => exact ⟨.nothing, by simp [AllOver, workOf]⟩
  | rejectionLost reason bad built =>
    exact ⟨.rejects (acknowledges_rejection built) (some false), by simp [AllOver, workOf, began]⟩
  | rejected bad built =>
    exact ⟨.rejects (acknowledges_rejection built) (some true), by simp [AllOver, workOf, began]⟩
  | receiptLost reason good built =>
    exact ⟨.unreceived (acknowledges_receipt built) (some false) (by decide), by simp [AllOver, workOf, began]⟩
  | unanswered good built failed =>
    exact ⟨.runs (acknowledges_receipt built) _ _, by simp [AllOver, workOf, worked, began]⟩
  | answerLost reason good built closed =>
    exact ⟨.answers (acknowledges_receipt built) _ _ (isTerminal_closing _) (acknowledges_answer closed) (some false),
      by simp [AllOver, workOf, worked, began]⟩
  | answered good built closed =>
    exact ⟨.answers (acknowledges_receipt built) _ _ (isTerminal_closing _) (acknowledges_answer closed) (some true),
      by simp [AllOver, workOf, worked, began]⟩

/-- A task does its work in order. -/
theorem Stage.orderly (stage : Stage c h desired state phase events) : Orderly c h desired.version (workOf events) := by
  cases stage with
  | entering => exact .nothing
  | queued => exact .nothing
  | rejecting pauses index bad built => exact .rejects (acknowledges_rejection built) none
  | acknowledging pauses index good built => exact .unreceived (acknowledges_receipt built) none (by decide)
  | applying pauses run good built => exact .runs (acknowledges_receipt built) _ _
  | answering pauses index good built closed =>
    exact .answers (acknowledges_receipt built) _ _ (isTerminal_closing _) (acknowledges_answer closed) none
  | finished _ ended => exact ended.orderly.1

/-- No step of an exchange is refused for the state of the exchange. -/
theorem Ended.allowed {e : TwinError} (ended : Ended c h desired result events) (failed : result = .error (.twin e)) :
    e.kind ≠ .invalidTransition := by
  cases ended with
  | unrejected bad failure =>
    cases failed
    exact buildAck_error_kind failure
  | unacknowledged good failure =>
    cases failed
    exact buildAck_error_kind failure
  | unanswered good built failure =>
    cases failed
    exact buildAck_error_kind failure
  | _ => cases failed

end Task

namespace Dispatch

/-- An error of a dispatch is the error of one of its tasks. -/
theorem collect_error {phases : List Phase} {e : DeviceError} (failed : collect phases = .error e) :
    .finished (.error e) ∈ phases := by
  induction phases with
  | nil => cases failed
  | cons phase phases ih =>
    cases phase with
    | finished result =>
      cases result with
      | error cause =>
        cases failed
        exact List.mem_cons_self
      | ok report =>
        cases report with
        | none => exact List.mem_cons_of_mem _ (ih failed)
        | some r =>
          cases rest : collect phases with
          | error cause =>
            simp only [collect, rest, bind, Except.bind, Except.error.injEq] at failed
            subst failed
            exact List.mem_cons_of_mem _ (ih rest)
          | ok reports => simp [collect, rest, bind, Except.bind, pure, Except.pure] at failed
    | _ => exact List.mem_cons_of_mem _ (ih failed)

end Dispatch

namespace Dispatcher
variable {d : Dispatcher} {entries : List Entry}

/-- In every dispatch on a device, whatever the device has come to, every task does its work in order. When it has
    ended, all its calls are over and it has not failed for the state of an exchange, nor does a dispatch. -/
theorem orderly_task (reached : Reachable d entries) (sets : List DesiredSet) :
    (∀ schedule k i t, ((d.begin sets).run d.convention schedule).1.task? k i = some t →
      Orderly d.convention t.registration.handler t.desired.version
        (workOf (taskEvents k i ((d.begin sets).run d.convention schedule).2)) ∧
      ∀ result, t.phase = .finished result →
        AllOver (workOf (taskEvents k i ((d.begin sets).run d.convention schedule).2)) ∧
        ∀ e, result = .error (.twin e) → e.kind ≠ .invalidTransition) ∧
    ∀ limit results, (d.dispatchAll sets limit).1 = some results →
      ∀ e, .error (.twin e) ∈ results → e.kind ≠ .invalidTransition := by
  have orderly : ∀ schedule k i t, ((d.begin sets).run d.convention schedule).1.task? k i = some t →
      Orderly d.convention t.registration.handler t.desired.version
        (workOf (taskEvents k i ((d.begin sets).run d.convention schedule).2)) ∧
      ∀ result, t.phase = .finished result →
        AllOver (workOf (taskEvents k i ((d.begin sets).run d.convention schedule).2)) ∧
        ∀ e, result = .error (.twin e) → e.kind ≠ .invalidTransition := by
    intro schedule k i t found
    have proper := Session.proper_run schedule (proper_begin (settled_of_reachable reached) sets)
    rw [List.nil_append] at proper
    have stage := proper.stage found
    refine ⟨stage.orderly, fun result finished => ?_⟩
    rw [finished] at stage
    exact ⟨stage.ended.orderly.2, fun e failed => stage.ended.allowed failed⟩
  refine ⟨orderly, fun limit results ended e member => ?_⟩
  obtain ⟨schedule, ⟨_, result⟩ | result⟩ := dispatchAll_run d sets limit
  · rw [result] at ended
    cases ended
    obtain ⟨dispatch, inside, failed⟩ := List.mem_map.mp member
    obtain ⟨k, dispatch⟩ := List.mem_iff_getElem?.mp inside
    obtain ⟨i, phased⟩ := List.mem_iff_getElem?.mp (Dispatch.collect_error failed)
    obtain ⟨reg, _, found⟩ := Session.task?_of_phase (Session.full_run schedule full_begin) dispatch phased
    exact ((orderly schedule k i _ found).2 _ rfl).2 e rfl
  · rw [result] at ended
    cases ended

theorem orderly_task_lost :
    ∃ t, (session lost.1 4 (.int 1)).1.task? 0 0 = some t ∧
      Orderly .default t.registration.handler t.desired.version (workOf (taskEvents 0 0 (session lost.1 4 (.int 1)).2)) ∧
      ∀ result, t.phase = .finished result → AllOver (workOf (taskEvents 0 0 (session lost.1 4 (.int 1)).2)) := by
  have inside : ((session lost.1 4 (.int 1)).1.task? 0 0).isSome = true := by decide +kernel
  have there := (Option.some_get inside).symm
  obtain ⟨orderly, ended⟩ := (orderly_task reachable_lost _).1 _ 0 0 _ there
  exact ⟨_, there, orderly, fun result finished => (ended result finished).1⟩

end Dispatcher
end DeviceTwin
