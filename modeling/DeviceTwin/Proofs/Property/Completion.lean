import DeviceTwin.Proofs.Property.Ownership

/-!
Every task comes to its end, whatever fails. A task that has hold of its exchange does one of two things with it, and
which one depends on its handler, its exchange and its desired value alone (`Task.Act`). So each of its moves lowers a
count of moves that are left (`Task.left`): in any order of the moves of a dispatch a task ends once it has moved often
enough (`Session.left_run`), and the rounds of a dispatch are enough for all of its tasks (`Dispatcher.dispatch_ends`).
-/
namespace DeviceTwin

/-- A handler that does what another one does, without pauses. -/
def Handler.eager (h : Handler) : Handler :=
  { h with pauses := 0 }

namespace Task

/-! ### What a task does with its exchange -/

/-- A task ends, or it calls the reporter. Either way it leaves the exchange in some state. -/
inductive Act where
  | ends (exchange : Exchange) (result : Except DeviceError (Option AckReport))
  | reports (exchange : Exchange) (patch : Patch) (next : Next)

def Act.move (rep : Reporter) (reg : Registration) : Act → Move
  | .ends exchange result => finish rep { reg with exchange } result
  | .reports exchange patch next => report rep { reg with exchange } patch next

variable {c : Convention} {ticket : Nat} {desired : DesiredSet} {rep : Reporter} {reg : Registration} {phase : Phase}

/-- Registrations with the same exchange and the same handler, but for its pauses. -/
structure SameWork (reg reg' : Registration) : Prop where
  handler : reg.handler.eager = reg'.handler.eager
  exchange : reg.exchange = reg'.exchange
  calls : reg.calls = reg'.calls

theorem SameWork.refl (reg : Registration) : SameWork reg reg := ⟨rfl, rfl, rfl⟩

/-- What a task does with a value depends on its handler and its exchange. -/
theorem open_act (c : Convention) (reg : Registration) (version : Int64) (raw : Json) :
    ∃ act : Act, ∀ (rep : Reporter) (reg' : Registration), SameWork reg reg' →
      open_ c rep reg' version raw = act.move rep reg' := by
  obtain ⟨⟨property, component, shape, pauses, respond⟩, x, calls, owner, waiting⟩ := reg
  generalize renewed : renew ⟨⟨property, component, shape, pauses, respond⟩, x, calls, owner, waiting⟩ = y
  have same (reg' : Registration)
      (work : SameWork ⟨⟨property, component, shape, pauses, respond⟩, x, calls, owner, waiting⟩ reg') :
      reg'.exchange = x ∧ reg'.handler.shape = shape ∧ renew reg' = y := by
    obtain ⟨⟨property', component', shape', pauses', respond'⟩, x', calls', owner', waiting'⟩ := reg'
    obtain ⟨handler, exchange, calls⟩ := work
    cases handler
    cases exchange
    exact ⟨rfl, rfl, renewed⟩
  cases answered : isAnswered version x.state with
  | true =>
    refine ⟨.ends x (.ok none), fun rep reg' work => ?_⟩
    obtain ⟨rfl, -, -⟩ := same reg' work
    simp only [open_, answered, if_true, Act.move]
  | false =>
    cases converted : c.serializer.ofWire shape.schema raw with
    | error e =>
      cases rejected : y.reject c version (.value raw) ("Invalid value: " ++ e.description) with
      | error failure =>
        refine ⟨.ends y (.error (.twin failure)), fun rep reg' work => ?_⟩
        obtain ⟨exchange, shapes, fresh⟩ := same reg' work
        simp only [open_, exchange, answered, shapes, converted, reject, fresh, rejected, Act.move, Bool.false_eq_true,
          if_false]
      | ok r =>
        refine ⟨.reports r.2 r.1 (.finish ⟨r.2.property, r.2.component, .badRequest, version,
          some ("Invalid value: " ++ e.description)⟩), fun rep reg' work => ?_⟩
        obtain ⟨exchange, shapes, fresh⟩ := same reg' work
        simp only [open_, exchange, answered, shapes, converted, reject, fresh, rejected, Act.move, Bool.false_eq_true,
          if_false]
    | ok value =>
      cases acknowledged : y.acknowledge c version (shape.datum value) with
      | error failure =>
        refine ⟨.ends y (.error (.twin failure)), fun rep reg' work => ?_⟩
        obtain ⟨exchange, shapes, fresh⟩ := same reg' work
        simp only [open_, exchange, answered, shapes, converted, acknowledge, fresh, acknowledged, Act.move,
          Bool.false_eq_true, if_false]
      | ok r =>
        refine ⟨.reports r.2 r.1 (.apply value), fun rep reg' work => ?_⟩
        obtain ⟨exchange, shapes, fresh⟩ := same reg' work
        simp only [open_, exchange, answered, shapes, converted, acknowledge, fresh, acknowledged, Act.move,
          Bool.false_eq_true, if_false]

/-- An act that calls the reporter for the last time, if it does. -/
def Act.IsLast : Act → Prop
  | .reports _ _ (.apply _) => False
  | _ => True

/-- What a task does with an outcome depends on its handler and its exchange. -/
theorem close_act (c : Convention) (reg : Registration) (version : Int64) (o : Outcome) :
    ∃ act : Act, act.IsLast ∧ ∀ (rep : Reporter) (reg' : Registration), SameWork reg reg' →
      close c rep reg' version o = act.move rep reg' := by
  have same (reg' : Registration) (work : SameWork reg reg') :
      reg'.exchange = reg.exchange ∧ reg'.handler.shape = reg.handler.shape := by
    have shapes : reg.handler.eager.shape = reg'.handler.eager.shape := by rw [work.handler]
    exact ⟨work.exchange.symm, shapes.symm⟩
  cases completed : reg.exchange.complete c (closing o).1 (reg.handler.shape.datum o.value) (closing o).2 with
  | error failure =>
    refine ⟨.ends reg.exchange (.error (.twin failure)), trivial, fun rep reg' work => ?_⟩
    obtain ⟨exchange, shapes⟩ := same reg' work
    simp only [close, ← exchange, shapes, Act.move] at completed ⊢
    rw [completed]
  | ok r =>
    refine ⟨.reports r.2 r.1 (.finish ⟨r.2.property, r.2.component, (closing o).1, version, (closing o).2⟩), trivial,
      fun rep reg' work => ?_⟩
    obtain ⟨exchange, shapes⟩ := same reg' work
    simp only [close, ← exchange, shapes, Act.move] at completed ⊢
    rw [completed]

/-! ### What a move leaves alone -/

/-- The handler, and what does not change of the reporter. -/
structure Intact (rep : Reporter) (h : Handler) (m : Move) : Prop where
  handler : m.registration.handler = h
  pauses : m.reporter.pauses = rep.pauses
  refusal : m.reporter.refusal = rep.refusal

theorem intact_act (act : Act) (rep : Reporter) (reg : Registration) : Intact rep reg.handler (act.move rep reg) := by
  cases act <;> exact ⟨rfl, rfl, rfl⟩

theorem intact_open (reg : Registration) (version : Int64) (raw : Json) :
    Intact rep reg.handler (open_ c rep reg version raw) := by
  obtain ⟨act, acts⟩ := open_act c reg version raw
  rw [acts rep reg (.refl reg)]
  exact intact_act act rep reg

theorem step_intact : Intact rep reg.handler (step c ticket desired rep reg phase) := by
  cases phase with
  | entering =>
    cases wants : desired.property reg.handler.property reg.handler.component with
    | none =>
      simp only [step, wants]
      exact ⟨rfl, rfl, rfl⟩
    | some raw =>
      cases owner : reg.owner with
      | none =>
        simp only [step, wants, owner]
        exact intact_open { reg with owner := some ticket } desired.version raw
      | some holder =>
        simp only [step, wants, owner]
        exact ⟨rfl, rfl, rfl⟩
  | queued =>
    simp only [step]
    split
    · split
      · exact ⟨rfl, rfl, rfl⟩
      · exact intact_open reg _ _
    · exact ⟨rfl, rfl, rfl⟩
  | reporting pauses index patch next =>
    cases pauses with
    | succ n => exact ⟨rfl, rfl, rfl⟩
    | zero => cases refusal : rep.refusal index <;> cases next <;> simp only [step, Reporter.settle, refusal] <;>
        exact ⟨rfl, rfl, rfl⟩
  | applying pauses o =>
    cases pauses with
    | succ n => exact ⟨rfl, rfl, rfl⟩
    | zero =>
      obtain ⟨act, _, acts⟩ := close_act c reg desired.version o
      simp only [step, acts rep reg (.refl reg)]
      exact intact_act act rep reg
  | finished r => exact ⟨rfl, rfl, rfl⟩

theorem poll_intact (fuel : Nat) : Intact rep reg.handler (poll c ticket desired fuel rep reg phase) := by
  induction fuel generalizing rep reg phase with
  | zero => exact ⟨rfl, rfl, rfl⟩
  | succ fuel ih =>
    have first : Intact rep reg.handler (step c ticket desired rep reg phase) := step_intact
    rw [poll]
    split
    · have rest := @ih (step c ticket desired rep reg phase).reporter (step c ticket desired rep reg phase).registration
        (step c ticket desired rep reg phase).phase
      exact ⟨rest.handler.trans first.handler, rest.pauses.trans first.pauses, rest.refusal.trans first.refusal⟩
    · exact first

/-! ### Moves that are left -/

/-- How many moves a task makes until it ends, at most. -/
def left (pauses : Nat) (h : Handler) : Phase → Nat
  | .entering => 2 * pauses + h.pauses + 4
  | .queued => 2 * pauses + h.pauses + 4
  | .reporting n _ _ (.apply _) => n + h.pauses + pauses + 3
  | .applying n _ => n + pauses + 2
  | .reporting n _ _ (.finish _) => n + 1
  | .finished _ => 0

/-- A task with no moves left has ended. -/
theorem ended_of_left {pauses : Nat} {h : Handler} (ended : left pauses h phase = 0) :
    ∃ result, phase = .finished result := by
  cases phase with
  | finished result => exact ⟨result, rfl⟩
  | reporting n index patch next => cases next <;> simp [left] at ended
  | _ => simp [left] at ended

/-- A task does not have to wait for its exchange. -/
structure Free (reg : Registration) (phase : Phase) : Prop where
  unqueued : phase ≠ .queued
  unlocked : phase = .entering → reg.owner = none

theorem free_reporting (reg : Registration) (n index : Nat) (patch : Patch) (next : Next) :
    Free reg (.reporting n index patch next) :=
  ⟨nofun, nofun⟩

theorem free_applying (reg : Registration) (n : Nat) (o : Outcome) : Free reg (.applying n o) :=
  ⟨nofun, nofun⟩

/-- A move of a task brings it nearer to its end, without having to wait. -/
structure Nearer (pauses : Nat) (h : Handler) (phase : Phase) (m : Move) : Prop where
  free : Free m.registration m.phase
  left : left pauses h m.phase ≤ left pauses h phase - 1

theorem nearer_ends {m : Move} {result : Except DeviceError (Option AckReport)} (ended : m.phase = .finished result)
    {pauses : Nat} {h : Handler} : Nearer pauses h phase m := by
  refine ⟨⟨?_, ?_⟩, ?_⟩ <;> rw [ended]
  · nofun
  · nofun
  · exact Nat.zero_le _

theorem nearer_act {h : Handler} (act : Act) (late : rep.pauses + 2 ≤ left rep.pauses h phase)
    (early : act.IsLast ∨ left rep.pauses h .entering ≤ left rep.pauses h phase) :
    Nearer rep.pauses h phase (act.move rep reg) := by
  cases act with
  | ends exchange result => exact nearer_ends rfl
  | reports exchange patch next =>
    refine ⟨free_reporting _ _ _ _ _, ?_⟩
    generalize left rep.pauses h phase = before at late early
    cases next with
    | apply value =>
      rcases early with last | early
      · exact last.elim
      · simp only [Act.move, report, left] at early ⊢
        omega
    | finish r =>
      simp only [Act.move, report, left]
      omega

theorem step_nearer (free : Free reg phase) :
    Nearer rep.pauses reg.handler phase (step c ticket desired rep reg phase) := by
  cases phase with
  | entering =>
    have owner := free.unlocked rfl
    cases wants : desired.property reg.handler.property reg.handler.component with
    | none =>
      simp only [step, wants]
      exact nearer_ends rfl
    | some raw =>
      obtain ⟨act, acts⟩ := open_act c { reg with owner := some ticket } desired.version raw
      simp only [step, wants, owner, acts rep _ (.refl _)]
      refine nearer_act act ?_ (.inr (Nat.le_refl _))
      simp only [left]
      omega
  | queued => exact absurd rfl free.unqueued
  | reporting pauses index patch next =>
    cases pauses with
    | succ n =>
      refine ⟨free_reporting _ _ _ _ _, ?_⟩
      cases next <;> simp only [step, left] <;> omega
    | zero =>
      cases refusal : rep.refusal index with
      | some reason =>
        simp only [step, Reporter.settle, refusal]
        exact nearer_ends rfl
      | none =>
        simp only [step, Reporter.settle, refusal]
        cases next with
        | apply value =>
          refine ⟨free_applying _ _ _, ?_⟩
          simp only [proceed, left]
          omega
        | finish r => exact nearer_ends rfl
  | applying pauses o =>
    cases pauses with
    | succ n =>
      refine ⟨free_applying _ _ _, ?_⟩
      simp only [step, left]
      omega
    | zero =>
      obtain ⟨act, last, acts⟩ := close_act c reg desired.version o
      simp only [step, acts rep reg (.refl reg)]
      exact nearer_act act (by simp [left]) (.inl last)
  | finished r => exact nearer_ends rfl

/-- A poll of a task makes a move at least. -/
theorem poll_nearer (fuel : Nat) (free : Free reg phase) :
    Nearer rep.pauses reg.handler phase (poll c ticket desired (fuel + 1) rep reg phase) := by
  induction fuel generalizing rep reg phase with
  | zero =>
    have first : Nearer rep.pauses reg.handler phase (step c ticket desired rep reg phase) := step_nearer free
    rw [poll]
    split
    · exact ⟨first.free, first.left⟩
    · exact first
  | succ fuel ih =>
    have first : Nearer rep.pauses reg.handler phase (step c ticket desired rep reg phase) := step_nearer free
    have intact : Intact rep reg.handler (step c ticket desired rep reg phase) := step_intact
    rw [poll]
    split
    · have rest := @ih (step c ticket desired rep reg phase).reporter _ _ first.free
      rw [intact.pauses, intact.handler] at rest
      exact ⟨rest.free, rest.left.trans ((Nat.sub_le _ 1).trans first.left)⟩
    · exact first

end Task

/-! ### A dispatch that is alone on its device -/

namespace Session
variable {c : Convention} {s : Session} {k i j : Nat} {t : Standing}

/-- One dispatch is under way. -/
def Single (s : Session) : Prop :=
  s.dispatches.length = 1

theorem Single.first (single : s.Single) (found : s.task? k i = some t) : k = 0 := by
  obtain ⟨d, dispatch, _⟩ := task?_eq_some found
  have inside := (List.getElem?_eq_some_iff.mp dispatch).1
  have length : s.dispatches.length = 1 := single
  omega

theorem single_next (single : s.Single) (k j : Nat) : (s.next c k j).1.Single := by
  cases found : s.task? k j with
  | none => simpa [next, found] using single
  | some t =>
    rw [next_of_task c found]
    simpa [Single, advance] using single

theorem next_reporter (c : Convention) (s : Session) (k j : Nat) :
    (s.next c k j).1.reporter.pauses = s.reporter.pauses ∧
      (s.next c k j).1.reporter.refusal = s.reporter.refusal := by
  cases found : s.task? k j with
  | none => simp [next, found]
  | some t =>
    have intact : Task.Intact s.reporter t.registration.handler (s.move c t) := Task.step_intact
    rw [next_of_task c found]
    exact ⟨intact.pauses, intact.refusal⟩

/-- A task stands where it stood when another task has moved. -/
theorem task?_next_other (c : Convention) (single : s.Single) (other : ¬ (k = 0 ∧ j = i)) :
    (s.next c k j).1.task? 0 i = s.task? 0 i := by
  cases found : s.task? k j with
  | none => simp [next, found]
  | some t =>
    obtain rfl := single.first found
    have elsewhere : i ≠ j := fun same => other ⟨rfl, same.symm⟩
    rw [next_of_task c found, task?_advance found]
    simp [elsewhere]

/-- Each own move in a run brings a task nearer to its end. -/
theorem left_run (schedule : List (Nat × Nat)) (single : s.Single) (found : s.task? 0 i = some t)
    (free : Task.Free t.registration t.phase) :
    ∃ t', (s.run c schedule).1.task? 0 i = some t' ∧
      Task.left s.reporter.pauses t.registration.handler t'.phase ≤
        Task.left s.reporter.pauses t.registration.handler t.phase - schedule.count (0, i) := by
  induction schedule generalizing s t with
  | nil => exact ⟨t, found, Nat.le_refl _⟩
  | cons move schedule ih =>
    obtain ⟨k, j⟩ := move
    have single' := single_next (c := c) single k j
    have pauses := (next_reporter c s k j).1
    by_cases own : k = 0 ∧ j = i
    · obtain ⟨rfl, rfl⟩ := own
      have nearer : Task.Nearer s.reporter.pauses t.registration.handler t.phase (s.move c t) := Task.step_nearer free
      have intact : Task.Intact s.reporter t.registration.handler (s.move c t) := Task.step_intact
      have found' : (s.next c 0 j).1.task? 0 j =
          some { t with registration := (s.move c t).registration, phase := (s.move c t).phase } := by
        rw [next_of_task c found]
        exact task?_advance_self found _
      obtain ⟨t', last, fewer⟩ := ih single' found' nearer.free
      rw [pauses, intact.handler] at fewer
      dsimp only at fewer
      have first := nearer.left
      refine ⟨t', last, fewer.trans ?_⟩
      rw [List.count_cons_self]
      omega
    · have found' := (task?_next_other c single own).trans found
      obtain ⟨t', last, fewer⟩ := ih single' found' free
      rw [pauses] at fewer
      have different : ((k, j) == (0, i)) = false := by simpa [Prod.ext_iff] using own
      exact ⟨t', last, by rwa [List.count_cons, different, if_neg Bool.false_ne_true, Nat.add_zero]⟩

end Session

/-! ### Rounds -/

namespace Dispatch
variable {c : Convention} {ticket : Nat} {desired : DesiredSet} {rep : Reporter} {regs : List Registration}
  {phases : List Phase} {pauses n : Nat}

/-- No task has to wait, and none has more than `n` moves left. -/
def Near (pauses n : Nat) (regs : List Registration) (phases : List Phase) : Prop :=
  List.Forall₂ (fun reg phase => Task.Free reg phase ∧ Task.left pauses reg.handler phase ≤ n) regs phases

theorem near_pollTasks (c : Convention) (ticket : Nat) (desired : DesiredSet) (near : Near rep.pauses n regs phases) :
    Near rep.pauses (n - 1) (pollTasks c ticket desired rep regs phases).2.1
        (pollTasks c ticket desired rep regs phases).2.2 ∧
      (pollTasks c ticket desired rep regs phases).1.pauses = rep.pauses := by
  generalize same : rep.pauses = pauses at near
  induction near generalizing rep with
  | nil => exact ⟨.nil, same⟩
  | @cons reg phase regs phases task others ih =>
    obtain ⟨free, few⟩ := task
    subst same
    have nearer : Task.Nearer rep.pauses reg.handler phase
      (Task.poll c ticket desired Task.movesPerPoll rep reg phase) := Task.poll_nearer 7 free
    have intact : Task.Intact rep reg.handler (Task.poll c ticket desired Task.movesPerPoll rep reg phase) :=
      Task.poll_intact Task.movesPerPoll
    obtain ⟨near, same⟩ := ih intact.pauses
    refine ⟨.cons ⟨nearer.free, ?_⟩ near, same⟩
    have lower := nearer.left
    rw [intact.handler]
    omega

theorem Near.isFinished (near : Near pauses 0 regs phases) (ticket : Nat) (desired : DesiredSet) :
    isFinished ⟨ticket, desired, phases⟩ = true := by
  induction near with
  | nil => rfl
  | cons task others ih =>
    obtain ⟨result, rfl⟩ := Task.ended_of_left (Nat.le_zero.mp task.2)
    exact ih

/-- The rounds of a dispatch end when there are enough of them for every task. -/
theorem rounds_near (c : Convention) (ticket : Nat) (desired : DesiredSet) {fuel : Nat}
    (near : Near rep.pauses n regs phases) (enough : n ≤ fuel) :
    (rounds c (fuel + 1) none rep regs [⟨ticket, desired, phases⟩]).2.2.isSome := by
  induction fuel generalizing rep regs phases n with
  | zero =>
    obtain rfl : n = 0 := Nat.le_zero.mp enough
    have finished := (near_pollTasks c ticket desired near).1.isFinished ticket desired
    simp [rounds, pollAll, finished]
  | succ fuel ih =>
    obtain ⟨near', pauses⟩ := near_pollTasks c ticket desired near
    rw [rounds_succ c _ (by simp)]
    split
    · rfl
    · rw [← pauses] at near'
      exact ih near' (by omega)

end Dispatch

namespace Dispatcher
variable {d : Dispatcher}

theorem left_entering_le {reg : Registration} (inside : reg ∈ d.registrations) :
    Task.left d.reporter.pauses reg.handler .entering ≤ d.pausesPerDispatch := by
  have share := d.le_pausesPerDispatch inside
  simp only [Task.left]
  omega

/-- A dispatch on an idle device ends, whatever fails: it is a session that is over. -/
theorem dispatch_ends (idle : ∀ reg ∈ d.registrations, reg.Idle) (desired : DesiredSet) :
    ∃ schedule, ((d.begin [desired]).run d.convention schedule).1.isOver = true ∧
      d.dispatchAll [desired] none =
        (some (((d.begin [desired]).run d.convention schedule).1.dispatches.map fun d => Dispatch.collect d.phases),
          d.resume ((d.begin [desired]).run d.convention schedule).1) := by
  have near : Dispatch.Near d.reporter.pauses d.pausesPerDispatch d.registrations
      (d.registrations.map fun _ => .entering) := by
    refine List.forall₂_map_right_iff.mpr (List.forall₂_same.mpr fun reg member => ?_)
    exact ⟨⟨nofun, fun _ => (idle reg member).owner⟩, left_entering_le member⟩
  have returns := Dispatch.rounds_near d.convention 0 desired near (Nat.le_refl _)
  obtain ⟨schedule, ended | dropped⟩ := dispatchAll_run d [desired] none
  · exact ⟨schedule, ended⟩
  · have rounds := dispatchAll_rounds d [desired] none
    rw [dropped] at rounds
    simp only [begin, List.zipIdx_cons, List.zipIdx_nil, List.map_cons, List.map_nil, List.length_cons,
      List.length_nil, Nat.zero_add, Nat.one_mul, Prod.mk.injEq] at rounds
    obtain ⟨results, some_⟩ := Option.isSome_iff_exists.mp returns
    rw [some_] at rounds
    cases rounds.1

end Dispatcher
end DeviceTwin
