import DeviceTwin.Proofs.Property.Task

/-!
Sessions: the time in which some dispatches are under way on a device. Any task may make the next move, so a run of a
session is a list of moves in any order (`Session.run`), and what is seen of it is a list of entries. Within a session
every task stands where its own entries say, and a task that has hold of an exchange is its owner: all of this is that
a session is `Proper`, which every move keeps (`proper_next`) and so every run (`proper_run`).
-/
namespace DeviceTwin

/-- Dispatches that are under way on a device. -/
structure Session where
  reporter : Reporter
  registrations : List Registration
  dispatches : List Dispatch

/-- An event with the dispatch and the handler, both by their position, whose task shows it. -/
structure Entry where
  dispatch : Nat
  handler : Nat
  event : Event

/-- The events of the property of one handler. -/
def eventsOf (i : Nat) (entries : List Entry) : List Event :=
  entries.filterMap fun e => if e.handler = i then some e.event else none

/-- The events of one task. -/
def taskEvents (k i : Nat) (entries : List Entry) : List Event :=
  entries.filterMap fun e => if e.dispatch = k ∧ e.handler = i then some e.event else none

@[simp] theorem eventsOf_append (i : Nat) (first rest : List Entry) :
    eventsOf i (first ++ rest) = eventsOf i first ++ eventsOf i rest :=
  List.filterMap_append

@[simp] theorem taskEvents_append (k i : Nat) (first rest : List Entry) :
    taskEvents k i (first ++ rest) = taskEvents k i first ++ taskEvents k i rest :=
  List.filterMap_append

@[simp] theorem eventsOf_own (k i : Nat) (events : List Event) :
    eventsOf i (events.map fun e => ⟨k, i, e⟩) = events := by
  induction events with
  | nil => rfl
  | cons e events ih =>
    rw [List.map_cons, eventsOf, List.filterMap_cons, if_pos rfl]
    exact congrArg (e :: ·) ih

theorem eventsOf_foreign {i j : Nat} (different : j ≠ i) (k : Nat) (events : List Event) :
    eventsOf i (events.map fun e => ⟨k, j, e⟩) = [] := by
  simp [eventsOf, different]

@[simp] theorem taskEvents_own (k i : Nat) (events : List Event) :
    taskEvents k i (events.map fun e => ⟨k, i, e⟩) = events := by
  induction events with
  | nil => rfl
  | cons e events ih =>
    rw [List.map_cons, taskEvents, List.filterMap_cons, if_pos ⟨rfl, rfl⟩]
    exact congrArg (e :: ·) ih

theorem taskEvents_foreign {k i k' i' : Nat} (different : ¬ (k' = k ∧ i' = i)) (events : List Event) :
    taskEvents k i (events.map fun e => ⟨k', i', e⟩) = [] := by
  simp [taskEvents, different]

/-- A task within a session. -/
structure Standing where
  ticket : Nat
  desired : DesiredSet
  registration : Registration
  phase : Phase

namespace Session

/-- The task of handler `i` in dispatch `k`. -/
def task? (s : Session) (k i : Nat) : Option Standing := do
  let d ← s.dispatches[k]?
  let reg ← s.registrations[i]?
  let phase ← d.phases[i]?
  return ⟨d.ticket, d.desired, reg, phase⟩

/-- The next move of a task. -/
def move (c : Convention) (s : Session) (t : Standing) : Move :=
  Task.step c t.ticket t.desired s.reporter t.registration t.phase

/-- The session with a move of the task of handler `i` in dispatch `k` made. -/
def advance (s : Session) (k i : Nat) (m : Move) : Session :=
  ⟨m.reporter, s.registrations.set i m.registration,
    s.dispatches.modify k fun d => { d with phases := d.phases.set i m.phase }⟩

/-- The session after the next move of the task of handler `i` in dispatch `k`, and what the move shows. -/
def next (c : Convention) (s : Session) (k i : Nat) : Session × List Entry :=
  match s.task? k i with
  | none => (s, [])
  | some t =>
    (s.advance k i (s.move c t),
      (Task.shows c t.ticket t.desired s.reporter t.registration t.phase).map fun e => ⟨k, i, e⟩)

/-- A run of a session, in which the tasks move in the given order. -/
def run (c : Convention) : List (Nat × Nat) → Session → Session × List Entry
  | [], s => (s, [])
  | (k, i) :: schedule, s =>
    let (s, first) := s.next c k i
    let (s, rest) := run c schedule s
    (s, first ++ rest)

variable {c : Convention} {s : Session} {k i k' i' : Nat} {t t' : Standing}

theorem task?_eq_some (found : s.task? k i = some t) :
    ∃ d, s.dispatches[k]? = some d ∧ s.registrations[i]? = some t.registration ∧ d.phases[i]? = some t.phase ∧
      d.ticket = t.ticket ∧ d.desired = t.desired := by
  simp only [task?, Option.bind_eq_bind, Option.bind_eq_some_iff, Option.pure_def, Option.some.injEq] at found
  obtain ⟨d, dispatch, reg, registration, phase, phased, rfl⟩ := found
  exact ⟨d, dispatch, registration, phased, rfl, rfl⟩

theorem next_of_task (c : Convention) (found : s.task? k i = some t) :
    s.next c k i = (s.advance k i (s.move c t),
      (Task.shows c t.ticket t.desired s.reporter t.registration t.phase).map fun e => ⟨k, i, e⟩) := by
  simp [next, found]

/-- Where a task stands when a task has moved: a registration is shared, a phase is not. -/
theorem task?_advance (found : s.task? k i = some t) (m : Move) (k' i' : Nat) :
    (s.advance k i m).task? k' i' = (s.task? k' i').map fun t' =>
      { t' with
        registration := if i' = i then m.registration else t'.registration
        phase := if k' = k ∧ i' = i then m.phase else t'.phase } := by
  obtain ⟨d, dispatch, registration, phased, _⟩ := task?_eq_some found
  have inRegistrations := (List.getElem?_eq_some_iff.mp registration).1
  have inPhases := (List.getElem?_eq_some_iff.mp phased).1
  by_cases sameDispatch : k' = k
  · subst sameDispatch
    by_cases sameHandler : i' = i
    · subst sameHandler
      simp [task?, advance, dispatch, inRegistrations, inPhases]
    · simp [task?, advance, dispatch, sameHandler, Ne.symm sameHandler]
  · by_cases sameHandler : i' = i
    · subst sameHandler
      cases held : s.dispatches[k']? with
      | none => simp [task?, advance, Ne.symm sameDispatch, held]
      | some d' =>
        cases phased' : d'.phases[i']? <;>
          simp [task?, advance, sameDispatch, Ne.symm sameDispatch, inRegistrations, held, phased']
    · simp [task?, advance, sameDispatch, sameHandler, Ne.symm sameDispatch, Ne.symm sameHandler]

/-- The task that has moved stands where its move leads. -/
theorem task?_advance_self (found : s.task? k i = some t) (m : Move) :
    (s.advance k i m).task? k i = some { t with registration := m.registration, phase := m.phase } := by
  simp [task?_advance found, found]

/-- Another task stands where it stood, but for the registration it may share with the task that has moved. -/
theorem task?_advance_other (found : s.task? k i = some t) (other : ¬ (k' = k ∧ i' = i)) {m : Move}
    (found' : (s.advance k i m).task? k' i' = some t') :
    ∃ t₀, s.task? k' i' = some t₀ ∧ t₀.ticket = t'.ticket ∧ t₀.desired = t'.desired ∧ t₀.phase = t'.phase ∧
      (i' ≠ i → t₀.registration = t'.registration) ∧ (i' = i → t'.registration = m.registration) := by
  rw [task?_advance found] at found'
  obtain ⟨t₀, before, rfl⟩ := Option.map_eq_some_iff.mp found'
  refine ⟨t₀, before, rfl, rfl, ?_, ?_, ?_⟩
  · simp [other]
  · intro different
    simp [different]
  · intro same
    simp [same]

/-- A registration after a move is the one that the move leaves, or unchanged. -/
theorem registration_advance {m : Move} {j : Nat} {reg : Registration}
    (there : (s.advance k i m).registrations[j]? = some reg) :
    (j = i ∧ reg = m.registration) ∨ (j ≠ i ∧ s.registrations[j]? = some reg) := by
  simp only [advance] at there
  by_cases same : j = i
  · subst same
    rw [List.getElem?_set_self'] at there
    obtain ⟨_, _, equal⟩ := Option.map_eq_some_iff.mp there
    exact .inl ⟨rfl, equal.symm⟩
  · rw [List.getElem?_set_ne (Ne.symm same)] at there
    exact .inr ⟨same, there⟩

/-- Each dispatch has a task for each handler. -/
def Full (s : Session) : Prop :=
  ∀ d ∈ s.dispatches, d.phases.length = s.registrations.length

theorem full_next (full : s.Full) (c : Convention) (k i : Nat) : (s.next c k i).1.Full := by
  cases found : s.task? k i with
  | none => simpa [next, found] using full
  | some t =>
    rw [next_of_task c found]
    intro d member
    obtain ⟨j, inside, rfl⟩ := List.mem_iff_getElem.mp member
    simp only [advance, List.length_modify] at inside
    simp only [advance, List.getElem_modify, List.length_set]
    split <;> simp [full _ (List.getElem_mem inside)]

theorem full_run (schedule : List (Nat × Nat)) (full : s.Full) : (s.run c schedule).1.Full := by
  induction schedule generalizing s with
  | nil => exact full
  | cons move schedule ih =>
    obtain ⟨k, i⟩ := move
    exact ih (full_next full c k i)

theorem task?_of_phase {d : Dispatch} {phase : Phase} (full : s.Full) (dispatch : s.dispatches[k]? = some d)
    (phased : d.phases[i]? = some phase) :
    ∃ reg, s.registrations[i]? = some reg ∧ s.task? k i = some ⟨d.ticket, d.desired, reg, phase⟩ := by
  have inside := (List.getElem?_eq_some_iff.mp phased).1
  rw [full d (List.mem_of_getElem? dispatch)] at inside
  refine ⟨s.registrations[i], List.getElem?_eq_getElem inside, ?_⟩
  simp [task?, dispatch, phased, inside]

/-- Every task stands where its entries say, and a task that has hold of an exchange is its owner. -/
structure Proper (c : Convention) (entries : List Entry) (s : Session) : Prop where
  sound : ∀ {i : Nat} {reg : Registration}, s.registrations[i]? = some reg → reg.Sound
  ticket : ∀ {k i : Nat} {t : Standing}, s.task? k i = some t → t.ticket = k
  stage : ∀ {k i : Nat} {t : Standing}, s.task? k i = some t → Task.Stage c t.registration.handler t.desired
    t.registration.exchange.state t.phase (taskEvents k i entries)
  owner : ∀ {k i : Nat} {t : Standing}, s.task? k i = some t → Task.Holds t.phase → t.registration.owner = some k

variable {entries : List Entry}

/-- The next move of a task is one of those that a task can make. -/
theorem move_moved (proper : Proper c entries s) (found : s.task? k i = some t) :
    Task.Moved c t.ticket t.desired s.reporter t.registration t.phase (s.move c t)
      (Task.shows c t.ticket t.desired s.reporter t.registration t.phase) := by
  obtain ⟨_, _, registration, _⟩ := task?_eq_some found
  exact Task.step_moved (proper.sound registration) (proper.stage found).applies

/-- A move leaves the exchange alone that another task has hold of. -/
theorem move_bystander (proper : Proper c entries s) (found : s.task? k i = some t)
    (bystander : s.task? k' i = some t') (other : k' ≠ k) (holds : Task.Holds t'.phase) :
    (s.move c t).registration.owner = some k' ∧ (s.move c t).registration.exchange = t.registration.exchange := by
  have together : t'.registration = t.registration := by
    obtain ⟨_, _, mine, _⟩ := task?_eq_some found
    obtain ⟨_, _, theirs, _⟩ := task?_eq_some bystander
    exact Option.some.inj (theirs.symm.trans mine)
  have ticket := proper.ticket found
  have owned := proper.owner bystander holds
  rw [together] at owned
  refine Task.moved_owned_by_other (fun mine => ?_) owned (ticket ▸ other) (move_moved proper found)
  rw [ticket]
  exact proper.owner found mine

/-- A move of a task keeps the session proper. -/
theorem proper_next (proper : Proper c entries s) (k i : Nat) :
    Proper c (entries ++ (s.next c k i).2) (s.next c k i).1 := by
  cases found : s.task? k i with
  | none => simpa [next, found] using proper
  | some t =>
    rw [next_of_task c found]
    have moved := move_moved proper found
    have ticket := proper.ticket found
    obtain ⟨_, _, registration, _⟩ := task?_eq_some found
    refine ⟨?sound, ?ticket, ?stage, ?owner⟩
    case sound =>
      intro j reg there
      rcases registration_advance there with ⟨_, rfl⟩ | ⟨_, before⟩
      · exact Task.moved_sound (proper.sound registration) moved
      · exact proper.sound before
    case ticket =>
      intro k' i' t' found'
      by_cases same : k' = k ∧ i' = i
      · obtain ⟨rfl, rfl⟩ := same
        rw [task?_advance_self found] at found'
        cases found'
        exact ticket
      · obtain ⟨t₀, before, equal, _⟩ := task?_advance_other found same found'
        rw [← equal]
        exact proper.ticket before
    case stage =>
      intro k' i' t' found'
      rw [taskEvents_append]
      by_cases same : k' = k ∧ i' = i
      · obtain ⟨rfl, rfl⟩ := same
        rw [task?_advance_self found] at found'
        cases found'
        rw [taskEvents_own]
        have stage := Task.stage_step (proper.stage found) moved
        rwa [← Task.moved_handler moved] at stage
      · rw [taskEvents_foreign (fun equal => same ⟨equal.1.symm, equal.2.symm⟩), List.append_nil]
        obtain ⟨t₀, before, _, desired, phase, elsewhere, here⟩ := task?_advance_other found same found'
        have stage := proper.stage before
        by_cases shared : i' = i
        · subst shared
          have other : k' ≠ k := fun equal => same ⟨equal, rfl⟩
          have together : t₀.registration = t.registration := by
            obtain ⟨_, _, theirs, _⟩ := task?_eq_some before
            exact Option.some.inj (theirs.symm.trans registration)
          rw [here rfl, Task.moved_handler moved, ← together, ← desired, ← phase]
          -- the exchange may have changed only when the other task has no hold of it
          by_cases holds : Task.Holds t₀.phase
          · rwa [(move_bystander proper found before other holds).2, ← together]
          · exact stage.free holds _
        · rwa [elsewhere shared, desired, phase] at stage
    case owner =>
      intro k' i' t' found' holds
      by_cases same : k' = k ∧ i' = i
      · obtain ⟨rfl, rfl⟩ := same
        rw [task?_advance_self found] at found'
        cases found'
        have owns : Task.Holds t.phase → t.registration.owner = some t.ticket := by
          rw [ticket]
          exact proper.owner found
        rw [← ticket]
        exact Task.moved_owner owns moved holds
      · obtain ⟨t₀, before, _, _, phase, elsewhere, here⟩ := task?_advance_other found same found'
        rw [← phase] at holds
        by_cases shared : i' = i
        · subst shared
          have other : k' ≠ k := fun equal => same ⟨equal, rfl⟩
          rw [here rfl]
          exact (move_bystander proper found before other holds).1
        · rw [← elsewhere shared]
          exact proper.owner before holds

/-- A run keeps the session proper. -/
theorem proper_run (schedule : List (Nat × Nat)) (proper : Proper c entries s) :
    Proper c (entries ++ (s.run c schedule).2) (s.run c schedule).1 := by
  induction schedule generalizing s entries with
  | nil => simpa [run] using proper
  | cons move schedule ih =>
    obtain ⟨k, i⟩ := move
    have rest := ih (proper_next proper k i)
    rwa [List.append_assoc] at rest

end Session
end DeviceTwin
