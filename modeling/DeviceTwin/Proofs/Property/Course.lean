import DeviceTwin.Proofs.Property.Session

/-!
The course of one property. A task that gets hold of its exchange goes through an `Episode`, which may break off at
any point when the task is dropped. Since one task holds an exchange at a time, the episodes of a property come one
after the other, whatever the tasks of other properties and dispatches do meanwhile, and each begins in the state in
which the one before has left the exchange: the events of a property are its `Course`. This holds of everything that
can be reached (`course_of_reachable`), so a fact about a property is proved by induction on its episodes.
-/
namespace DeviceTwin

/-- The end of a call of the reporter, if it is over. -/
def ending (patch : Patch) : Option Bool → List Event
  | none => []
  | some delivered => [.settled patch delivered]

/-- What a task does with the exchange of its property, from one state to another, and shows of it. -/
inductive Episode (c : Convention) (h : Handler) : ExchangeState → ExchangeState → List Event → Prop where
  | skipped {desired : DesiredSet} {state : ExchangeState} {raw : Json} (wants : h.wanted desired = some raw)
      (answered : Task.isAnswered desired.version state = true) :
      Episode c h state state [.found state desired.version]
  | failed {desired : DesiredSet} {state : ExchangeState} {raw : Json} (wants : h.wanted desired = some raw)
      (open_ : Task.isAnswered desired.version state = false) :
      Episode c h state state.renewed [.found state desired.version]
  | rejecting {desired : DesiredSet} {state : ExchangeState} {raw : Json} {e : TwinError} {patch : Patch}
      (bad : Task.Malformed c h desired state raw e) (built : h.rejection c desired.version raw e = .ok patch)
      (reply : Option Bool) :
      Episode c h state (.terminal .badRequest desired.version)
        (Task.began state desired.version patch ++ ending patch reply)
  | acknowledging {desired : DesiredSet} {state : ExchangeState} {raw value : Json} {patch : Patch}
      (good : Task.Converted c h desired state raw value) (built : h.receipt c desired.version value = .ok patch)
      (reply : Option Bool) (undelivered : reply ≠ some true) :
      Episode c h state (.pending desired.version) (Task.began state desired.version patch ++ ending patch reply)
  | applying {desired : DesiredSet} {state : ExchangeState} {raw value : Json} {patch : Patch}
      (good : Task.Converted c h desired state raw value) (built : h.receipt c desired.version value = .ok patch)
      (run : Nat) :
      Episode c h state (.pending desired.version) (Task.worked state desired.version patch run value)
  | answering {desired : DesiredSet} {state : ExchangeState} {raw value : Json} {patch last : Patch} {run : Nat}
      (good : Task.Converted c h desired state raw value) (built : h.receipt c desired.version value = .ok patch)
      (closed : h.answer c desired.version (h.respond run value) = .ok last) (reply : Option Bool) :
      Episode c h state (.terminal (Task.closing (h.respond run value)).1 desired.version)
        (Task.worked state desired.version patch run value ++ .called last :: ending last reply)

/-- The events of a property that leave its exchange in a state: episodes, one after the other. -/
inductive Course (c : Convention) (h : Handler) : ExchangeState → List Event → Prop where
  | start : Course c h .idle []
  | episode {state state' : ExchangeState} {past events : List Event} (before : Course c h state past)
      (now : Episode c h state state' events) : Course c h state' (past ++ events)

namespace Task
variable {c : Convention} {ticket : Nat} {desired : DesiredSet} {rep : Reporter} {reg : Registration}
  {phase : Phase} {m : Move} {trace events : List Event} {state : ExchangeState} {version : Int64}

theorem episode_opened {raw : Json} (wants : reg.handler.wanted desired = some raw)
    (opened : Opened c desired raw rep reg m events) :
    Episode c reg.handler reg.exchange.state m.registration.exchange.state events ∧
      ∃ tail, events = .found reg.exchange.state desired.version :: tail := by
  cases opened with
  | skipped answered => exact ⟨.skipped wants answered, _, rfl⟩
  | unrejected open_ malformed failed => exact ⟨.failed wants open_, _, rfl⟩
  | unacknowledged open_ converts failed => exact ⟨.failed wants open_, _, rfl⟩
  | rejects open_ malformed built => exact ⟨.rejecting ⟨wants, open_, malformed⟩ built none, _, rfl⟩
  | acknowledges open_ converts built =>
    exact ⟨.acknowledging ⟨wants, open_, converts⟩ built none (by decide), _, rfl⟩

/-- A task without a hold of the exchange moves unseen, or gets hold of the exchange, which no other task has. -/
theorem moved_free {h : Handler} (free : ¬ Holds phase) (stage : Stage c h desired state phase trace)
    (moved : Moved c ticket desired rep reg phase m events) :
    (events = [] ∧ m.registration.exchange = reg.exchange ∧ ¬ Holds m.phase) ∨
      ((reg.owner = none ∨ reg.owner = some ticket) ∧ trace = [] ∧
        Episode c reg.handler reg.exchange.state m.registration.exchange.state events ∧
        ∃ tail, events = .found reg.exchange.state desired.version :: tail) := by
  cases moved with
  | absent => exact .inl ⟨rfl, rfl, id⟩
  | queues => exact .inl ⟨rfl, rfl, id⟩
  | waits => exact .inl ⟨rfl, rfl, id⟩
  | leaves => exact .inl ⟨rfl, rfl, id⟩
  | rests => exact .inl ⟨rfl, rfl, id⟩
  | opens wants none opened =>
    cases stage
    have wanted : { reg with owner := some ticket : Registration }.handler.wanted desired = some _ := wants
    have begun := episode_opened wanted opened
    exact .inr ⟨.inl none, rfl, begun⟩
  | opensLate wants held opened =>
    cases stage
    exact .inr ⟨.inr held, rfl, episode_opened wants opened⟩
  | _ => exact absurd trivial free

/-- A task that has hold of the exchange is within an episode. -/
theorem Stage.episode {h : Handler} {now : ExchangeState} {tail : List Event}
    (stage : Stage c h desired now phase trace) (holds : Holds phase) (begins : trace = .found state version :: tail) :
    Episode c h state now trace := by
  cases stage with
  | rejecting pauses index bad built =>
    cases begins
    simpa [ending] using Episode.rejecting bad built none
  | acknowledging pauses index good built =>
    cases begins
    simpa [ending] using Episode.acknowledging good built none (by decide)
  | applying pauses run good built =>
    cases begins
    exact .applying good built run
  | answering pauses index good built closed =>
    cases begins
    simpa [ending] using Episode.answering good built closed none
  | _ => exact holds.elim

/-- A move of a task that has hold of the exchange goes on with its episode. -/
theorem moved_held {tail : List Event} (holds : Holds phase)
    (stage : Stage c reg.handler desired reg.exchange.state phase trace) (begins : trace = .found state version :: tail)
    (moved : Moved c ticket desired rep reg phase m events) :
    Episode c reg.handler state m.registration.exchange.state (trace ++ events) := by
  by_cases still : Holds m.phase
  · have goesOn : trace ++ events = .found state version :: (tail ++ events) := by rw [begins, List.cons_append]
    exact (stage_step stage moved).episode still goesOn
  · generalize current : reg.exchange.state = now at stage
    cases stage with
    | rejecting pauses index bad built =>
      cases begins
      cases moved with
      | pauses => exact absurd trivial still
      | refused refusal => simpa [current, ending] using Episode.rejecting bad built (some false)
      | finishes accepted => simpa [current, ending] using Episode.rejecting bad built (some true)
    | acknowledging pauses index good built =>
      cases begins
      cases moved with
      | refused refusal => simpa [current, ending] using Episode.acknowledging good built (some false) (by decide)
      | _ => exact absurd trivial still
    | applying pauses run good built =>
      cases begins
      cases moved with
      | unanswered failed => simpa [current] using Episode.applying good built run
      | _ => exact absurd trivial still
    | answering pauses index good built closed =>
      cases begins
      cases moved with
      | pauses => exact absurd trivial still
      | refused refusal => simpa [current, ending] using Episode.answering good built closed (some false)
      | finishes accepted => simpa [current, ending] using Episode.answering good built closed (some true)
    | _ => exact holds.elim

end Task

namespace Session
variable {c : Convention} {s : Session} {entries : List Entry} {past : List Event} {k i i' : Nat}

/-- A property is between two episodes, or within the one of the task that has hold of its exchange. -/
structure Ordered (c : Convention) (past : List Event) (i : Nat) (entries : List Entry) (s : Session) : Prop where
  between : ∀ {reg : Registration}, s.registrations[i]? = some reg →
    (∀ {k : Nat} {t : Standing}, s.task? k i = some t → ¬ Task.Holds t.phase) →
    Course c reg.handler reg.exchange.state (past ++ eventsOf i entries)
  within : ∀ {k : Nat} {t : Standing}, s.task? k i = some t → Task.Holds t.phase →
    ∃ earlier state version tail, past ++ eventsOf i entries = earlier ++ taskEvents k i entries ∧
      Course c t.registration.handler state earlier ∧ taskEvents k i entries = .found state version :: tail

theorem Ordered.course (ordered : Ordered c past i entries s) (proper : Proper c entries s) {reg : Registration}
    (there : s.registrations[i]? = some reg) :
    Course c reg.handler reg.exchange.state (past ++ eventsOf i entries) := by
  by_cases held : ∃ k t, s.task? k i = some t ∧ Task.Holds t.phase
  · obtain ⟨k, t, found, holds⟩ := held
    obtain ⟨earlier, state, version, tail, all, before, begins⟩ := ordered.within found holds
    obtain ⟨_, _, registration, _⟩ := task?_eq_some found
    obtain rfl := Option.some.inj (there.symm.trans registration)
    rw [all]
    exact .episode before ((proper.stage found).episode holds begins)
  · exact ordered.between there fun found holds => held ⟨_, _, found, holds⟩

/-- A move of a task of another property. -/
theorem ordered_elsewhere (ordered : Ordered c past i entries s) (elsewhere : i' ≠ i) :
    Ordered c past i (entries ++ (s.next c k i').2) (s.next c k i').1 := by
  cases found : s.task? k i' with
  | none => simpa [next, found] using ordered
  | some t =>
    rw [next_of_task c found]
    have phases : ∀ k', (s.advance k i' (s.move c t)).task? k' i = s.task? k' i := by
      intro k'
      rw [task?_advance found]
      simp [Ne.symm elsewhere]
    refine ⟨?between, ?within⟩
    case between =>
      intro reg there free
      rcases registration_advance there with ⟨same, _⟩ | ⟨_, before⟩
      · exact absurd same.symm elsewhere
      · rw [eventsOf_append, eventsOf_foreign elsewhere, List.append_nil]
        refine ordered.between before fun found' => ?_
        rw [← phases] at found'
        exact free found'
    case within =>
      intro k' t' found' holds
      rw [phases] at found'
      rw [eventsOf_append, eventsOf_foreign elsewhere, taskEvents_append,
        taskEvents_foreign (fun same => elsewhere same.2), List.append_nil, List.append_nil]
      exact ordered.within found' holds

/-- Two tasks do not have hold of one exchange. -/
theorem Proper.alone (proper : Proper c entries s) {k' : Nat} {t t' : Standing} (found : s.task? k i = some t)
    (found' : s.task? k' i = some t') (holds : Task.Holds t.phase) (holds' : Task.Holds t'.phase) : k' = k := by
  obtain ⟨_, _, mine, _⟩ := task?_eq_some found
  obtain ⟨_, _, theirs, _⟩ := task?_eq_some found'
  have owned := proper.owner found' holds'
  rw [Option.some.inj (theirs.symm.trans mine), proper.owner found holds] at owned
  exact (Option.some.inj owned).symm

section Here
variable {t : Standing} {m : Move} {events : List Event}

/-- The registration of the property when one of its tasks has moved. -/
theorem registration_here {reg : Registration} (there : (s.advance k i m).registrations[i]? = some reg) :
    reg = m.registration := by
  rcases registration_advance there with ⟨_, same⟩ | ⟨different, _⟩
  · exact same
  · exact absurd rfl different

/-- The task that has hold of the exchange goes on. -/
theorem ordered_goesOn (ordered : Ordered c past i entries s) (proper : Proper c entries s)
    (found : s.task? k i = some t) (holds : Task.Holds t.phase)
    (moved : Task.Moved c t.ticket t.desired s.reporter t.registration t.phase m events) :
    Ordered c past i (entries ++ events.map fun e => ⟨k, i, e⟩) (s.advance k i m) := by
  have handler := Task.moved_handler moved
  obtain ⟨earlier, state, version, tail, all, before, begins⟩ := ordered.within found holds
  refine ⟨?between, ?within⟩
  case between =>
    intro reg there _
    rw [registration_here there, handler, eventsOf_append, eventsOf_own, ← List.append_assoc, all, List.append_assoc]
    exact .episode before (Task.moved_held holds (proper.stage found) begins moved)
  case within =>
    intro k' t' found' holds'
    by_cases same : k' = k
    · subst same
      rw [task?_advance_self found] at found'
      cases found'
      rw [eventsOf_append, eventsOf_own, taskEvents_append, taskEvents_own, ← List.append_assoc, all]
      refine ⟨earlier, state, version, tail ++ events, List.append_assoc .., ?_, ?_⟩
      · rw [handler]
        exact before
      · rw [begins, List.cons_append]
    · obtain ⟨t₀, found₀, _, _, phase, _⟩ := task?_advance_other found (fun equal => same equal.1) found'
      rw [← phase] at holds'
      exact absurd (proper.alone found found₀ holds holds') same

/-- A task without a hold of the exchange moves unseen. -/
theorem ordered_unseen (ordered : Ordered c past i entries s) (found : s.task? k i = some t)
    (holds : ¬ Task.Holds t.phase) (handler : m.registration.handler = t.registration.handler)
    (exchange : m.registration.exchange = t.registration.exchange) (still : ¬ Task.Holds m.phase) :
    Ordered c past i entries (s.advance k i m) := by
  obtain ⟨_, _, registration, _⟩ := task?_eq_some found
  refine ⟨?between, ?within⟩
  case between =>
    intro reg there free
    rw [registration_here there, handler, exchange]
    refine ordered.between registration fun {k'} {t'} found' => ?_
    by_cases same : k' = k
    · subst same
      rwa [← Option.some.inj (found.symm.trans found')]
    · have standing := task?_advance found m k' i
      rw [found'] at standing
      simpa [same] using free standing
  case within =>
    intro k' t' found' holds'
    by_cases same : k' = k
    · subst same
      rw [task?_advance_self found] at found'
      cases found'
      exact absurd holds' still
    · obtain ⟨t₀, found₀, _, _, phase, _, shared⟩ :=
        task?_advance_other found (fun equal => same equal.1) found'
      obtain ⟨_, _, theirs, _⟩ := task?_eq_some found₀
      rw [← phase] at holds'
      rw [shared rfl, handler, ← Option.some.inj (theirs.symm.trans registration)]
      exact ordered.within found₀ holds'

/-- A task gets hold of the exchange, which no other task has. -/
theorem ordered_begins {tail : List Event} {version : Int64} (ordered : Ordered c past i entries s)
    (proper : Proper c entries s) (found : s.task? k i = some t) (holds : ¬ Task.Holds t.phase)
    (handler : m.registration.handler = t.registration.handler)
    (free : t.registration.owner = none ∨ t.registration.owner = some k) (fresh : taskEvents k i entries = [])
    (episode : Episode c t.registration.handler t.registration.exchange.state m.registration.exchange.state events)
    (begins : events = .found t.registration.exchange.state version :: tail) :
    Ordered c past i (entries ++ events.map fun e => ⟨k, i, e⟩) (s.advance k i m) := by
  obtain ⟨_, _, registration, _⟩ := task?_eq_some found
  have nobody : ∀ {k' : Nat} {t' : Standing}, s.task? k' i = some t' → ¬ Task.Holds t'.phase := by
    intro k' t' found' holds'
    obtain ⟨_, _, theirs, _⟩ := task?_eq_some found'
    have owned := proper.owner found' holds'
    rw [Option.some.inj (theirs.symm.trans registration)] at owned
    rw [owned] at free
    rcases free with none | same
    · cases none
    · cases same
      rw [Option.some.inj (found'.symm.trans found)] at holds'
      exact holds holds'
  have before := ordered.between registration nobody
  refine ⟨?between, ?within⟩
  case between =>
    intro reg there _
    rw [registration_here there, handler, eventsOf_append, eventsOf_own, ← List.append_assoc]
    exact .episode before episode
  case within =>
    intro k' t' found' holds'
    by_cases same : k' = k
    · subst same
      rw [task?_advance_self found] at found'
      cases found'
      rw [eventsOf_append, eventsOf_own, taskEvents_append, taskEvents_own, fresh, List.nil_append,
        ← List.append_assoc]
      refine ⟨_, _, _, tail, rfl, ?_, begins⟩
      rw [handler]
      exact before
    · obtain ⟨t₀, found₀, _, _, phase, _⟩ := task?_advance_other found (fun equal => same equal.1) found'
      rw [← phase] at holds'
      exact absurd holds' (nobody found₀)

end Here

/-- A move of a task of the property. -/
theorem ordered_here (ordered : Ordered c past i entries s) (proper : Proper c entries s) :
    Ordered c past i (entries ++ (s.next c k i).2) (s.next c k i).1 := by
  cases found : s.task? k i with
  | none => simpa [next, found] using ordered
  | some t =>
    have moved := move_moved proper found
    have handler := Task.moved_handler moved
    rw [next_of_task c found]
    by_cases holds : Task.Holds t.phase
    · exact ordered_goesOn ordered proper found holds moved
    · rcases Task.moved_free holds (proper.stage found) moved with
        ⟨quiet, exchange, still⟩ | ⟨free, fresh, episode, tail, begins⟩
      · rw [quiet, List.map_nil, List.append_nil]
        exact ordered_unseen ordered found holds handler exchange still
      · rw [proper.ticket found] at free
        exact ordered_begins ordered proper found holds handler free fresh episode begins

theorem ordered_next (ordered : Ordered c past i entries s) (proper : Proper c entries s) (k i' : Nat) :
    Ordered c past i (entries ++ (s.next c k i').2) (s.next c k i').1 := by
  by_cases here : i' = i
  · subst here
    exact ordered_here ordered proper
  · exact ordered_elsewhere ordered here

/-- A run keeps the episodes of a property in order. -/
theorem ordered_run (schedule : List (Nat × Nat)) (ordered : Ordered c past i entries s)
    (proper : Proper c entries s) :
    Ordered c past i (entries ++ (s.run c schedule).2) (s.run c schedule).1 := by
  induction schedule generalizing s entries with
  | nil => simpa [run] using ordered
  | cons move schedule ih =>
    obtain ⟨k, i'⟩ := move
    have rest := ih (ordered_next ordered proper k i') (proper_next proper k i')
    rwa [List.append_assoc] at rest

end Session
end DeviceTwin
