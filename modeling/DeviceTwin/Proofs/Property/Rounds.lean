import DeviceTwin.Proofs.Property.Reach

/-!
Polling rounds. A poll moves one task as long as it can go on, a round polls all tasks in order, and a dispatch is a
number of rounds. All of these are runs of a session, in some order of its moves (`dispatchAll_run`).
-/
namespace DeviceTwin

namespace Session
variable {c : Convention} {s s' s'' : Session} {k i : Nat} {t : Standing}

/-- Some run of a session leads to another one. -/
def Leads (c : Convention) (s s' : Session) : Prop :=
  ∃ schedule, (s.run c schedule).1 = s'

theorem run_append (first rest : List (Nat × Nat)) :
    s.run c (first ++ rest) =
      (((s.run c first).1.run c rest).1, (s.run c first).2 ++ ((s.run c first).1.run c rest).2) := by
  induction first generalizing s with
  | nil => simp [run]
  | cons move first ih =>
    obtain ⟨k, i⟩ := move
    simp [run, ih]

theorem Leads.refl (s : Session) : Leads c s s := ⟨[], rfl⟩

theorem Leads.trans (first : Leads c s s') (rest : Leads c s' s'') : Leads c s s'' := by
  obtain ⟨schedule, rfl⟩ := first
  obtain ⟨schedule', rfl⟩ := rest
  exact ⟨schedule ++ schedule', by rw [run_append]⟩

theorem leads_next (k i : Nat) : Leads c s (s.next c k i).1 := ⟨[(k, i)], rfl⟩

/-- A move that changes nothing. -/
theorem advance_same (found : s.task? k i = some t) (goesOn : Bool) :
    s.advance k i ⟨s.reporter, t.registration, t.phase, goesOn⟩ = s := by
  obtain ⟨d, dispatch, registration, phased, _⟩ := task?_eq_some found
  have registrations : s.registrations.set i t.registration = s.registrations := by
    obtain ⟨inside, same⟩ := List.getElem?_eq_some_iff.mp registration
    rw [← same, List.set_getElem_self]
  have phases : d.phases.set i t.phase = d.phases := by
    obtain ⟨inside, same⟩ := List.getElem?_eq_some_iff.mp phased
    rw [← same, List.set_getElem_self]
  have dispatches : (s.dispatches.modify k fun d => { d with phases := d.phases.set i t.phase }) = s.dispatches := by
    apply List.ext_getElem?
    intro k'
    by_cases same : k' = k
    · subst same
      simp [dispatch, phases]
    · rw [List.getElem?_modify_ne _ _ (Ne.symm same)]
  simp only [advance, registrations, dispatches]

theorem advance_advance (m m' : Move) : (s.advance k i m).advance k i m' = s.advance k i m' := by
  have phases : ((fun d : Dispatch => { d with phases := d.phases.set i m'.phase }) ∘
      fun d : Dispatch => { d with phases := d.phases.set i m.phase }) =
      fun d : Dispatch => { d with phases := d.phases.set i m'.phase } := by
    funext d
    simp
  simp only [advance, List.set_set, List.modify_modify_eq, phases]

/-- A poll of a task is a run. -/
theorem leads_poll (fuel : Nat) (found : s.task? k i = some t) :
    Leads c s (s.advance k i (Task.poll c t.ticket t.desired fuel s.reporter t.registration t.phase)) := by
  induction fuel generalizing s t with
  | zero =>
    rw [Task.poll, advance_same found]
    exact .refl s
  | succ fuel ih =>
    have first : Leads c s (s.next c k i).1 := leads_next k i
    rw [next_of_task c found] at first
    rw [Task.poll]
    by_cases goesOn : (s.move c t).goesOn = true
    · have rest := ih (task?_advance_self found (s.move c t))
      rw [advance_advance] at rest
      simp only [move] at goesOn
      simp only [goesOn, if_true]
      exact first.trans rest
    · simp only [move] at goesOn
      simp only [goesOn]
      exact first

theorem modify_middle {α : Type} (before after : List α) (a : α) (f : α → α) :
    (before ++ a :: after).modify before.length f = before ++ f a :: after := by
  induction before with
  | nil => rfl
  | cons first before ih => simp [ih]

/-- A poll of the tasks of a dispatch is a run. -/
theorem leads_pollTasks (before after : List Dispatch) (ticket : Nat) (desired : DesiredSet) (rep : Reporter)
    (polled : List Registration) (polledPhases : List Phase) (together : polled.length = polledPhases.length)
    (regs : List Registration) (phases : List Phase) :
    Leads c ⟨rep, polled ++ regs, before ++ ⟨ticket, desired, polledPhases ++ phases⟩ :: after⟩
      ⟨(Dispatch.pollTasks c ticket desired rep regs phases).1,
        polled ++ (Dispatch.pollTasks c ticket desired rep regs phases).2.1,
        before ++ ⟨ticket, desired, polledPhases ++ (Dispatch.pollTasks c ticket desired rep regs phases).2.2⟩ ::
          after⟩ := by
  induction regs generalizing rep polled polledPhases phases with
  | nil => exact .refl _
  | cons reg regs ih =>
    cases phases with
    | nil => exact .refl _
    | cons phase phases =>
      have found : Session.task? ⟨rep, polled ++ reg :: regs,
          before ++ ⟨ticket, desired, polledPhases ++ phase :: phases⟩ :: after⟩ before.length polled.length =
          some ⟨ticket, desired, reg, phase⟩ := by
        simp [task?, together]
      have first := leads_poll (c := c) Task.movesPerPoll found
      generalize moved : Task.poll c ticket desired Task.movesPerPoll rep reg phase = m at first
      have rest := ih m.reporter (polled ++ [m.registration]) (polledPhases ++ [m.phase]) (by simp [together]) phases
      simp only [Dispatch.pollTasks, moved]
      simp only [List.append_assoc, List.singleton_append] at rest
      refine first.trans ?_
      simpa [advance, together, modify_middle] using rest

/-- A round is a run. -/
theorem leads_pollAll (before : List Dispatch) (rep : Reporter) (regs : List Registration) (ds : List Dispatch) :
    Leads c ⟨rep, regs, before ++ ds⟩ ⟨(Dispatch.pollAll c rep regs ds).1, (Dispatch.pollAll c rep regs ds).2.1,
      before ++ (Dispatch.pollAll c rep regs ds).2.2⟩ := by
  induction ds generalizing before rep regs with
  | nil => exact .refl _
  | cons d ds ih =>
    have first := leads_pollTasks (c := c) before ds d.ticket d.desired rep [] [] rfl regs d.phases
    simp only [List.nil_append] at first
    generalize polled : Dispatch.pollTasks c d.ticket d.desired rep regs d.phases = result at first
    obtain ⟨rep', regs', phases⟩ := result
    have rest := ih (before ++ [{ d with phases }]) rep' regs'
    simp only [List.append_assoc, List.singleton_append] at rest
    simp only [Dispatch.pollAll, polled]
    exact first.trans rest

end Session

namespace Dispatch

/-- Another round begins while the limit lasts. -/
theorem rounds_succ (c : Convention) (fuel : Nat) {limit : Option Nat} (lasts : limit ≠ some 0) (rep : Reporter)
    (regs : List Registration) (ds : List Dispatch) :
    rounds c (fuel + 1) limit rep regs ds =
      if (pollAll c rep regs ds).2.2.all isFinished then
        ((pollAll c rep regs ds).1, (pollAll c rep regs ds).2.1, some (pollAll c rep regs ds).2.2)
      else rounds c fuel (limit.map (· - 1)) (pollAll c rep regs ds).1 (pollAll c rep regs ds).2.1
        (pollAll c rep regs ds).2.2 := by
  cases limit with
  | none => rfl
  | some n =>
    cases n with
    | zero => exact absurd rfl lasts
    | succ n => rfl

end Dispatch

namespace Session
variable {c : Convention}

/-- Rounds are a run, which is over when all dispatches have ended and is dropped otherwise. -/
theorem leads_rounds (fuel : Nat) (limit : Option Nat) (s : Session) :
    ∃ s', Leads c s s' ∧
      (Dispatch.rounds c fuel limit s.reporter s.registrations s.dispatches =
          (s'.reporter, s'.registrations, some s'.dispatches) ∧ s'.isOver = true ∨
        Dispatch.rounds c fuel limit s.reporter s.registrations s.dispatches =
          (s'.reporter, s'.registrations.map Registration.free, none)) := by
  induction fuel generalizing limit s with
  | zero => exact ⟨s, .refl s, .inr rfl⟩
  | succ fuel ih =>
    by_cases lasts : limit = some 0
    · subst lasts
      exact ⟨s, .refl s, .inr rfl⟩
    · have round := leads_pollAll (c := c) [] s.reporter s.registrations s.dispatches
      rw [Dispatch.rounds_succ c fuel lasts]
      simp only [List.nil_append] at round
      split
      · rename_i finished
        exact ⟨_, round, .inl ⟨rfl, finished⟩⟩
      · obtain ⟨s', leads, result⟩ := ih (limit.map (· - 1)) ⟨_, _, _⟩
        exact ⟨s', round.trans leads, result⟩

end Session

namespace Dispatcher
variable (d : Dispatcher) (sets : List DesiredSet) (limit : Option Nat)

/-- The rounds of a dispatch are enough for the pauses of each of its tasks. -/
theorem le_pausesPerDispatch {reg : Registration} (inside : reg ∈ d.registrations) :
    reg.handler.pauses + 2 * d.reporter.pauses + 4 ≤ d.pausesPerDispatch := by
  have grows (regs : List Registration) (n : Nat) :
      n ≤ regs.foldr (fun r n => r.handler.pauses + 2 * d.reporter.pauses + 2 + n) n := by
    induction regs with
    | nil => exact Nat.le_refl n
    | cons r regs ih => exact Nat.le_trans ih (Nat.le_add_left _ _)
  obtain ⟨before, after, parts⟩ := List.append_of_mem inside
  rw [pausesPerDispatch, parts, List.foldr_append, List.foldr_cons]
  have first := grows before (reg.handler.pauses + 2 * d.reporter.pauses + 2 +
    after.foldr (fun r n => r.handler.pauses + 2 * d.reporter.pauses + 2 + n) 2)
  have rest := grows after 2
  omega

/-- Concurrent dispatches are the rounds of a session. -/
theorem dispatchAll_rounds :
    d.dispatchAll sets limit =
      let result := Dispatch.rounds d.convention ((d.begin sets).dispatches.length * d.pausesPerDispatch + 1) limit
        (d.begin sets).reporter (d.begin sets).registrations (d.begin sets).dispatches
      (result.2.2.map fun ds => ds.map fun d => Dispatch.collect d.phases,
        { d with reporter := result.1, registrations := result.2.1 }) := rfl

/-- Concurrent dispatches are a session, which is over or is dropped. -/
theorem dispatchAll_run :
    ∃ schedule,
      (((d.begin sets).run d.convention schedule).1.isOver = true ∧
        d.dispatchAll sets limit =
          (some (((d.begin sets).run d.convention schedule).1.dispatches.map fun d => Dispatch.collect d.phases),
            d.resume ((d.begin sets).run d.convention schedule).1)) ∨
      d.dispatchAll sets limit = (none, d.abandon ((d.begin sets).run d.convention schedule).1) := by
  obtain ⟨s, ⟨schedule, rfl⟩, result⟩ := Session.leads_rounds (c := d.convention)
    ((d.begin sets).dispatches.length * d.pausesPerDispatch + 1) limit (d.begin sets)
  refine ⟨schedule, ?_⟩
  rw [dispatchAll_rounds]
  rcases result with ⟨rounds, finished⟩ | rounds
  · rw [rounds]
    exact .inl ⟨finished, rfl⟩
  · rw [rounds]
    exact .inr rfl

/-- What a device comes to by its dispatches is reached. -/
theorem reachable_dispatchAll {d : Dispatcher} {entries : List Entry} (reached : Reachable d entries)
    (sets : List DesiredSet) (limit : Option Nat) :
    ∃ schedule, Reachable (d.dispatchAll sets limit).2 (entries ++ ((d.begin sets).run d.convention schedule).2) := by
  obtain ⟨schedule, ⟨finished, result⟩ | result⟩ := dispatchAll_run d sets limit
  · exact ⟨schedule, by rw [result]; exact .ended reached sets schedule finished⟩
  · exact ⟨schedule, by rw [result]; exact .dropped reached sets schedule⟩

end Dispatcher
end DeviceTwin
