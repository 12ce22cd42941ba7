import DeviceTwin.Proofs.Property.Course

/-!
What a device can come to. It is `Reachable` by registrations, reports of its own, and sessions of dispatches that run
in any order of their moves until they are over or are dropped. Whatever has been reached, each property has gone
through a course of episodes (`course_of_reachable`). The polling rounds of `Dispatcher.dispatchAll` are one order of
moves among others (`dispatchAll_run`), so what is proved of all sessions is proved of what the device runs.
-/
namespace DeviceTwin

namespace Session
variable {c : Convention} {s : Session} {k i : Nat}

/-- All dispatches have ended. -/
def isOver (s : Session) : Bool :=
  s.dispatches.all Dispatch.isFinished

@[simp] theorem length_next (k i : Nat) : (s.next c k i).1.registrations.length = s.registrations.length := by
  cases found : s.task? k i <;> simp [next, found, advance]

/-- Nothing is seen of a property that is not there. -/
theorem eventsOf_next (absent : s.registrations.length ≤ i) (k i' : Nat) : eventsOf i (s.next c k i').2 = [] := by
  cases found : s.task? k i' with
  | none => simp [next, found, eventsOf]
  | some t =>
    obtain ⟨_, _, registration, _⟩ := task?_eq_some found
    have inside := (List.getElem?_eq_some_iff.mp registration).1
    rw [next_of_task c found]
    exact eventsOf_foreign (by omega) _ _

theorem eventsOf_run (schedule : List (Nat × Nat)) (absent : s.registrations.length ≤ i) :
    eventsOf i (s.run c schedule).2 = [] := by
  induction schedule generalizing s with
  | nil => rfl
  | cons move schedule ih =>
    obtain ⟨k, i'⟩ := move
    have rest := ih (s := (s.next c k i').1) (by simpa using absent)
    simp only [run, eventsOf_append, eventsOf_next absent, rest, List.append_nil]

@[simp] theorem length_run (schedule : List (Nat × Nat)) :
    (s.run c schedule).1.registrations.length = s.registrations.length := by
  induction schedule generalizing s with
  | nil => rfl
  | cons move schedule ih =>
    obtain ⟨k, i⟩ := move
    exact ih.trans (length_next k i)

end Session

namespace Dispatcher

/-- Some dispatches on a device, before any of them has moved. -/
def begin (d : Dispatcher) (sets : List DesiredSet) : Session :=
  ⟨d.reporter, d.registrations,
    sets.zipIdx.map fun (set, ticket) => ⟨ticket, set, d.registrations.map fun _ => .entering⟩⟩

/-- The device after a session that is over. -/
def resume (d : Dispatcher) (s : Session) : Dispatcher :=
  { d with reporter := s.reporter, registrations := s.registrations }

/-- The device after a session that is dropped. -/
def abandon (d : Dispatcher) (s : Session) : Dispatcher :=
  { d with reporter := s.reporter, registrations := s.registrations.map Registration.free }

/-- Devices, with what has been seen of their dispatches. -/
inductive Reachable : Dispatcher → List Entry → Prop where
  | new (c : Convention) (rep : Reporter) : Reachable (Dispatcher.new c rep) []
  | registered {d d' : Dispatcher} {entries : List Entry} {h : Handler} (before : Reachable d entries)
      (registers : d.register h = .ok d') : Reachable d' entries
  | reported {d : Dispatcher} {entries : List Entry} (before : Reachable d entries) (name : String) (value : Datum)
      (component : Option String) : Reachable (d.reportProperty name value component).2 entries
  | ended {d : Dispatcher} {entries : List Entry} (before : Reachable d entries) (sets : List DesiredSet)
      (schedule : List (Nat × Nat)) (finished : ((d.begin sets).run d.convention schedule).1.isOver = true) :
      Reachable (d.resume ((d.begin sets).run d.convention schedule).1)
        (entries ++ ((d.begin sets).run d.convention schedule).2)
  | dropped {d : Dispatcher} {entries : List Entry} (before : Reachable d entries) (sets : List DesiredSet)
      (schedule : List (Nat × Nat)) :
      Reachable (d.abandon ((d.begin sets).run d.convention schedule).1)
        (entries ++ ((d.begin sets).run d.convention schedule).2)

variable {d d' : Dispatcher} {entries : List Entry} {sets : List DesiredSet} {i k : Nat} {reg : Registration}

/-- A task that has not moved enters. -/
theorem task?_begin {t : Standing} (found : (d.begin sets).task? k i = some t) :
    t.ticket = k ∧ t.phase = .entering ∧ sets[k]? = some t.desired := by
  obtain ⟨dispatch, there, registration, phased, ticket, desired⟩ := Session.task?_eq_some found
  simp only [begin, List.getElem?_map, List.getElem?_zipIdx, Option.map_map, Option.map_eq_some_iff,
    Nat.zero_add] at there
  obtain ⟨set, inSets, rfl⟩ := there
  simp only [Function.comp_apply, List.getElem?_map, Option.map_eq_some_iff] at phased ticket desired
  obtain ⟨_, _, entering⟩ := phased
  exact ⟨ticket.symm, entering.symm, desired ▸ inSets⟩

theorem full_begin : (d.begin sets).Full := by
  intro dispatch member
  obtain ⟨_, _, rfl⟩ := List.mem_map.mp member
  simp [begin]

/-- What holds between the sessions of a device. -/
structure Settled (d : Dispatcher) (entries : List Entry) : Prop where
  sound : ∀ {i : Nat} {reg : Registration}, d.registrations[i]? = some reg → reg.Sound
  course : ∀ {i : Nat} {reg : Registration}, d.registrations[i]? = some reg →
    Course d.convention reg.handler reg.exchange.state (eventsOf i entries)
  absent : ∀ {i : Nat}, d.registrations.length ≤ i → eventsOf i entries = []

theorem proper_begin (settled : Settled d entries) (sets : List DesiredSet) :
    Session.Proper d.convention [] (d.begin sets) := by
  refine ⟨settled.sound, fun found => (task?_begin found).1, fun found => ?_, fun found holds => ?_⟩
  · rw [(task?_begin found).2.1]
    exact .entering _
  · rw [(task?_begin found).2.1] at holds
    exact holds.elim

theorem ordered_begin (settled : Settled d entries) (sets : List DesiredSet) (i : Nat) :
    Session.Ordered d.convention (eventsOf i entries) i [] (d.begin sets) := by
  refine ⟨fun there _ => ?_, fun found holds => ?_⟩
  · simpa [eventsOf] using settled.course there
  · rw [(task?_begin found).2.1] at holds
    exact holds.elim

variable (schedule : List (Nat × Nat))

/-- Every property is settled after a session, even if the session breaks off. -/
theorem settled_run (settled : Settled d entries) :
    Settled (d.resume ((d.begin sets).run d.convention schedule).1)
      (entries ++ ((d.begin sets).run d.convention schedule).2) := by
  have proper := Session.proper_run schedule (proper_begin settled sets)
  refine ⟨proper.sound, fun {i} {reg} there => ?_, fun {i} absent => ?_⟩
  · have ordered := Session.ordered_run schedule (ordered_begin settled sets i) (proper_begin settled sets)
    rw [eventsOf_append]
    exact ordered.course proper there
  · have length : (d.begin sets).registrations.length ≤ i := by simpa [resume] using absent
    rw [eventsOf_append, Session.eventsOf_run schedule length, settled.absent length, List.append_nil]

theorem settled_abandon {s : Session} (settled : Settled (d.resume s) entries) : Settled (d.abandon s) entries := by
  have before : ∀ {i : Nat} {reg : Registration}, (d.abandon s).registrations[i]? = some reg →
      ∃ reg₀, s.registrations[i]? = some reg₀ ∧ reg₀.free = reg := by
    intro i reg there
    simpa [abandon] using there
  refine ⟨fun there => ?_, fun there => ?_, fun absent => settled.absent (by simpa [abandon, resume] using absent)⟩
  · obtain ⟨reg₀, there₀, rfl⟩ := before there
    have sound : reg₀.Sound := settled.sound there₀
    exact sound
  · obtain ⟨reg₀, there₀, rfl⟩ := before there
    have course : Course d.convention reg₀.handler reg₀.exchange.state _ := settled.course there₀
    exact course

theorem settled_register {h : Handler} (settled : Settled d entries) (registers : d.register h = .ok d') :
    Settled d' entries := by
  simp only [register] at registers
  split at registers
  · cases registers
  · cases registers
    have last : ∀ {i : Nat} {reg : Registration} {new : Registration},
        (d.registrations ++ [new])[i]? = some reg →
        d.registrations[i]? = some reg ∨ (i = d.registrations.length ∧ reg = new) := by
      intro i reg new there
      rw [List.getElem?_append] at there
      split at there
      · exact .inl there
      · have first := (List.getElem?_eq_some_iff.mp there).1
        simp only [List.length_singleton] at first
        have here : i = d.registrations.length := by omega
        subst here
        simp only [Nat.sub_self, List.getElem?_cons_zero, Option.some.injEq] at there
        exact .inr ⟨rfl, there.symm⟩
    refine ⟨fun there => ?_, fun there => ?_, fun absent => settled.absent ?_⟩
    · rcases last there with before | ⟨_, rfl⟩
      · exact settled.sound before
      · rfl
    · rcases last there with before | ⟨rfl, rfl⟩
      · exact settled.course before
      · rw [settled.absent (Nat.le_refl _)]
        exact .start
    · simp only [List.length_append, List.length_singleton] at absent
      omega

/-- A report of the device itself touches no exchange. -/
theorem reportProperty_same (d : Dispatcher) (name : String) (value : Datum) (component : Option String) :
    (d.reportProperty name value component).2.registrations = d.registrations ∧
      (d.reportProperty name value component).2.convention = d.convention := by
  simp only [reportProperty]
  split
  · exact ⟨rfl, rfl⟩
  · split <;> exact ⟨rfl, rfl⟩

theorem settled_of_reachable (reached : Reachable d entries) : Settled d entries := by
  induction reached with
  | new c rep =>
    refine ⟨fun there => ?_, fun there => ?_, fun _ => rfl⟩
    · simp [Dispatcher.new] at there
    · simp [Dispatcher.new] at there
  | registered before registers ih => exact settled_register ih registers
  | @reported d entries before name value component ih =>
    obtain ⟨registrations, convention⟩ := reportProperty_same d name value component
    refine ⟨?_, ?_, ?_⟩
    · rw [registrations]
      exact ih.sound
    · rw [registrations, convention]
      exact ih.course
    · rw [registrations]
      exact ih.absent
  | ended before sets schedule finished ih => exact settled_run schedule ih
  | dropped before sets schedule ih => exact settled_abandon (settled_run schedule ih)

/-- Whatever a device has come to, each property has gone through a course of episodes. -/
theorem course_of_reachable (reached : Reachable d entries) (there : d.registrations[i]? = some reg) :
    Course d.convention reg.handler reg.exchange.state (eventsOf i entries) :=
  (settled_of_reachable reached).course there

end Dispatcher
end DeviceTwin
