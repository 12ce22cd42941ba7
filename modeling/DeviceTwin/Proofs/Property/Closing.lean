import DeviceTwin.Proofs.Property.AnswerLaw
import DeviceTwin.Proofs.Property.Independence

/-!
What comes of a dispatch, whatever fails in it. The patches that it delivers are those of its tasks
(`Session.delivered_run`). Each acknowledges the property of its own handler and no other one
(`Task.Ended.acknowledge`), and so what is found of a property in all of them is what its task has delivered
(`reports_patchesOf`). A task that ends has delivered the acknowledgement that closes its exchange exactly if it has a
report of it (`Task.Ended.closings`). Together these are the account of a dispatch (`Dispatcher.dispatch_accounted`).
-/
namespace DeviceTwin

/-- The patches that are delivered in a run. -/
def patchesOf (entries : List Entry) : List Patch :=
  entries.filterMap fun e => e.event.delivered?

@[simp] theorem patchesOf_append (first rest : List Entry) :
    patchesOf (first ++ rest) = patchesOf first ++ patchesOf rest :=
  List.filterMap_append

theorem patchesOf_map (k i : Nat) (events : List Event) :
    patchesOf (events.map fun e => ⟨k, i, e⟩) = Task.deliveries events :=
  List.filterMap_map

/-! ### What a run leaves -/

namespace Task
variable {c : Convention} {ticket : Nat} {desired : DesiredSet} {rep : Reporter} {reg : Registration}

theorem settled_not_mem_calling (phase : Phase) (patch : Patch) (delivered : Bool) :
    .settled patch delivered ∉ calling phase := by
  cases phase <;> simp [calling]

/-- A reporter that does not fail loses no patch. -/
theorem unrefused_shows (accepts : ∀ n, rep.refusal n = none) (phase : Phase) (patch : Patch) :
    .settled patch false ∉ shows c ticket desired rep reg phase := by
  cases phase with
  | entering =>
    simp only [shows]
    split
    · simp [settled_not_mem_calling]
    · exact List.not_mem_nil
  | queued =>
    simp only [shows]
    split
    · simp [settled_not_mem_calling]
    · exact List.not_mem_nil
  | reporting pauses index other next =>
    cases pauses with
    | succ n => exact List.not_mem_nil
    | zero => cases next <;> simp [shows, accepts]
  | applying pauses o =>
    cases pauses with
    | succ n => exact List.not_mem_nil
    | zero => exact settled_not_mem_calling _ patch false
  | finished r => exact List.not_mem_nil

end Task

namespace Session
variable {c : Convention} {s : Session} {entries : List Entry}

/-- What a run delivers is what its entries say. -/
theorem delivered_run (schedule : List (Nat × Nat)) (proper : Proper c entries s) :
    (s.run c schedule).1.reporter.delivered = s.reporter.delivered ++ patchesOf (s.run c schedule).2 := by
  induction schedule generalizing s entries with
  | nil => exact (List.append_nil _).symm
  | cons move schedule ih =>
    obtain ⟨k, i⟩ := move
    have first : (s.next c k i).1.reporter.delivered = s.reporter.delivered ++ patchesOf (s.next c k i).2 := by
      cases found : s.task? k i with
      | none => simp [next, found, patchesOf]
      | some t =>
        rw [next_of_task c found, patchesOf_map]
        exact (Task.moved_reporter (move_moved proper found)).1
    simp only [run]
    rw [ih (proper_next proper k i), first, patchesOf_append, List.append_assoc]

/-- A run leaves the handlers alone. -/
theorem handlers_run (schedule : List (Nat × Nat)) :
    (s.run c schedule).1.registrations.map (·.handler) = s.registrations.map (·.handler) := by
  induction schedule generalizing s with
  | nil => rfl
  | cons move schedule ih =>
    obtain ⟨k, i⟩ := move
    have first : (s.next c k i).1.registrations.map (·.handler) = s.registrations.map (·.handler) := by
      cases found : s.task? k i with
      | none => simp [next, found]
      | some t =>
        have intact : Task.Intact s.reporter t.registration.handler (s.move c t) := Task.step_intact
        obtain ⟨_, _, registration, _⟩ := task?_eq_some found
        have here : (s.registrations.map (·.handler))[i]? = some t.registration.handler := by
          rw [List.getElem?_map, registration, Option.map_some]
        obtain ⟨inside, handler⟩ := List.getElem?_eq_some_iff.mp here
        simp only [next_of_task c found, advance, List.map_set, intact.handler, ← handler, List.set_getElem_self]
    exact ih.trans first

/-- A run leaves the desired sets alone. -/
theorem desired_run (schedule : List (Nat × Nat)) :
    (s.run c schedule).1.dispatches.map (·.desired) = s.dispatches.map (·.desired) := by
  induction schedule generalizing s with
  | nil => rfl
  | cons move schedule ih =>
    obtain ⟨k, i⟩ := move
    have first : (s.next c k i).1.dispatches.map (·.desired) = s.dispatches.map (·.desired) := by
      cases found : s.task? k i with
      | none => simp [next, found]
      | some t =>
        rw [next_of_task c found]
        apply List.ext_getElem?
        intro j
        simp only [advance, List.getElem?_map, List.getElem?_modify]
        cases s.dispatches[j]? with
        | none => rfl
        | some d => by_cases here : k = j <;> simp [here]
    exact ih.trans first

/-- What every move shows in sessions of some kind is all that a run shows. -/
theorem forall_run {kind : Session → Prop} {shown : Entry → Prop}
    (keeps : ∀ s k i, kind s → kind (s.next c k i).1)
    (shows : ∀ s k i t, kind s → s.task? k i = some t →
      ∀ e ∈ Task.shows c t.ticket t.desired s.reporter t.registration t.phase, shown ⟨k, i, e⟩)
    (schedule : List (Nat × Nat)) (begins : kind s) : ∀ e ∈ (s.run c schedule).2, shown e := by
  induction schedule generalizing s with
  | nil => simp [run]
  | cons move schedule ih =>
    obtain ⟨k, i⟩ := move
    intro e member
    have parts : e ∈ (s.next c k i).2 ++ ((s.next c k i).1.run c schedule).2 := member
    rcases List.mem_append.mp parts with here | later
    · cases found : s.task? k i with
      | none => simp [next, found] at here
      | some t =>
        rw [next_of_task c found] at here
        obtain ⟨event, inside, rfl⟩ := List.mem_map.mp here
        exact shows s k i t begins found event inside
    · exact ih (keeps s k i begins) e later

/-- All entries of one dispatch are of this dispatch. -/
theorem first_run (schedule : List (Nat × Nat)) (single : s.Single) : ∀ e ∈ (s.run c schedule).2, e.dispatch = 0 :=
  forall_run (fun _ k i single => single_next single k i) (fun _ _ _ _ single found _ _ => single.first found) schedule
    single

/-- A reporter that does not fail loses no patch of a run. -/
theorem unrefused_run (schedule : List (Nat × Nat)) (accepts : ∀ n, s.reporter.refusal n = none) :
    ∀ e ∈ (s.run c schedule).2, ∀ patch, e.event ≠ .settled patch false := by
  have keeps (s : Session) (k i : Nat) (accepts : ∀ n, s.reporter.refusal n = none) :
      ∀ n, (s.next c k i).1.reporter.refusal n = none := by
    rwa [(next_reporter c s k i).2]
  refine forall_run keeps (fun s k i t accepts found e inside patch same => ?_) schedule accepts
  subst same
  exact Task.unrefused_shows accepts t.phase patch inside

end Session

theorem taskEvents_eq_eventsOf {entries : List Entry} (first : ∀ e ∈ entries, e.dispatch = 0) (i : Nat) :
    taskEvents 0 i entries = eventsOf i entries := by
  apply List.filterMap_congr
  intro e member
  simp [first e member]

/-! ### What a task has delivered -/

namespace Task.Ended
variable {c : Convention} {h : Handler} {desired : DesiredSet} {result : Except DeviceError (Option AckReport)}
  {events : List Event}

/-- The patches of a task acknowledge the property of its handler, and no other one. -/
theorem acknowledge (ended : Ended c h desired result events) : Handler.Acknowledge c [h] (deliveries events) := by
  cases ended with
  | rejected bad built => exact Handler.acknowledge_buildAck built
  | unanswered good built failed => exact Handler.acknowledge_buildAck built
  | answerLost reason good built closed => exact Handler.acknowledge_buildAck built
  | answered good built closed =>
    exact (Handler.acknowledge_buildAck built).append (Handler.acknowledge_buildAck closed)
  | _ => exact .nil _

/-- A task has delivered the acknowledgement that closes its exchange exactly if it has a report of it. -/
theorem closings (ended : Ended c h desired result events) :
    h.closings c (deliveries events) = (report? result).toList := by
  have receipt {version : Int64} {value : Json} {patch : Patch} (built : h.receipt c version value = .ok patch) :
      h.closings c [patch] = [] := by
    rw [Handler.closings, Handler.reports_receipt built]
    rfl
  cases ended with
  | @rejected state raw e patch bad built =>
    change h.closings c [patch] = _
    rw [Handler.closings, Handler.reports_rejection built]
    rfl
  | unanswered good built failed => exact receipt built
  | answerLost reason good built closed => exact receipt built
  | @answered state raw value patch last run good built closed =>
    change h.closings c ([patch] ++ [last]) = _
    have terminal : AckCode.isTerminal (h.summary desired.version (closing (h.respond run value)).1
        (closing (h.respond run value)).2).code = true := isTerminal_closing _
    rw [Handler.closings, Handler.reports_append, List.filter_append, ← Handler.closings, receipt built,
      Handler.reports_answer closed, List.nil_append, List.filter_singleton, terminal]
    rfl
  | _ => rfl

end Task.Ended

/-- What is found of a property in the patches of a run is what its own tasks have delivered, if the others deliver
    nothing of it. -/
theorem reports_patchesOf {c : Convention} {h : Handler} {i : Nat} {entries : List Entry}
    (others : ∀ e ∈ entries, e.handler ≠ i → ∀ patch ∈ e.event.delivered?, h.ack? c patch = none) :
    h.reports c (patchesOf entries) = h.reports c (Task.deliveries (eventsOf i entries)) := by
  simp only [Handler.reports, patchesOf, eventsOf, List.filterMap_filterMap]
  apply List.filterMap_congr
  intro e member
  by_cases own : e.handler = i
  · simp [own]
  · cases delivers : e.event.delivered? with
    | none => simp [own]
    | some patch => simp [own, others e member own patch delivers]

/-! ### The account of a dispatch -/

namespace Registration
variable {reg : Registration} {c : Convention} {version : Int64} {raw : Json} {given : List (Option String)}
  {p : Performance}

/-- A handler whose property is wanted finds its exchange as it was. -/
theorem solo_found (idle : reg.Idle) (unreserved : reg.handler.property ≠ markerKey)
    (performed : reg.solo c version (some raw) given = some p) :
    ∃ tail, p.events = .found reg.exchange.state version :: tail := by
  have found : ((reg.device c given).begin [reg.ownSet version (some raw)]).task? 0 0 =
    some ⟨0, reg.ownSet version (some raw), { reg with handler := reg.handler.eager }, .entering⟩ := rfl
  have wants : reg.handler.eager.wanted (reg.ownSet version (some raw)) = some raw :=
    property_singleEntry unreserved raw rfl
  obtain ⟨t, _, _, same⟩ := Session.performance?_eq_some performed
  rw [same]
  simp only [List.replicate_succ, Session.run, Session.next_of_task c found, eventsOf_append, eventsOf_own, Task.shows,
    wants, idle.owner, Option.isSome_some, and_self, if_true, List.cons_append]
  exact ⟨_, rfl⟩

end Registration

/-- How a handler comes out of a dispatch that delivers some patches: the end of its task with what the task has shown,
    in which the exchange is found as it was before, and which delivers all that is found of the property. -/
structure Part (d : Dispatcher) (desired : DesiredSet) (new : List Patch) (reg : Registration)
    (result : Except DeviceError (Option AckReport)) (events : List Event) : Prop where
  ended : Task.Ended d.convention reg.handler desired result events
  begins : (reg.handler.wanted desired).isSome = true →
    ∃ tail, events = .found reg.exchange.state desired.version :: tail
  reports : reg.handler.reports d.convention new = reg.handler.reports d.convention (Task.deliveries events)
  unrefused : (∀ n, d.reporter.refusal n = none) → ∀ patch, .settled patch false ∉ events

/-- What comes of a dispatch: the patches that it delivers, and a result for each handler. -/
structure Accounted (d : Dispatcher) (desired : DesiredSet) (new : List Patch)
    (results : List (Except DeviceError (Option AckReport))) : Prop where
  returns : (d.dispatch desired none).1 = some (Dispatch.outcome results)
  delivers : (d.dispatch desired none).2.reporter.delivered = d.reporter.delivered ++ new
  acknowledges : ∀ patch ∈ new, ∃ reg ∈ d.registrations, (reg.handler.ack? d.convention patch).isSome
  parts : List.Forall₂ (fun reg result => ∃ events, Part d desired new reg result events) d.registrations results

namespace Dispatcher
variable {d d' : Dispatcher} {entries : List Entry}

theorem Keyed.congr (keyed : d.Keyed)
    (same : d'.registrations.map (·.handler) = d.registrations.map (·.handler)) : d'.Keyed := by
  have handlers : (d.registrations.map (·.handler)).Pairwise fun h other => ¬ h.SameProperty other :=
    List.pairwise_map.mpr keyed.distinct
  have names : ∀ h ∈ d.registrations.map (·.handler), componentName? h.component = h.component := by
    simpa using keyed.normal
  rw [← same] at handlers names
  exact ⟨List.pairwise_map.mp handlers, by simpa using names⟩

theorem Keyed.apart {i j : Nat} {reg other : Registration} (keyed : d.Keyed) (there : d.registrations[j]? = some other)
    (here : d.registrations[i]? = some reg) (different : j ≠ i) : ¬ other.handler.SameProperty reg.handler := by
  obtain ⟨insideOther, rfl⟩ := List.getElem?_eq_some_iff.mp there
  obtain ⟨inside, rfl⟩ := List.getElem?_eq_some_iff.mp here
  have pairs := List.pairwise_iff_getElem.mp keyed.distinct
  rcases Nat.lt_or_gt_of_ne different with before | after
  · exact pairs j i insideOther inside before
  · exact fun same => pairs i j inside insideOther after same.symm

/-- Whatever a device has come to, each property has one handler. -/
theorem keyed_of_reachable (reached : Reachable d entries) : d.Keyed := by
  induction reached with
  | new c rep => exact ⟨.nil, by simp [Dispatcher.new]⟩
  | registered before registers ih => exact keyed_register ih registers
  | reported before name value component ih =>
    exact ih.congr (congrArg _ (reportProperty_same _ name value component).1)
  | @ended d entries before sets schedule finished ih => exact ih.congr (Session.handlers_run schedule)
  | @dropped d entries before sets schedule ih =>
    refine ih.congr ?_
    have same : ((d.begin sets).run d.convention schedule).1.registrations.map (·.handler) =
        d.registrations.map (·.handler) := Session.handlers_run schedule
    rw [← same]
    simp [abandon, Registration.free]

theorem unreserved_of_wanted {h : Handler} {desired : DesiredSet} (wants : (h.wanted desired).isSome = true) :
    h.property ≠ markerKey := by
  intro reserved
  simp [Handler.wanted, DesiredSet.property, Patch.property, reserved] at wants

section Run
variable {desired : DesiredSet} {schedule : List (Nat × Nat)} {i : Nat} {reg : Registration} {p : Performance}

/-- A performance shows how the task of the handler has ended. -/
theorem ended_of_performance? (reached : Reachable d entries) (there : d.registrations[i]? = some reg)
    (performed : Session.performance? ((d.begin [desired]).run d.convention schedule) i = some p) :
    p.events = eventsOf i ((d.begin [desired]).run d.convention schedule).2 ∧
      Task.Ended d.convention reg.handler desired p.result p.events := by
  have proper := Session.proper_run schedule (proper_begin (settled_of_reachable reached) [desired])
  have first := Session.first_run (c := d.convention) schedule (single_begin d desired)
  have handlers := Session.handlers_run (c := d.convention) (s := d.begin [desired]) schedule
  have sets := Session.desired_run (c := d.convention) (s := d.begin [desired]) schedule
  obtain ⟨t, found, finished, same⟩ := Session.performance?_eq_some performed
  obtain ⟨dispatch, inDispatches, registration, _, _, wanted⟩ := Session.task?_eq_some found
  have handler : t.registration.handler = reg.handler := by
    have here := congrArg (·[i]?) handlers
    rw [List.getElem?_map, registration, List.getElem?_map] at here
    exact Option.some.inj (here.trans (congrArg (Option.map (·.handler)) there))
  have set : t.desired = desired := by
    have here := congrArg (·[0]?) sets
    simp only [List.getElem?_map, inDispatches, Option.map_some] at here
    exact wanted.symm.trans (Option.some.inj here)
  have ended := (finished ▸ proper.stage found).ended
  rw [List.nil_append, taskEvents_eq_eventsOf first, handler, set] at ended
  have events : p.events = eventsOf i ((d.begin [desired]).run d.convention schedule).2 :=
    congrArg Performance.events same
  exact ⟨events, events ▸ ended⟩

/-- When all tasks have ended, a patch that one of them has delivered acknowledges the property of its handler. -/
theorem acknowledge_of_performances (reached : Reachable d entries)
    (all : ∀ j, j < d.registrations.length →
      ∃ q, Session.performance? ((d.begin [desired]).run d.convention schedule) j = some q)
    {e : Entry} {patch : Patch} (member : e ∈ ((d.begin [desired]).run d.convention schedule).2)
    (delivers : patch ∈ e.event.delivered?) :
    ∃ other patches, d.registrations[e.handler]? = some other ∧
      Handler.Acknowledge d.convention [other.handler] patches ∧ patch ∈ patches := by
  have shown : e.event ∈ eventsOf e.handler ((d.begin [desired]).run d.convention schedule).2 :=
    List.mem_filterMap.mpr ⟨e, member, if_pos rfl⟩
  have inside : e.handler < d.registrations.length := by
    by_contra outside
    rw [Session.eventsOf_run schedule (Nat.not_lt.mp outside)] at shown
    cases shown
  obtain ⟨q, performed⟩ := all e.handler inside
  obtain ⟨events, ended⟩ := ended_of_performance? reached (List.getElem?_eq_getElem inside) performed
  refine ⟨_, _, List.getElem?_eq_getElem inside, ended.acknowledge, ?_⟩
  rw [events]
  exact List.mem_filterMap.mpr ⟨e.event, shown, delivers⟩

/-- When all tasks have ended, a handler has its part in what they have delivered together. -/
theorem part_of_performance? (reached : Reachable d entries) (there : d.registrations[i]? = some reg)
    (performed : Session.performance? ((d.begin [desired]).run d.convention schedule) i = some p)
    (all : ∀ j, j < d.registrations.length →
      ∃ q, Session.performance? ((d.begin [desired]).run d.convention schedule) j = some q) :
    Part d desired (patchesOf ((d.begin [desired]).run d.convention schedule).2) reg p.result p.events := by
  obtain ⟨events, ended⟩ := ended_of_performance? reached there performed
  refine ⟨ended, fun wants => ?_, ?_, fun accepts patch member => ?_⟩
  · obtain ⟨raw, wanted⟩ := Option.isSome_iff_exists.mp wants
    have idle := idle_of_reachable reached reg (List.mem_of_getElem? there)
    have alone := solo_of_performance? idle there schedule performed
    rw [wanted] at alone
    exact Registration.solo_found idle (unreserved_of_wanted wants) alone
  · rw [events]
    refine reports_patchesOf fun e member different patch delivers => ?_
    obtain ⟨other, patches, there', acked, inside⟩ := acknowledge_of_performances reached all member delivers
    have apart := (keyed_of_reachable reached).apart there' there different
    have silent := acked.others reg.handler (by simpa using apart)
    simpa using List.filterMap_eq_nil_iff.mp silent patch inside
  · rw [events] at member
    obtain ⟨e, inside, shown⟩ := List.mem_filterMap.mp member
    split at shown
    · exact Session.unrefused_run schedule accepts e inside patch (Option.some.inj shown)
    · cases shown

end Run

/-- A dispatch ends in a run of its tasks. -/
theorem dispatch_over (reached : Reachable d entries) (desired : DesiredSet) :
    ∃ schedule, ((d.begin [desired]).run d.convention schedule).1.isOver = true ∧
      d.dispatch desired none =
        ((((d.begin [desired]).run d.convention schedule).1.dispatches.map fun d => Dispatch.collect d.phases).head?,
          d.resume ((d.begin [desired]).run d.convention schedule).1) := by
  obtain ⟨schedule, finished, ends⟩ := dispatch_ends (idle_of_reachable reached) desired
  exact ⟨schedule, finished, by simp only [dispatch, ends, Option.bind_some]⟩

theorem reachable_dispatch (reached : Reachable d entries) (desired : DesiredSet) :
    ∃ entries', Reachable (d.dispatch desired none).2 entries' := by
  obtain ⟨schedule, after⟩ := reachable_dispatchAll reached [desired] none
  exact ⟨_, after⟩

/-- A dispatch leaves the handlers and the convention alone. -/
theorem dispatch_same (reached : Reachable d entries) (desired : DesiredSet) :
    (d.dispatch desired none).2.convention = d.convention ∧
      (d.dispatch desired none).2.registrations.map (·.handler) = d.registrations.map (·.handler) := by
  obtain ⟨schedule, _, dispatched⟩ := dispatch_over reached desired
  rw [dispatched]
  exact ⟨rfl, Session.handlers_run schedule⟩

/-- Every dispatch ends, and comes to an account. -/
theorem dispatch_accounted (reached : Reachable d entries) (desired : DesiredSet) :
    ∃ new results, Accounted d desired new results := by
  obtain ⟨schedule, finished, dispatched⟩ := dispatch_over reached desired
  obtain ⟨results, length, performed, collected⟩ :=
    Session.results_of_over ((d.begin [desired]).run d.convention schedule).2
      (Session.single_run schedule (single_begin d desired)) (Session.full_run schedule full_begin) finished
  rw [Session.length_run] at length
  have all (i : Nat) (inside : i < results.length) :
      ∃ p, Session.performance? ((d.begin [desired]).run d.convention schedule) i = some p ∧ p.result = results[i] := by
    have here := performed i
    rw [List.getElem?_eq_getElem inside] at here
    exact Option.map_eq_some_iff.mp here.symm
  have each (i : Nat) (inside : i < d.registrations.length) :
      ∃ p, Session.performance? ((d.begin [desired]).run d.convention schedule) i = some p :=
    (all i (length ▸ inside)).imp fun _ found => found.1
  refine ⟨patchesOf ((d.begin [desired]).run d.convention schedule).2, results, ?_, ?_, fun patch member => ?_, ?_⟩
  · rw [dispatched, collected]
    rfl
  · rw [dispatched]
    exact Session.delivered_run schedule (proper_begin (settled_of_reachable reached) [desired])
  · obtain ⟨e, inside, delivers⟩ := List.mem_filterMap.mp member
    obtain ⟨other, patches, there, acked, delivered⟩ := acknowledge_of_performances reached each inside delivers
    obtain ⟨h, same, read⟩ := acked.each patch delivered
    exact ⟨other, List.mem_of_getElem? there, List.mem_singleton.mp same ▸ read⟩
  · refine List.forall₂_iff_get.mpr ⟨length.symm, fun i inside inside' => ?_⟩
    obtain ⟨p, performs, result⟩ := all i inside'
    rw [List.get_eq_getElem, List.get_eq_getElem, ← result]
    exact ⟨p.events, part_of_performance? reached (List.getElem?_eq_getElem inside) performs each⟩

/-- The acknowledgements among some patches that close an exchange of the device, in the order of registration. -/
def answers (d : Dispatcher) (patches : List Patch) : List AckReport :=
  d.registrations.flatMap fun reg => reg.handler.closings d.convention patches

/-- The patches that are delivered until the device has become another one. -/
def deliveredUntil (d d' : Dispatcher) : List Patch :=
  d'.reporter.delivered.drop d.reporter.delivered.length

end Dispatcher

section Account
variable {d : Dispatcher} {desired : DesiredSet} {new : List Patch} {reg : Registration}
  {result : Except DeviceError (Option AckReport)} {results : List (Except DeviceError (Option AckReport))}
  {events : List Event}

/-- A handler has closed its exchange exactly if it has a report of it. -/
theorem Part.closings (part : Part d desired new reg result events) :
    reg.handler.closings d.convention new = (report? result).toList := by
  rw [Handler.closings, part.reports]
  exact part.ended.closings

theorem Accounted.deliveredUntil (account : Accounted d desired new results) :
    d.deliveredUntil (d.dispatch desired none).2 = new := by
  rw [Dispatcher.deliveredUntil, account.delivers, List.drop_left]

theorem closings_of_parts {regs : List Registration}
    (parts : List.Forall₂ (fun reg result => ∃ events, Part d desired new reg result events) regs results) :
    (regs.flatMap fun reg => reg.handler.closings d.convention new) = results.filterMap report? := by
  induction parts with
  | nil => rfl
  | @cons reg result regs results part parts ih =>
    obtain ⟨events, part⟩ := part
    rw [List.flatMap_cons, ih, part.closings, List.filterMap_cons]
    cases report? result <;> rfl

/-- The exchanges that a dispatch has closed are those of which its handlers have reports. -/
theorem Accounted.answers (account : Accounted d desired new results) : d.answers new = results.filterMap report? :=
  closings_of_parts account.parts

end Account
end DeviceTwin
