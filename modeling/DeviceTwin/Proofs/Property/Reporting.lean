import DeviceTwin.Proofs.Property.Closing
import DeviceTwin.Proofs.Property.Delivery

/-!
Which closed exchanges are reported to the caller. A dispatch that succeeds reports exactly the exchanges that it has
closed, in the order of registration; one that fails reports none, and the exchanges that it has closed are skipped from
then on. So in a run of dispatches all closed exchanges are reported exactly if no dispatch that fails has closed one
(`allReported_iff`).
-/
namespace DeviceTwin

namespace Dispatch

theorem outcome_ok {results : List (Except DeviceError (Option AckReport))} {reports : List AckReport}
    (succeeded : outcome results = .ok reports) : reports = results.filterMap report? := by
  unfold outcome at succeeded
  split at succeeded
  · cases succeeded
  · cases succeeded
    rfl

end Dispatch

/-- A dispatch in a run: what it has delivered and what it has returned, if it has returned. -/
structure Round where
  patches : List Patch
  result : Option (Except DeviceError (List AckReport))

/-- The reports that the caller gets. -/
def Round.reports (r : Round) : List AckReport :=
  match r.result with
  | some (.ok reports) => reports
  | _ => []

namespace Dispatcher

/-- The rounds of some dispatches, one after the other. -/
def history (d : Dispatcher) : List DesiredSet → List Round
  | [] => []
  | desired :: sets =>
    ⟨d.deliveredUntil (d.dispatch desired none).2, (d.dispatch desired none).1⟩ ::
      (d.dispatch desired none).2.history sets

/-- Each acknowledgement that is delivered in a run and closes an exchange is reported once, and nothing else is. -/
def AllReported (d : Dispatcher) (sets : List DesiredSet) : Prop :=
  ((d.history sets).flatMap Round.reports).Perm ((d.history sets).flatMap fun r => d.answers r.patches)

variable {d d' : Dispatcher} {entries : List Entry}

/-! ### One round -/

/-- What a round has delivered and returned, if the device answers for it. -/
structure Closes (d : Dispatcher) (r : Round) : Prop where
  returns : r.result.isSome = true
  acknowledges : ∀ patch ∈ r.patches, ∃ reg ∈ d.registrations, (reg.handler.ack? d.convention patch).isSome
  reports : ∀ reports, r.result = some (.ok reports) → reports = d.answers r.patches

theorem closes_dispatch (reached : Reachable d entries) (desired : DesiredSet) :
    Closes d ⟨d.deliveredUntil (d.dispatch desired none).2, (d.dispatch desired none).1⟩ := by
  obtain ⟨new, results, account⟩ := dispatch_accounted reached desired
  rw [account.deliveredUntil, account.returns]
  refine ⟨rfl, account.acknowledges, fun reports succeeded => ?_⟩
  rw [account.answers]
  exact Dispatch.outcome_ok (Option.some.inj succeeded)

theorem Closes.reports_eq {r : Round} (closes : Closes d r) :
    r.reports = d.answers r.patches ∨ (∃ e, r.result = some (.error e)) ∧ r.reports = [] := by
  obtain ⟨result, returned⟩ := Option.isSome_iff_exists.mp closes.returns
  cases result with
  | ok reports => exact .inl (by rw [← closes.reports reports returned, Round.reports, returned])
  | error e => exact .inr ⟨⟨e, returned⟩, by rw [Round.reports, returned]⟩

/-! ### Runs -/

theorem answers_congr (convention : d'.convention = d.convention)
    (handlers : d'.registrations.map (·.handler) = d.registrations.map (·.handler)) (patches : List Patch) :
    d'.answers patches = d.answers patches := by
  have mapped := congrArg (List.flatMap fun h => h.closings d.convention patches) handlers
  simp only [List.flatMap_map] at mapped
  rw [answers, answers, convention, mapped]

theorem Closes.congr {r : Round} (closes : Closes d' r) (convention : d'.convention = d.convention)
    (handlers : d'.registrations.map (·.handler) = d.registrations.map (·.handler)) : Closes d r := by
  refine ⟨closes.returns, fun patch member => ?_, fun reports succeeded => ?_⟩
  · obtain ⟨reg, inside, read⟩ := closes.acknowledges patch member
    have known : reg.handler ∈ d.registrations.map (·.handler) := handlers ▸ List.mem_map_of_mem inside
    obtain ⟨reg', inside', same⟩ := List.mem_map.mp known
    exact ⟨reg', inside', by rwa [same, ← convention]⟩
  · rw [← answers_congr convention handlers]
    exact closes.reports reports succeeded

/-- Every round of a run closes exchanges of the same device, and its rounds have delivered all that is new. -/
theorem closes_history (reached : Reachable d entries) (sets : List DesiredSet) :
    (∀ r ∈ d.history sets, Closes d r) ∧
      (d.dispatched sets).reporter.delivered = d.reporter.delivered ++ (d.history sets).flatMap Round.patches := by
  induction sets generalizing d entries with
  | nil => exact ⟨by simp [history], (List.append_nil _).symm⟩
  | cons desired sets ih =>
    obtain ⟨entries', reached'⟩ := reachable_dispatch reached desired
    obtain ⟨convention, handlers⟩ := dispatch_same reached desired
    obtain ⟨later, delivered⟩ := ih reached'
    constructor
    · rw [history, List.forall_mem_cons]
      exact ⟨closes_dispatch reached desired, fun r member => (later r member).congr convention handlers⟩
    · obtain ⟨new, results, account⟩ := dispatch_accounted reached desired
      change ((d.dispatch desired none).2.dispatched sets).reporter.delivered = _
      rw [delivered, account.delivers, history, List.flatMap_cons, account.deliveredUntil, List.append_assoc]

section Rounds
variable {rounds : List Round}

/-- No more is reported than has been closed. -/
theorem length_reports_le (closes : ∀ r ∈ rounds, Closes d r) :
    (rounds.flatMap Round.reports).length ≤ (rounds.flatMap fun r => d.answers r.patches).length := by
  induction rounds with
  | nil => exact Nat.le_refl 0
  | cons r rounds ih =>
    rw [List.forall_mem_cons] at closes
    have later := ih closes.2
    simp only [List.flatMap_cons, List.length_append]
    rcases closes.1.reports_eq with same | ⟨_, none⟩
    · rw [same]
      omega
    · rw [none, List.length_nil]
      omega

/-- If as much is reported as has been closed, each round has reported what it has closed. -/
theorem reports_eq_of_length (closes : ∀ r ∈ rounds, Closes d r)
    (all : (rounds.flatMap fun r => d.answers r.patches).length ≤ (rounds.flatMap Round.reports).length) :
    ∀ r ∈ rounds, r.reports = d.answers r.patches := by
  induction rounds with
  | nil => simp
  | cons r rounds ih =>
    rw [List.forall_mem_cons] at closes ⊢
    have later := length_reports_le closes.2
    simp only [List.flatMap_cons, List.length_append] at all
    rcases closes.1.reports_eq with same | ⟨_, none⟩
    · rw [same] at all
      exact ⟨same, ih closes.2 (by omega)⟩
    · rw [none, List.length_nil] at all
      have nothing : d.answers r.patches = [] := List.length_eq_zero_iff.mp (by omega)
      exact ⟨by rw [none, nothing], ih closes.2 (by omega)⟩

end Rounds

/-- In a run of dispatches, whatever fails in it, each dispatch returns, and one that succeeds reports the exchanges
    that it has closed and no others. All closed exchanges of the run are reported, each once, exactly if no dispatch
    that fails has closed one. -/
theorem allReported_iff (reached : Reachable d entries) (sets : List DesiredSet) :
    (d.dispatched sets).reporter.delivered = d.reporter.delivered ++ (d.history sets).flatMap Round.patches ∧
      (∀ r ∈ d.history sets, Closes d r) ∧
      (d.AllReported sets ↔
        ∀ r ∈ d.history sets, ∀ e, r.result = some (.error e) → d.answers r.patches = []) := by
  obtain ⟨closes, delivered⟩ := closes_history reached sets
  refine ⟨delivered, closes, fun all r member e failed => ?_, fun none => ?_⟩
  · have same := reports_eq_of_length closes all.length_eq.ge r member
    rw [← same, Round.reports, failed]
  · have same : ∀ r ∈ d.history sets, r.reports = d.answers r.patches := by
      intro r member
      rcases (closes r member).reports_eq with same | ⟨⟨e, failed⟩, nothing⟩
      · exact same
      · rw [nothing, none r member e failed]
    rw [AllReported, List.flatMap_congr same]

/-- The first call of the reporter loses the receipt of a value. When the value comes again it is answered, and nothing
    is lost of what has been closed. -/
theorem allReported_iff_losing :
    Reachable (losing 0) [] ∧
      (losing 0).AllReported (List.replicate 2 ⟨3, Patch.empty.insert "a" (.int 1)⟩) := by
  refine ⟨reachable_losing 0, (allReported_iff (reachable_losing 0) _).2.2.mpr ?_⟩
  have each : ((losing 0).history (List.replicate 2 ⟨3, Patch.empty.insert "a" (.int 1)⟩)).all
      (fun r => r.result.any (·.isOk) || ((losing 0).answers r.patches).isEmpty) = true := by decide +kernel
  intro r member e failed
  have here := List.all_eq_true.mp each r member
  rw [failed] at here
  exact List.isEmpty_iff.mp here

/-- A device with two handlers, whose reporter loses its third call. -/
def couple : Dispatcher :=
  ⟨.default, ⟨0, fun call => if call = 2 then some "lost" else none, 0, []⟩,
    [Registration.new (gauge "a" 0), Registration.new (gauge "b" 0)]⟩

theorem reachable_couple : Reachable couple [] :=
  .registered (h := gauge "b" 0) (.registered (h := gauge "a" 0) (.new .default couple.reporter) rfl) rfl

/-- A closed exchange can go unreported: the first dispatch closes the exchange of one property and fails for the other
    one, and the second dispatch, which succeeds with a set that holds both, reports only what is closed then. -/
theorem closes_unreported :
    Reachable couple [] ∧ (∀ reg ∈ couple.registrations, (reg.handler.wanted values).isSome = true) ∧
      (couple.history [values, values]).getLast?.any (fun r => r.result.any (·.isOk)) = true ∧
      ¬ couple.AllReported [values, values] := by
  refine ⟨reachable_couple, by decide +kernel, by decide +kernel, fun all => ?_⟩
  have fewer : ((couple.history [values, values]).flatMap Round.reports).length ≠
      ((couple.history [values, values]).flatMap fun r => couple.answers r.patches).length := by decide +kernel
  exact fewer all.length_eq

end Dispatcher
end DeviceTwin
