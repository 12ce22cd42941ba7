import DeviceTwin.Proofs.Property.Closing

/-!
Which properties can be answered. A handler may be registered under any name, and a desired set may hold a value under
any name, but no patch is built for a property without a name. Where values can be written and reports do not fail, this
is all that stands in the way: a dispatch answers every property with a name that is due an answer, and it succeeds
exactly if no handler without a name is wanted by its set (`answersAll_iff`).
-/
namespace DeviceTwin

namespace Handler
variable {c : Convention} {h : Handler}

/-- A payload in which a handler finds a value is a set that wants the handler. -/
theorem wanted_of_ofPayload {serializer : Serializer} {payload : String}
    (found : (DesiredSet.ofPayload serializer payload).toOption.any (h.wanted · |>.isSome) = true) :
    ∃ desired, DesiredSet.ofPayload serializer payload = .ok desired ∧ (h.wanted desired).isSome = true := by
  cases parsed : DesiredSet.ofPayload serializer payload with
  | error e =>
    rw [parsed] at found
    cases found
  | ok desired =>
    rw [parsed] at found
    exact ⟨desired, rfl, found⟩

end Handler

/-! ### Handlers without a name -/

section Unnamed
variable {c : Convention} {h : Handler} {value : Datum} {code : AckCode} {version : Int64}
  {description component : Option String} {patch : Patch} {failure : TwinError} (unnamed : h.property = "")
include unnamed

/-- No patch is built for a property without a name. -/
theorem buildAck_unnamed :
    c.buildAck h.property value code version description component = .error .emptyName := by
  rw [unnamed]
  rfl

theorem unbuilt_of_unnamed (built : c.buildAck h.property value code version description component = .ok patch) :
    False := by
  rw [buildAck_unnamed unnamed] at built
  cases built

theorem failure_of_unnamed
    (failed : c.buildAck h.property value code version description component = .error failure) :
    failure = .emptyName := by
  rw [buildAck_unnamed unnamed] at failed
  cases failed
  rfl

/-- The exchange of a property without a name never begins. -/
theorem Course.idle_of_unnamed {state : ExchangeState} {events : List Event} (course : Course c h state events) :
    state = .idle := by
  induction course with
  | start => rfl
  | episode before now ih =>
    cases now with
    | skipped => exact ih
    | failed => rw [ih]; rfl
    | rejecting bad built => exact (unbuilt_of_unnamed unnamed built).elim
    | acknowledging good built => exact (unbuilt_of_unnamed unnamed built).elim
    | applying good built => exact (unbuilt_of_unnamed unnamed built).elim
    | answering good built => exact (unbuilt_of_unnamed unnamed built).elim

end Unnamed

/-! ### The end of a task -/

namespace Task.Ended
variable {c : Convention} {h : Handler} {desired : DesiredSet} {result : Except DeviceError (Option AckReport)}
  {events tail : List Event} {state : ExchangeState}

/-- A task whose property is not wanted succeeds. -/
theorem unwanted (ended : Ended c h desired result events) (unwanted : h.wanted desired = none) :
    result = .ok none := by
  cases ended with
  | absent => rfl
  | skipped wants answered => rfl
  | unrejected bad failed => cases unwanted.symm.trans bad.wants
  | rejectionLost reason bad built => cases unwanted.symm.trans bad.wants
  | rejected bad built => cases unwanted.symm.trans bad.wants
  | unacknowledged good failed => cases unwanted.symm.trans good.wants
  | receiptLost reason good built => cases unwanted.symm.trans good.wants
  | unanswered good built failed => cases unwanted.symm.trans good.wants
  | answerLost reason good built closed => cases unwanted.symm.trans good.wants
  | answered good built closed => cases unwanted.symm.trans good.wants

/-- A task whose property has no name fails if it finds an exchange that is not answered. -/
theorem unnamed (ended : Ended c h desired result events) (unnamed : h.property = "")
    (begins : events = .found state desired.version :: tail) (open_ : isAnswered desired.version state = false) :
    result = .error (.twin .emptyName) := by
  cases ended with
  | absent => cases begins
  | skipped wants answered =>
    cases begins
    rw [open_] at answered
    cases answered
  | unrejected bad failed => rw [failure_of_unnamed unnamed failed]
  | unacknowledged good failed => rw [failure_of_unnamed unnamed failed]
  | rejectionLost reason bad built => exact (unbuilt_of_unnamed unnamed built).elim
  | rejected bad built => exact (unbuilt_of_unnamed unnamed built).elim
  | receiptLost reason good built => exact (unbuilt_of_unnamed unnamed built).elim
  | unanswered good built failed => exact (unbuilt_of_unnamed unnamed built).elim
  | answerLost reason good built closed => exact (unbuilt_of_unnamed unnamed built).elim
  | answered good built closed => exact (unbuilt_of_unnamed unnamed built).elim

/-- A task whose property fits succeeds, and it answers if it finds an exchange that is not answered. -/
theorem fit (ended : Ended c h desired result events) (fit : h.Fit c) (writable : h.Writable c desired)
    (unrefused : ∀ patch, .settled patch false ∉ events) :
    ∃ report, result = .ok report ∧
      ∀ state tail, events = .found state desired.version :: tail → isAnswered desired.version state = false →
        ∃ r, report = some r ∧ r.version = desired.version := by
  cases ended with
  | absent unwanted => exact ⟨none, rfl, fun _ _ begins => by cases begins⟩
  | skipped wants answered =>
    refine ⟨none, rfl, fun state tail begins open_ => ?_⟩
    cases begins
    rw [open_] at answered
    cases answered
  | unrejected bad failed =>
    obtain ⟨j, wire⟩ := writable _ bad.wants
    obtain ⟨patch, built⟩ := fit.rejection wire desired.version _
    cases built.symm.trans failed
  | unacknowledged good failed =>
    obtain ⟨patch, built⟩ := fit.receipt good.converts desired.version
    cases built.symm.trans failed
  | @unanswered state raw value patch run failure good built failed =>
    obtain ⟨patch, built⟩ := fit.answer good.converts desired.version run
    cases built.symm.trans failed
  | @rejectionLost state raw e patch reason bad built => exact absurd (by simp) (unrefused patch)
  | @receiptLost state raw value patch reason good built => exact absurd (by simp) (unrefused patch)
  | @answerLost state raw value patch last run reason good built closed => exact absurd (by simp) (unrefused last)
  | rejected bad built => exact ⟨_, rfl, fun _ _ _ _ => ⟨_, rfl, rfl⟩⟩
  | answered good built closed => exact ⟨_, rfl, fun _ _ _ _ => ⟨_, rfl, rfl⟩⟩

end Task.Ended

/-! ### The outcome of a dispatch -/

namespace Dispatch
variable {results : List (Except DeviceError (Option AckReport))}

theorem outcome_cons_ok (report : Option AckReport) (results : List (Except DeviceError (Option AckReport))) :
    outcome (.ok report :: results) = (outcome results).map (report.toList ++ ·) := by
  cases failed : results.findSome? failure? <;> cases report <;>
    simp [outcome, List.findSome?_cons, List.filterMap_cons, failure?, report?, failed, Except.map]

/-- If the tasks of some handlers succeed and those of all others fail in one way, then the dispatch succeeds where
    there are no others, and fails in this way where there are. -/
theorem outcome_of_clear {clear : Registration → Prop} {e : DeviceError} {regs : List Registration}
    (parted : List.Forall₂ (fun reg result => (clear reg ∧ ∃ report, result = .ok report) ∨
      (¬ clear reg ∧ result = .error e)) regs results) :
    ((∀ reg ∈ regs, clear reg) ∧ ∃ reports, outcome results = .ok reports) ∨
      ((∃ reg ∈ regs, ¬ clear reg) ∧ outcome results = .error e) := by
  induction parted with
  | nil => exact .inl ⟨by simp, [], rfl⟩
  | @cons reg result regs results first others ih =>
    rcases first with ⟨clears, report, rfl⟩ | ⟨blocked, rfl⟩
    · rw [outcome_cons_ok]
      rcases ih with ⟨all, reports, succeeded⟩ | ⟨⟨other, inside, blocked⟩, failed⟩
      · exact .inl ⟨List.forall_mem_cons.mpr ⟨clears, all⟩, _, by rw [succeeded]; rfl⟩
      · exact .inr ⟨⟨other, List.mem_cons_of_mem _ inside, blocked⟩, by rw [failed]; rfl⟩
    · exact .inr ⟨⟨reg, List.mem_cons_self, blocked⟩, rfl⟩

end Dispatch

/-- A set is due an answer of a property: it holds a value for it, and its version is not answered yet. -/
structure Registration.Due (reg : Registration) (desired : DesiredSet) : Prop where
  wanted : (reg.handler.wanted desired).isSome = true
  open_ : Task.isAnswered desired.version reg.exchange.state = false

namespace Dispatcher
variable {d : Dispatcher} {entries : List Entry} {desired : DesiredSet} {payload : String}

/-- An acknowledgement that closes the exchange of a property under a version is delivered until the device has become
    another one. -/
def ClosesUntil (d d' : Dispatcher) (reg : Registration) (version : Int64) : Prop :=
  ∃ r ∈ reg.handler.closings d.convention (d.deliveredUntil d'), r.version = version

/-- A payload is dispatched with success, and every property that is due an answer is answered. -/
structure AnswersAll (d : Dispatcher) (payload : String) (desired : DesiredSet) : Prop where
  succeeds : ∃ reports, (d.dispatchPayload payload none).1 = some (.ok reports)
  answers : ∀ reg ∈ d.registrations, reg.Due desired →
    d.ClosesUntil (d.dispatchPayload payload none).2 reg desired.version

/-- Nothing stands in the way of an answer to a set: the property has a name, or the set does not hold it. -/
def Clear (desired : DesiredSet) (reg : Registration) : Prop :=
  reg.handler.property = "" → reg.handler.wanted desired = none

section Part
variable {new : List Patch} {reg : Registration} {result : Except DeviceError (Option AckReport)} {events : List Event}
  {results : List (Except DeviceError (Option AckReport))} {past : List Event}

/-- A handler with a name has its part in a dispatch: it succeeds, and if it is due an answer it gives one. -/
theorem part_named (part : Part d desired new reg result events) (accepts : ∀ n, d.reporter.refusal n = none)
    (serializes : reg.handler.Serializes d.convention) (read : desired.IsRead)
    (wanted : (reg.handler.wanted desired).isSome = true) (named : reg.handler.property ≠ "") :
    (∃ report, result = .ok report) ∧
      (reg.Due desired → ∃ r ∈ reg.handler.closings d.convention new, r.version = desired.version) := by
  have fit : reg.handler.Fit d.convention := ⟨serializes, checkName_ok_iff.mpr ⟨named, unreserved_of_wanted wanted⟩⟩
  obtain ⟨report, succeeded, answers⟩ := part.ended.fit fit (read.writable _ _) (part.unrefused accepts)
  refine ⟨⟨report, succeeded⟩, fun due => ?_⟩
  obtain ⟨tail, begins⟩ := part.begins wanted
  obtain ⟨r, reported, version⟩ := answers _ tail begins due.open_
  refine ⟨r, ?_, version⟩
  rw [part.closings, succeeded, reported]
  exact List.mem_singleton_self r

/-- A handler without a name fails if it is wanted. -/
theorem part_unnamed (part : Part d desired new reg result events) (idle : reg.exchange.state = .idle)
    (wanted : (reg.handler.wanted desired).isSome = true) (unnamed : reg.handler.property = "") :
    result = .error (.twin .emptyName) := by
  obtain ⟨tail, begins⟩ := part.begins wanted
  refine part.ended.unnamed unnamed begins ?_
  rw [idle]
  rfl

/-- A handler that is due an answer gives one, if it has a name. -/
theorem closes_named (accepts : ∀ n, d.reporter.refusal n = none)
    (serializes : ∀ reg ∈ d.registrations, reg.handler.Serializes d.convention) (read : desired.IsRead)
    (account : Accounted d desired new results) :
    ∀ reg ∈ d.registrations, reg.handler.property ≠ "" → reg.Due desired →
      ∃ r ∈ reg.handler.closings d.convention new, r.version = desired.version := by
  intro reg member named due
  obtain ⟨i, inside, rfl⟩ := List.mem_iff_getElem.mp member
  obtain ⟨length, parts⟩ := List.forall₂_iff_get.mp account.parts
  obtain ⟨events, part⟩ := parts i inside (length ▸ inside)
  exact (part_named part accepts (serializes _ member) read due.wanted named).2 due

/-- A handler succeeds if nothing stands in the way of its answer, and otherwise it fails for want of a name. -/
theorem part_clear (part : Part d desired new reg result events) (accepts : ∀ n, d.reporter.refusal n = none)
    (serializes : reg.handler.Serializes d.convention) (read : desired.IsRead)
    (course : Course d.convention reg.handler reg.exchange.state past) :
    (Clear desired reg ∧ ∃ report, result = .ok report) ∨
      (¬ Clear desired reg ∧ result = .error (.twin .emptyName)) := by
  by_cases wanted : (reg.handler.wanted desired).isSome = true
  · by_cases unnamed : reg.handler.property = ""
    · refine .inr ⟨fun clear => ?_, part_unnamed part (course.idle_of_unnamed unnamed) wanted unnamed⟩
      rw [clear unnamed] at wanted
      cases wanted
    · exact .inl ⟨fun none => absurd none unnamed, (part_named part accepts serializes read wanted unnamed).1⟩
  · have unwanted : reg.handler.wanted desired = none := by simpa using wanted
    exact .inl ⟨fun _ => unwanted, none, part.ended.unwanted unwanted⟩

theorem parts_clear (reached : Reachable d entries) (accepts : ∀ n, d.reporter.refusal n = none)
    (serializes : ∀ reg ∈ d.registrations, reg.handler.Serializes d.convention) (read : desired.IsRead)
    (account : Accounted d desired new results) :
    List.Forall₂ (fun reg result => (Clear desired reg ∧ ∃ report, result = .ok report) ∨
      (¬ Clear desired reg ∧ result = .error (.twin .emptyName))) d.registrations results := by
  obtain ⟨length, parts⟩ := List.forall₂_iff_get.mp account.parts
  refine List.forall₂_iff_get.mpr ⟨length, fun i inside inside' => ?_⟩
  obtain ⟨events, part⟩ := parts i inside inside'
  exact part_clear part accepts (serializes _ (List.get_mem _ _)) read
    (course_of_reachable reached (List.getElem?_eq_getElem inside))

end Part

/-- Where values can be written and reports do not fail, a payload is answered as far as properties have names: every
    property with a name that is due an answer is answered, and the dispatch succeeds and answers all properties exactly
    if no handler without a name is wanted; otherwise it fails for the name. -/
theorem answersAll_iff (reached : Reachable d entries) (accepts : ∀ n, d.reporter.refusal n = none)
    (serializes : ∀ reg ∈ d.registrations, reg.handler.Serializes d.convention)
    (parsed : DesiredSet.ofPayload d.convention.serializer payload = .ok desired) :
    (d.AnswersAll payload desired ↔ ∀ reg ∈ d.registrations, Clear desired reg) ∧
      (∀ reg ∈ d.registrations, reg.handler.property ≠ "" → reg.Due desired →
        d.ClosesUntil (d.dispatchPayload payload none).2 reg desired.version) ∧
      (¬ d.AnswersAll payload desired → (d.dispatchPayload payload none).1 = some (.error (.twin .emptyName))) := by
  have dispatches : d.dispatchPayload payload none = d.dispatch desired none := by
    simp only [dispatchPayload, parsed]
  have read := DesiredSet.isRead_of_ofPayload parsed
  obtain ⟨new, results, account⟩ := dispatch_accounted reached desired
  have returns : (d.dispatchPayload payload none).1 = some (Dispatch.outcome results) := by
    rw [dispatches, account.returns]
  have closes : ∀ reg ∈ d.registrations, reg.handler.property ≠ "" → reg.Due desired →
      d.ClosesUntil (d.dispatchPayload payload none).2 reg desired.version := by
    rw [dispatches]
    simp only [ClosesUntil, account.deliveredUntil]
    exact closes_named accepts serializes read account
  rcases Dispatch.outcome_of_clear (parts_clear reached accepts serializes read account) with
    ⟨clear, reports, succeeded⟩ | ⟨⟨reg, member, blocked⟩, failed⟩
  · have answersAll : d.AnswersAll payload desired := by
      refine ⟨⟨reports, by rw [returns, succeeded]⟩, fun reg member due => closes reg member (fun unnamed => ?_) due⟩
      have wanted := due.wanted
      simp [clear reg member unnamed] at wanted
    exact ⟨⟨fun _ => clear, fun _ => answersAll⟩, closes, fun fails => absurd answersAll fails⟩
  · have fails : ¬ d.AnswersAll payload desired := by
      rintro ⟨⟨reports, succeeded⟩, _⟩
      rw [returns, failed] at succeeded
      cases succeeded
    exact ⟨⟨fun all => absurd all fails, fun clear => absurd (clear reg member) blocked⟩, closes,
      fun _ => by rw [returns, failed]⟩

/-- A set for the handler of truth values as the service sends it. -/
def turnOn : String := "\x7b\"on\":true,\"$version\":3\x7d"

theorem answersAll_iff_switching :
    ∃ desired, DesiredSet.ofPayload .compact turnOn = .ok desired ∧ (switch.wanted desired).isSome = true ∧
      switching.AnswersAll turnOn desired := by
  obtain ⟨desired, parsed, wanted⟩ := Handler.wanted_of_ofPayload
    (by decide +kernel : (DesiredSet.ofPayload .compact turnOn).toOption.any (switch.wanted · |>.isSome) = true)
  have reached : Reachable switching [] :=
    .registered (h := switch) (.new .default ⟨0, fun _ => none, 0, []⟩) rfl
  have serializes : ∀ reg ∈ switching.registrations, reg.handler.Serializes switching.convention := by
    intro reg member
    rw [List.mem_singleton.mp member]
    exact (fit_switch .default).toSerializes
  refine ⟨desired, parsed, wanted, (answersAll_iff reached (fun _ => rfl) serializes parsed).1.mpr ?_⟩
  intro reg member unnamed
  rw [List.mem_singleton.mp member] at unnamed
  exact absurd unnamed (by decide)

/-- The handler of truth values, for a property without a name. -/
def unnamedSwitch : Handler := { switch with property := "" }

/-- A device whose only handler is registered without a name. -/
def nameless : Dispatcher :=
  ⟨.default, ⟨0, fun _ => none, 0, []⟩, [Registration.new unnamedSwitch]⟩

/-- Its set as the service sends it. -/
def turnOnNameless : String := "\x7b\"\":true,\"$version\":3\x7d"

/-- A handler can be registered without a name, and then it is never answered. -/
theorem nameless_unanswered :
    Reachable nameless [] ∧ (∀ n, nameless.reporter.refusal n = none) ∧
      (∀ reg ∈ nameless.registrations, reg.handler.Serializes nameless.convention) ∧
      ∃ desired, DesiredSet.ofPayload .compact turnOnNameless = .ok desired ∧
        (∀ reg ∈ nameless.registrations, reg.Due desired) ∧ ¬ nameless.AnswersAll turnOnNameless desired := by
  refine ⟨.registered (h := unnamedSwitch) (.new .default ⟨0, fun _ => none, 0, []⟩) rfl, fun _ => rfl,
    fun reg member => ?_, ?_⟩
  · rw [List.mem_singleton.mp member]
    exact ⟨(fit_switch .default).value, (fit_switch .default).outcome⟩
  · obtain ⟨desired, parsed, wanted⟩ := Handler.wanted_of_ofPayload
      (by decide +kernel :
        (DesiredSet.ofPayload .compact turnOnNameless).toOption.any (unnamedSwitch.wanted · |>.isSome) = true)
    refine ⟨desired, parsed, fun reg member => ?_, fun all => ?_⟩
    · rw [List.mem_singleton.mp member]
      exact ⟨wanted, rfl⟩
    · obtain ⟨reports, succeeded⟩ := all.succeeds
      have fails : (nameless.dispatchPayload turnOnNameless none).1.any (·.isOk) = false := by decide +kernel
      rw [succeeded] at fails
      cases fails

end Dispatcher
end DeviceTwin
