import DeviceTwin.Proofs.Property.Delivery

/-!
Regressions of versions. An exchange that is lost or left unfinished is forgotten when a new desired value comes, and
with it the version that it had, and so is what was answered before. Versions do not regress exactly if every exchange
that begins after such a one begins above what is answered, and not below what is delivered (`noRegression_iff`).
-/
namespace DeviceTwin

variable {c : Convention} {h : Handler} {state : ExchangeState} {code : AckCode} {version : Int64} {patch : Patch}
  {events first rest post : List Event}

/-- What a history asks of an event after the events before it: the version of a delivered acknowledgement is not below
    one that is delivered already, and the version of a call or of a run of the handler is above all answered ones. -/
def Follows (c : Convention) (h : Handler) (past : List Event) : Event → Prop
  | .settled patch true => ∀ ack ∈ h.ack? c patch, ∀ old ∈ acknowledged c h past, old.version ≤ ack.version
  | .called patch => ∀ ack ∈ h.ack? c patch, ∀ old ∈ acknowledged c h past,
      old.code.isTerminal = true → old.version < ack.version
  | .ran version _ _ => ∀ old ∈ acknowledged c h past, old.code.isTerminal = true → old.version < version
  | _ => True

instance decidableFollows (past : List Event) : (e : Event) → Decidable (Follows c h past e)
  | .settled patch true => inferInstanceAs (Decidable (∀ ack ∈ h.ack? c patch, ∀ old ∈ acknowledged c h past,
      old.version ≤ ack.version))
  | .called patch => inferInstanceAs (Decidable (∀ ack ∈ h.ack? c patch, ∀ old ∈ acknowledged c h past,
      old.code.isTerminal = true → old.version < ack.version))
  | .ran version _ _ => inferInstanceAs (Decidable (∀ old ∈ acknowledged c h past,
      old.code.isTerminal = true → old.version < version))
  | .settled _ false => .isTrue trivial
  | .found _ _ => .isTrue trivial

/-- Versions do not regress: delivered acknowledgements have versions that never decrease, and a version that is
    answered, or an earlier one, is neither acknowledged nor handed to the handler again. -/
def NoRegression (c : Convention) (h : Handler) (events : List Event) : Prop :=
  Each (Follows c h) events

instance : Decidable (NoRegression c h events) :=
  inferInstanceAs (Decidable (Each (Follows c h) events))

/-- The last exchange was not closed for the service: the last call of the reporter was lost or is not over, or it was
    only to acknowledge. -/
def Unclosed (c : Convention) (h : Handler) (events : List Event) : Prop :=
  ∃ code version before patch after, LastCall c h events code version before patch after ∧
    (code.isTerminal = true → .settled patch true ∉ after)

/-- Every exchange that begins after an unclosed one has a version above the answered ones, and not below the delivered
    ones when its own first call is delivered. -/
def ReopensForward (c : Convention) (h : Handler) (events : List Event) : Prop :=
  ∀ past state version patch post, events = past ++ .found state version :: .called patch :: post → Unclosed c h past →
    (∀ old ∈ acknowledged c h past, old.code.isTerminal = true → old.version < version) ∧
    ∀ post', post = .settled patch true :: post' → ∀ old ∈ acknowledged c h past, old.version ≤ version

theorem reopensForward_append (forward : ReopensForward c h (first ++ rest)) : ReopensForward c h first := by
  intro past state version patch post split unclosed
  obtain ⟨answered, delivered⟩ := forward past state version patch (post ++ rest) (by simp [split]) unclosed
  exact ⟨answered, fun post' more => delivered (post' ++ rest) (by simp [more])⟩

/-- What is known of the delivered acknowledgements when the versions have not regressed. -/
def Bounded (c : Convention) (h : Handler) (state : ExchangeState) (events : List Event) : Prop :=
  Unclosed c h events ∨ acknowledged c h events = [] ∨
    ∃ code version, state = .terminal code version ∧ ∀ old ∈ acknowledged c h events, old.version ≤ version

theorem unclosed_append_found (unclosed : Unclosed c h events) (state : ExchangeState) (w : Int64) :
    Unclosed c h (events ++ [.found state w]) := by
  obtain ⟨code, version, before, patch, after, call, lost⟩ := unclosed
  refine ⟨code, version, before, patch, _, call.append_found state w, fun terminal => ?_⟩
  simpa using lost terminal

theorem bounded_append_found (bounded : Bounded c h state events) (w : Int64) :
    Bounded c h state.renewed (events ++ [.found state w]) := by
  rcases bounded with unclosed | none | ⟨code, version, rfl, bound⟩
  · exact .inl (unclosed_append_found unclosed _ _)
  · exact .inr (.inl (by simp [none, Event.delivered?]))
  · exact .inr (.inr ⟨code, version, rfl, by simpa [Event.delivered?] using bound⟩)

/-- An exchange begins above what is answered, and not below what is delivered if its first call is delivered. -/
theorem opens_forward {past : List Event} (bounded : Bounded c h state past)
    (open_ : Task.isAnswered version state = false)
    (forward : ReopensForward c h (past ++ .found state version :: .called patch :: post)) :
    (∀ old ∈ acknowledged c h past, old.code.isTerminal = true → old.version < version) ∧
      ∀ post', post = .settled patch true :: post' → ∀ old ∈ acknowledged c h past, old.version ≤ version := by
  rcases bounded with unclosed | none | ⟨code, answered, rfl, bound⟩
  · exact forward past state version patch post rfl unclosed
  · simp [none]
  · simp only [Task.isAnswered, decide_eq_false_iff_not, Int64.not_le] at open_
    refine ⟨fun old member _ => ?_, fun _ _ old member => ?_⟩
    · exact Int64.lt_of_le_of_lt (bound old member) open_
    · exact Int64.le_of_lt (Int64.lt_of_le_of_lt (bound old member) open_)

/-- What is known after a call, whose version is not below what is delivered if the call is delivered. -/
theorem bounded_ending (before : List Event) (reply : Option Bool)
    (read : ∃ j description, h.ack? c patch = some ⟨j, code, version, description⟩)
    (closed : code.isTerminal = true → state = .terminal code version)
    (notBelow : reply = some true → ∀ old ∈ acknowledged c h before, old.version ≤ version) :
    Bounded c h state (before ++ .called patch :: ending patch reply) := by
  by_cases arrived : code.isTerminal = true ∧ reply = some true
  · obtain ⟨terminal, rfl⟩ := arrived
    obtain ⟨j, description, read⟩ := read
    refine .inr (.inr ⟨code, version, closed terminal, ?_⟩)
    intro old member
    simp only [ending, acknowledged_append, acknowledged_cons, acknowledged_nil, Event.delivered?, Option.bind_none,
      Option.bind_some, read, List.mem_append, Option.mem_toList, List.append_nil] at member
    rcases member with earlier | none | same
    · exact notBelow rfl old earlier
    · cases none
    · cases same
      exact Int64.le_refl _
  · refine .inl ⟨code, version, before, patch, _, lastCall_ending before reply read, fun terminal delivered => ?_⟩
    refine arrived ⟨terminal, ?_⟩
    cases reply with
    | none => simp [ending] at delivered
    | some success =>
      cases List.mem_singleton.mp delivered
      rfl

section Exchange
variable {past : List Event} {ack : Ack} (read : h.ack? c patch = some ack)
include read

theorem continues_began
    (above : ∀ old ∈ acknowledged c h past, old.code.isTerminal = true → old.version < ack.version)
    (state : ExchangeState) (w : Int64) : Continues (Follows c h) past (Task.began state w patch) := by
  refine ⟨trivial, ?_, trivial⟩
  simpa [Follows, read, Event.delivered?] using above

theorem continues_ending (reply : Option Bool)
    (notBelow : reply = some true → ∀ old ∈ acknowledged c h past, old.version ≤ ack.version) :
    Continues (Follows c h) past (ending patch reply) := by
  rcases reply with _ | _ | _
  · trivial
  · exact ⟨trivial, trivial⟩
  · refine ⟨?_, trivial⟩
    simpa [Follows, read] using notBelow rfl

theorem acknowledged_worked (past : List Event) (state : ExchangeState) (w : Int64) (run : Nat) (value : Json) :
    acknowledged c h (past ++ Task.worked state w patch run value) = acknowledged c h past ++ [ack] := by
  simp [Task.worked, Task.began, Event.delivered?, read]

theorem continues_worked (open_ : ack.code.isTerminal = false)
    (above : ∀ old ∈ acknowledged c h past, old.code.isTerminal = true → old.version < ack.version)
    (notBelow : ∀ old ∈ acknowledged c h past, old.version ≤ ack.version) (state : ExchangeState) (run : Nat)
    (value : Json) : Continues (Follows c h) past (Task.worked state ack.version patch run value) := by
  refine continues_append.mpr ⟨continues_began read above state _, ?_, ?_, trivial⟩
  · simpa [Follows, read, Task.began, Event.delivered?] using notBelow
  · intro old member terminal
    simp only [Task.began, acknowledged_append, acknowledged_cons, acknowledged_nil, Event.delivered?,
      Option.bind_none, Option.bind_some, read, List.mem_append, Option.mem_toList, List.append_nil] at member
    rcases member with (earlier | none | none) | receipt
    · exact above old earlier terminal
    · cases none
    · cases none
    · cases receipt
      rw [open_] at terminal
      cases terminal

end Exchange

/-- An episode that begins above what is answered does not regress. -/
theorem noRegression_episode {past : List Event} {state' : ExchangeState} (episode : Episode c h state state' events)
    (regular : NoRegression c h past) (bounded : Bounded c h state past)
    (forward : ReopensForward c h (past ++ events)) :
    NoRegression c h (past ++ events) ∧ Bounded c h state' (past ++ events) := by
  rw [NoRegression, each_append]
  cases episode with
  | skipped wants answered =>
    have unchanged : state.renewed = state := by cases state <;> first | rfl | cases answered
    refine ⟨⟨regular, trivial, trivial⟩, ?_⟩
    have after := bounded_append_found bounded
    rw [unchanged] at after
    exact after _
  | failed wants open_ => exact ⟨⟨regular, trivial, trivial⟩, bounded_append_found bounded _⟩
  | @rejecting desired _ raw e patch bad built reply =>
    obtain ⟨j, _, read⟩ := Handler.ack?_rejection built
    obtain ⟨above, notBelow⟩ := opens_forward bounded bad.open_ forward
    have arrives : reply = some true → ∀ old ∈ acknowledged c h past, old.version ≤ desired.version := by
      rintro rfl
      exact notBelow [] rfl
    constructor
    · refine ⟨regular, continues_append.mpr ⟨continues_began read above _ _, continues_ending read reply ?_⟩⟩
      simpa [Task.began, Event.delivered?] using arrives
    · have after : Bounded c h (.terminal .badRequest desired.version) _ :=
        bounded_ending (past ++ [.found state desired.version]) reply ⟨j, _, read⟩ (fun _ => rfl)
          (by simpa [Event.delivered?] using arrives)
      simpa [Task.began] using after
  | @acknowledging desired _ raw value patch good built reply undelivered =>
    obtain ⟨j, _, read⟩ := Handler.ack?_receipt built
    obtain ⟨above, _⟩ := opens_forward bounded good.open_ forward
    constructor
    · exact ⟨regular, continues_append.mpr ⟨continues_began read above _ _,
        continues_ending read reply fun arrived => absurd arrived undelivered⟩⟩
    · have after : Bounded c h (.pending desired.version) _ :=
        bounded_ending (past ++ [.found state desired.version]) reply ⟨j, _, read⟩ (fun terminal => by cases terminal)
          (fun arrived => absurd arrived undelivered)
      simpa [Task.began] using after
  | @applying desired _ raw value patch good built run =>
    obtain ⟨j, _, read⟩ := Handler.ack?_receipt built
    obtain ⟨above, notBelow⟩ := opens_forward bounded good.open_ forward
    constructor
    · exact ⟨regular, continues_worked read rfl above (notBelow _ rfl) state run value⟩
    · refine .inl ⟨.inProgress, desired.version, past ++ [.found state desired.version], patch,
        [.settled patch true, .ran desired.version run value], ⟨?_, ?_, ?_, _, read, rfl, rfl⟩, ?_⟩
      · simp [Task.worked, Task.began]
      · simp
      · rintro other delivered member
        simp only [List.mem_cons, Event.settled.injEq, List.not_mem_nil, or_false, reduceCtorEq] at member
        exact member.1
      · intro terminal
        cases terminal
  | @answering desired _ raw value patch last run good built closed reply =>
    obtain ⟨j, _, read⟩ := Handler.ack?_receipt built
    obtain ⟨k, _, readLast⟩ := Handler.ack?_answer closed
    obtain ⟨above, notBelow⟩ := opens_forward bounded good.open_ forward
    have delivered := acknowledged_worked read past state desired.version run value
    have bound : ∀ old ∈ acknowledged c h (past ++ Task.worked state desired.version patch run value),
        old.version ≤ desired.version := by
      intro old member
      rw [delivered] at member
      rcases List.mem_append.mp member with earlier | receipt
      · exact notBelow _ rfl old earlier
      · cases List.mem_singleton.mp receipt
        exact Int64.le_refl _
    have answered : ∀ old ∈ acknowledged c h (past ++ Task.worked state desired.version patch run value),
        old.code.isTerminal = true → old.version < desired.version := by
      intro old member terminal
      rw [delivered] at member
      rcases List.mem_append.mp member with earlier | receipt
      · exact above old earlier terminal
      · cases List.mem_singleton.mp receipt
        cases terminal
    constructor
    · refine ⟨regular, continues_append.mpr ⟨continues_worked read rfl above (notBelow _ rfl) state run value, ?_, ?_⟩⟩
      · intro ack same
        cases readLast.symm.trans same
        exact answered
      · refine continues_ending readLast reply fun _ => ?_
        simpa [Event.delivered?] using bound
    · have after : Bounded c h (.terminal (Task.closing (h.respond run value)).1 desired.version) _ :=
        bounded_ending (past ++ Task.worked state desired.version patch run value) reply ⟨k, _, readLast⟩
          (fun _ => rfl) (fun _ => bound)
      simpa using after

/-- Versions do not regress in a course whose exchanges reopen forward. -/
theorem Course.noRegression (course : Course c h state events) (forward : ReopensForward c h events) :
    NoRegression c h events ∧ Bounded c h state events := by
  induction course with
  | start => exact ⟨fun past e post split => by simp at split, .inr (.inl rfl)⟩
  | episode before now ih =>
    obtain ⟨regular, bounded⟩ := ih (reopensForward_append forward)
    exact noRegression_episode now regular bounded forward

/-- The exchanges of a course that does not regress reopen forward. -/
theorem Course.reopensForward (course : Course c h state events) (regular : NoRegression c h events) :
    ReopensForward c h events := by
  intro past state version patch post split _
  obtain ⟨ack, read, rfl⟩ := course.opened split
  constructor
  · have follows := regular (past ++ [.found state ack.version]) (.called patch) post (by simp [split])
    simpa [Event.delivered?] using follows ack read
  · rintro post' rfl
    have follows := regular (past ++ [.found state ack.version, .called patch]) (.settled patch true) post'
      (by simp [split])
    simpa [Event.delivered?] using follows ack read

namespace Dispatcher
variable {d : Dispatcher} {entries : List Entry} {i : Nat} {reg : Registration}

/-- The versions of a property do not regress exactly if each of its exchanges that begins after an unclosed one, whose
    version the device has forgotten, begins above what has been answered and not below what has been delivered. -/
theorem noRegression_iff (reached : Reachable d entries) (there : d.registrations[i]? = some reg) :
    NoRegression d.convention reg.handler (eventsOf i entries) ↔
      ReopensForward d.convention reg.handler (eventsOf i entries) := by
  have course := course_of_reachable reached there
  exact ⟨course.reopensForward, fun forward => (course.noRegression forward).1⟩

/-- A version is answered, the receipt of a later one is lost, and then the earlier one comes again. -/
def answered : Dispatcher × List Entry := serve (losing 2) 3 (.int 1)
def interrupted : Dispatcher × List Entry := serve answered.1 5 (.int 2)
def stale : Dispatcher × List Entry := serve interrupted.1 3 (.int 1)

theorem reachable_stale : Reachable stale.1 (answered.2 ++ interrupted.2 ++ stale.2) :=
  reachable_serve (reachable_serve (reachable_serve (reachable_losing 2) (by decide +kernel)) (by decide +kernel))
    (by decide +kernel)

theorem noRegression_iff_stale :
    ∃ reg, stale.1.registrations[0]? = some reg ∧
      ¬ ReopensForward .default reg.handler (eventsOf 0 (answered.2 ++ interrupted.2 ++ stale.2)) := by
  have inside : stale.1.registrations[0]?.isSome = true := by decide +kernel
  have regresses : ¬ NoRegression .default (stale.1.registrations[0]?.get inside).handler
      (eventsOf 0 (answered.2 ++ interrupted.2 ++ stale.2)) := by decide +kernel +revert
  have there := (Option.some_get inside).symm
  exact ⟨_, there, fun forward => regresses ((noRegression_iff reachable_stale there).mpr forward)⟩

/-- An answered version can be acknowledged and handed to the handler again. -/
theorem answers_again :
    ∃ reg, stale.1.registrations[0]? = some reg ∧
      Reachable stale.1 (answered.2 ++ interrupted.2 ++ stale.2) ∧
      ¬ NoRegression .default reg.handler (eventsOf 0 (answered.2 ++ interrupted.2 ++ stale.2)) := by
  have inside : stale.1.registrations[0]?.isSome = true := by decide +kernel
  have regresses : ¬ NoRegression .default (stale.1.registrations[0]?.get inside).handler
      (eventsOf 0 (answered.2 ++ interrupted.2 ++ stale.2)) := by decide +kernel +revert
  exact ⟨_, (Option.some_get inside).symm, reachable_stale, regresses⟩

end Dispatcher
end DeviceTwin
