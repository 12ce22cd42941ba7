import DeviceTwin.Proofs.Property.Rounds

/-!
Which acknowledgements of a property are delivered. An exchange is closed with a call of the reporter, whether or not
the call succeeds, so a version that is skipped later is answered exactly if that last call was delivered, or if the
version was answered before it (`neverUnanswered_iff`).
-/
namespace DeviceTwin

/-! ### Histories -/

/-- Each event stands in a relation to the events before it. -/
def Each {α : Type} (P : List α → α → Prop) (events : List α) : Prop :=
  ∀ past e post, events = past ++ e :: post → P past e

/-- Each of some events stands in a relation to those before it, of which the first are `past`. -/
def Continues {α : Type} (P : List α → α → Prop) (past : List α) : List α → Prop
  | [] => True
  | e :: events => P past e ∧ Continues P (past ++ [e]) events

section Each
variable {α : Type} {P : List α → α → Prop} {past first rest events : List α}

theorem continues_iff :
    Continues P past events ↔ ∀ between e post, events = between ++ e :: post → P (past ++ between) e := by
  induction events generalizing past with
  | nil => simp [Continues]
  | cons first events ih =>
    simp only [Continues, ih]
    constructor
    · rintro ⟨now, later⟩ between e post split
      cases between with
      | nil =>
        cases split
        simpa using now
      | cons _ between =>
        cases split
        simpa using later between e post rfl
    · intro all
      refine ⟨by simpa using all [] first events rfl, fun between e post split => ?_⟩
      simpa using all (first :: between) e post (by simp [split])

theorem each_iff_continues : Each P events ↔ Continues P [] events := by
  rw [continues_iff]
  exact ⟨fun all between e post split => all between e post split, fun all => all⟩

instance decidableContinues [∀ past e, Decidable (P past e)] :
    (past events : List α) → Decidable (Continues P past events)
  | _, [] => .isTrue trivial
  | past, e :: events =>
    have := decidableContinues (past ++ [e]) events
    inferInstanceAs (Decidable (P past e ∧ Continues P (past ++ [e]) events))

instance [∀ past e, Decidable (P past e)] : Decidable (Each P events) :=
  decidable_of_iff _ each_iff_continues.symm

theorem continues_append :
    Continues P past (first ++ rest) ↔ Continues P past first ∧ Continues P (past ++ first) rest := by
  induction first generalizing past with
  | nil => simp [Continues]
  | cons e first ih => simp [Continues, ih, and_assoc]

theorem each_append : Each P (first ++ rest) ↔ Each P first ∧ Continues P first rest := by
  simp [each_iff_continues, continues_append]

end Each

variable {c : Convention} {h : Handler} {state : ExchangeState} {code : AckCode} {version w : Int64} {patch : Patch}
  {events first rest before after pre post : List Event}

/-- The acknowledgements of a property that are delivered. -/
def acknowledged (c : Convention) (h : Handler) (events : List Event) : List Ack :=
  events.filterMap fun e => e.delivered?.bind (h.ack? c)

@[simp] theorem acknowledged_nil : acknowledged c h [] = [] := rfl

@[simp] theorem acknowledged_append :
    acknowledged c h (first ++ rest) = acknowledged c h first ++ acknowledged c h rest :=
  List.filterMap_append

@[simp] theorem acknowledged_cons (e : Event) :
    acknowledged c h (e :: events) = (e.delivered?.bind (h.ack? c)).toList ++ acknowledged c h events := by
  cases read : e.delivered?.bind (h.ack? c) <;> simp [acknowledged, read]

/-! ### Answers -/

/-- A terminal acknowledgement of this version, or of a later one, is delivered. -/
def Answered (c : Convention) (h : Handler) (events : List Event) (version : Int64) : Prop :=
  ∃ ack ∈ acknowledged c h events, ack.code.isTerminal = true ∧ version ≤ ack.version

instance : Decidable (Answered c h events version) :=
  inferInstanceAs (Decidable (∃ ack ∈ acknowledged c h events, ack.code.isTerminal = true ∧ version ≤ ack.version))

/-- What is found is answered, if it is skipped. -/
def SkipsAnswered (c : Convention) (h : Handler) (past : List Event) : Event → Prop
  | .found (.terminal _ answered) version => version ≤ answered → Answered c h past version
  | _ => True

instance decidableSkipsAnswered (past : List Event) : (e : Event) → Decidable (SkipsAnswered c h past e)
  | .found (.terminal _ answered) version =>
    inferInstanceAs (Decidable (version ≤ answered → Answered c h past version))
  | .found .idle _ => .isTrue trivial
  | .found (.pending _) _ => .isTrue trivial
  | .called _ => .isTrue trivial
  | .settled _ _ => .isTrue trivial
  | .ran _ _ _ => .isTrue trivial

/-- No property is left without an answer: what is skipped is answered. -/
def NeverUnanswered (c : Convention) (h : Handler) (events : List Event) : Prop :=
  Each (SkipsAnswered c h) events

instance : Decidable (NeverUnanswered c h events) :=
  inferInstanceAs (Decidable (Each (SkipsAnswered c h) events))

/-- The last call of the reporter, with the events before and after it, acknowledges a version with a code. -/
structure LastCall (c : Convention) (h : Handler) (events : List Event) (code : AckCode) (version : Int64)
    (before : List Event) (patch : Patch) (after : List Event) : Prop where
  split : events = before ++ .called patch :: after
  last : ∀ other, .called other ∉ after
  ends : ∀ other delivered, .settled other delivered ∈ after → other = patch
  acknowledges : ∃ ack, h.ack? c patch = some ack ∧ ack.code = code ∧ ack.version = version

theorem LastCall.append_found (call : LastCall c h events code version before patch after) (state : ExchangeState)
    (w : Int64) : LastCall c h (events ++ [.found state w]) code version before patch (after ++ [.found state w]) := by
  refine ⟨by simp [call.split], ?_, ?_, call.acknowledges⟩
  · simpa using call.last
  · simpa using call.ends

/-- After a terminal call, a version is answered if the call was delivered or if it was answered before. -/
theorem LastCall.answered_iff (call : LastCall c h events code version before patch after)
    (terminal : code.isTerminal = true) (known : w ≤ version) :
    Answered c h events w ↔ .settled patch true ∈ after ∨ Answered c h before w := by
  obtain ⟨ack, read, rfl, rfl⟩ := call.acknowledges
  rw [call.split]
  constructor
  · rintro ⟨answer, member, closes, late⟩
    simp only [acknowledged_append, acknowledged_cons, List.mem_append] at member
    rcases member with earlier | none | later
    · exact .inr ⟨answer, earlier, closes, late⟩
    · simp [Event.delivered?] at none
    · obtain ⟨e, inside, delivers⟩ := List.mem_filterMap.mp later
      cases e with
      | settled other delivered =>
        obtain rfl := call.ends other delivered inside
        cases delivered with
        | true => exact .inl inside
        | false => simp [Event.delivered?] at delivers
      | _ => simp [Event.delivered?] at delivers
  · rintro (delivered | ⟨answer, member, closes, late⟩)
    · refine ⟨ack, ?_, terminal, known⟩
      simp only [acknowledged_append, acknowledged_cons, List.mem_append]
      exact .inr (.inr (List.mem_filterMap.mpr ⟨_, delivered, read⟩))
    · exact ⟨answer, by simp [member], closes, late⟩

theorem lastCall_ending (before : List Event) (reply : Option Bool)
    (read : ∃ j description, h.ack? c patch = some ⟨j, code, version, description⟩) :
    LastCall c h (before ++ .called patch :: ending patch reply) code version before patch (ending patch reply) := by
  obtain ⟨j, description, read⟩ := read
  refine ⟨rfl, ?_, ?_, _, read, rfl, rfl⟩
  · cases reply <;> simp [ending]
  · cases reply with
    | none => simp [ending]
    | some delivered =>
      intro other delivered member
      cases List.mem_singleton.mp member
      rfl

/-- A closed exchange records the last call, which is the one that closes it. -/
theorem lastCall_of_terminal (course : Course c h state events) (closed : state = .terminal code version) :
    code.isTerminal = true ∧ ∃ before patch after, LastCall c h events code version before patch after := by
  induction course with
  | start => cases closed
  | @episode state state' past events _ now ih =>
    cases now with
    | skipped wants answered =>
      obtain ⟨terminal, before, patch, after, call⟩ := ih closed
      exact ⟨terminal, _, _, _, call.append_found _ _⟩
    | failed wants open_ =>
      have unchanged : state = .terminal code version := by cases state <;> first | exact closed | cases closed
      obtain ⟨terminal, before, patch, after, call⟩ := ih unchanged
      exact ⟨terminal, _, _, _, call.append_found _ _⟩
    | @rejecting desired _ raw e patch bad built reply =>
      cases closed
      obtain ⟨j, _, read⟩ := Handler.ack?_rejection built
      have call := lastCall_ending (past ++ [.found state desired.version]) reply ⟨j, _, read⟩
      exact ⟨rfl, _, _, _, by simpa [Task.began] using call⟩
    | acknowledging => cases closed
    | applying => cases closed
    | @answering desired _ raw value patch last run good built answer reply =>
      cases closed
      obtain ⟨j, _, read⟩ := Handler.ack?_answer answer
      have call := lastCall_ending (past ++ Task.worked state desired.version patch run value) reply ⟨j, _, read⟩
      exact ⟨isTerminal_closing _, _, _, _, by simpa using call⟩

/-- A task finds the exchange as the course before it has left it, and its episode follows. -/
theorem Course.found (course : Course c h state events) {seen : ExchangeState}
    (split : events = pre ++ .found seen w :: post) :
    Course c h seen pre ∧ ∃ left tail rest, Episode c h seen left (.found seen w :: tail) ∧ post = tail ++ rest ∧
      ∀ e later, rest = e :: later → ∃ state version, e = .found state version := by
  induction course generalizing post with
  | start => simp at split
  | @episode state state' past events before now ih =>
    have once : ∃ v tail, events = .found state v :: tail ∧ ∀ seen v, .found seen v ∉ tail := by
      cases now with
      | skipped => exact ⟨_, _, rfl, by simp⟩
      | failed => exact ⟨_, _, rfl, by simp⟩
      | rejecting bad built reply => exact ⟨_, _, rfl, by cases reply <;> simp [ending]⟩
      | @acknowledging _ _ _ _ _ good built reply => exact ⟨_, _, rfl, by cases reply <;> simp [ending]⟩
      | applying => exact ⟨_, _, rfl, by simp⟩
      | answering good built closed reply => exact ⟨_, _, rfl, by cases reply <;> simp [ending]⟩
    obtain ⟨v, tail, rfl, never⟩ := once
    have here : pre = past → (.found state v :: tail : List Event) = .found seen w :: post →
        Course c h seen pre ∧ ∃ left tail rest, Episode c h seen left (.found seen w :: tail) ∧ post = tail ++ rest ∧
          ∀ e later, rest = e :: later → ∃ state version, e = .found state version := by
      rintro rfl same
      cases same
      exact ⟨before, _, _, [], now, (List.append_nil _).symm, by simp⟩
    rcases List.append_eq_append_iff.mp split with ⟨between, rest, now⟩ | ⟨between, rest, now⟩
    · cases between with
      | nil => exact here (by simpa using rest) (by simpa using now)
      | cons _ between =>
        cases now
        exact absurd (List.mem_append_right between List.mem_cons_self) (never seen w)
    · cases between with
      | nil => exact here (by simpa using rest.symm) (by simpa using now.symm)
      | cons _ between =>
        cases now
        obtain ⟨course, left, own, others, episode, rfl, next⟩ := ih rest
        refine ⟨course, left, own, others ++ .found state v :: tail, episode, by simp, fun e later begins => ?_⟩
        cases others with
        | nil =>
          cases begins
          exact ⟨state, v, rfl⟩
        | cons first others =>
          cases begins
          exact next _ _ rfl

/-- The call with which an exchange begins acknowledges the version for which it begins. -/
theorem Course.opened (course : Course c h state events) {seen : ExchangeState}
    (split : events = pre ++ .found seen w :: .called patch :: post) :
    ∃ ack, h.ack? c patch = some ack ∧ ack.version = w := by
  obtain ⟨_, left, tail, rest, episode, same, next⟩ := course.found split
  cases tail with
  | nil =>
    obtain ⟨state, version, absurd⟩ := next _ _ same.symm
    cases absurd
  | cons e tail =>
    obtain ⟨rfl, rfl⟩ := List.cons.inj same
    generalize shown : (.found seen w :: .called patch :: tail : List Event) = events at episode
    cases episode with
    | skipped => cases shown
    | failed => cases shown
    | rejecting bad built reply =>
      cases shown
      obtain ⟨j, _, read⟩ := Handler.ack?_rejection built
      exact ⟨_, read, rfl⟩
    | acknowledging good built reply =>
      cases shown
      obtain ⟨j, _, read⟩ := Handler.ack?_receipt built
      exact ⟨_, read, rfl⟩
    | applying good built run =>
      cases shown
      obtain ⟨j, _, read⟩ := Handler.ack?_receipt built
      exact ⟨_, read, rfl⟩
    | answering good built closed reply =>
      cases shown
      obtain ⟨j, _, read⟩ := Handler.ack?_receipt built
      exact ⟨_, read, rfl⟩

namespace Dispatcher
variable {d : Dispatcher} {entries : List Entry} {i : Nat} {reg : Registration}

/-- The exchange of a property is recorded as closed when the reporter is called to close it. So the recorded version is
    answered exactly if that call was delivered, or it was answered before; and no property is left without an answer
    exactly if this is so wherever a version is skipped. -/
theorem neverUnanswered_iff (reached : Reachable d entries) (there : d.registrations[i]? = some reg) :
    (∀ code version, reg.exchange.state = .terminal code version → ∃ before patch after,
      LastCall d.convention reg.handler (eventsOf i entries) code version before patch after ∧
      (Answered d.convention reg.handler (eventsOf i entries) version ↔
        .settled patch true ∈ after ∨ Answered d.convention reg.handler before version)) ∧
    (NeverUnanswered d.convention reg.handler (eventsOf i entries) ↔
      ∀ past code version w post, eventsOf i entries = past ++ .found (.terminal code version) w :: post →
        w ≤ version → ∃ before patch after,
          LastCall d.convention reg.handler past code version before patch after ∧
          (.settled patch true ∈ after ∨ Answered d.convention reg.handler before w)) := by
  have course := course_of_reachable reached there
  constructor
  · intro code version closed
    obtain ⟨terminal, before, patch, after, call⟩ := lastCall_of_terminal course closed
    exact ⟨before, patch, after, call, call.answered_iff terminal (Int64.le_refl _)⟩
  · constructor
    · intro never past code version w post split skipped
      obtain ⟨terminal, before, patch, after, call⟩ := lastCall_of_terminal (course.found split).1 rfl
      exact ⟨before, patch, after, call, (call.answered_iff terminal skipped).mp (never past _ post split skipped)⟩
    · intro backed past e post split
      match e with
      | .found (.terminal code version) w =>
        intro skipped
        obtain ⟨terminal, _⟩ := lastCall_of_terminal (course.found split).1 rfl
        obtain ⟨before, patch, after, call, delivered⟩ := backed past code version w post split skipped
        exact (call.answered_iff terminal skipped).mpr delivered
      | .found .idle _ => trivial
      | .found (.pending _) _ => trivial
      | .called _ => trivial
      | .settled _ _ => trivial
      | .ran _ _ _ => trivial

/-- A handler that takes numbers of 8 bits and accepts them. -/
def meter : Handler := ⟨"a", none, ⟨.u8, true⟩, 0, fun _ value => ⟨.completed, value, none⟩⟩

/-- A device with this handler, whose reporter loses one call. -/
def losing (call : Nat) : Dispatcher :=
  ⟨.default, ⟨0, fun n => if n = call then some "lost" else none, 0, []⟩, [Registration.new meter]⟩

theorem reachable_losing (call : Nat) : Reachable (losing call) [] :=
  .registered (h := meter) (.new .default ⟨0, fun n => if n = call then some "lost" else none, 0, []⟩) rfl

/-- A dispatch of a value of the property. -/
def session (d : Dispatcher) (version : Int64) (value : Json) : Session × List Entry :=
  (d.begin [⟨version, Patch.empty.insert "a" value⟩]).run d.convention (List.replicate 5 (0, 0))

/-- The device after the dispatch, and what is seen of it. -/
def serve (d : Dispatcher) (version : Int64) (value : Json) : Dispatcher × List Entry :=
  (d.resume (session d version value).1, (session d version value).2)

theorem reachable_serve (reached : Reachable d entries) {version : Int64} {value : Json}
    (finished : (session d version value).1.isOver = true) :
    Reachable (serve d version value).1 (entries ++ (serve d version value).2) :=
  .ended reached _ _ finished

/-- The answer to a malformed value is lost, and then the value comes again. -/
def lost : Dispatcher × List Entry := serve (losing 0) 3 (.str "x")
def lostAgain : Dispatcher × List Entry := serve lost.1 3 (.str "x")

theorem reachable_lost : Reachable lost.1 lost.2 :=
  reachable_serve (reachable_losing 0) (by decide +kernel)

theorem reachable_lostAgain : Reachable lostAgain.1 (lost.2 ++ lostAgain.2) :=
  reachable_serve reachable_lost (by decide +kernel)

theorem neverUnanswered_iff_lostAgain :
    ∃ reg, lostAgain.1.registrations[0]? = some reg ∧
      ∃ before patch after,
        LastCall .default reg.handler (eventsOf 0 (lost.2 ++ lostAgain.2)) .badRequest 3 before patch after ∧
        (Answered .default reg.handler (eventsOf 0 (lost.2 ++ lostAgain.2)) 3 ↔
          .settled patch true ∈ after ∨ Answered .default reg.handler before 3) := by
  have inside : lostAgain.1.registrations[0]?.isSome = true := by decide +kernel
  have closed : (lostAgain.1.registrations[0]?.get inside).exchange.state =
      .terminal .badRequest 3 := by decide +kernel +revert
  have there := (Option.some_get inside).symm
  exact ⟨_, there, (neverUnanswered_iff reachable_lostAgain there).1 .badRequest 3 closed⟩

/-- A property can be left without an answer. -/
theorem leaves_unanswered :
    ∃ reg, lostAgain.1.registrations[0]? = some reg ∧
      Reachable lostAgain.1 (lost.2 ++ lostAgain.2) ∧
      ¬ NeverUnanswered .default reg.handler (eventsOf 0 (lost.2 ++ lostAgain.2)) := by
  have inside : lostAgain.1.registrations[0]?.isSome = true := by decide +kernel
  have never : ¬ NeverUnanswered .default (lostAgain.1.registrations[0]?.get inside).handler
      (eventsOf 0 (lost.2 ++ lostAgain.2)) := by decide +kernel +revert
  exact ⟨_, (Option.some_get inside).symm, reachable_lostAgain, never⟩

end Dispatcher
end DeviceTwin
