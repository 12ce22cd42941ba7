import DeviceTwin.Proofs.Json.Sound
import DeviceTwin.Proofs.Property.Envelope
import DeviceTwin.Property.Exchange

/-!
The exchange as a protocol. Whatever calls are made of an exchange, the acknowledgements that come out of it form
blocks (`Block`), one for each version that is answered, under growing versions; the last version may still wait for
its answer (`Progress`). One call that is accepted takes an exchange one step further (`apply_ok`), and a run of calls,
the refused ones among them, follows by induction (`acks_of_run`).
-/
namespace DeviceTwin

def ExchangeState.isPending : ExchangeState → Bool
  | .pending _ => true
  | _ => false

/-- A call of an exchange, with the convention it is given. -/
inductive ExchangeCall where
  | acknowledge (c : Convention) (version : Int64) (value : Datum)
  | complete (c : Convention) (code : AckCode) (value : Datum) (description : Option String)
  | reject (c : Convention) (version : Int64) (value : Datum) (description : String)

namespace ExchangeCall

def convention : ExchangeCall → Convention
  | .acknowledge c _ _ => c
  | .complete c _ _ _ => c
  | .reject c _ _ _ => c

def value : ExchangeCall → Datum
  | .acknowledge _ _ value => value
  | .complete _ _ value _ => value
  | .reject _ _ value _ => value

/-- Makes the call. -/
def apply (x : Exchange) : ExchangeCall → Except TwinError (Patch × Exchange)
  | .acknowledge c version value => x.acknowledge c version value
  | .complete c code value description => x.complete c code value description
  | .reject c version value description => x.reject c version value description

/-- The state of an exchange lets the call through. -/
def suits (state : ExchangeState) : ExchangeCall → Bool
  | .acknowledge _ version _ => Exchange.opensFor version state
  | .complete _ code _ _ => code.isTerminal && state.isPending
  | .reject _ version _ _ => Exchange.opensFor version state

end ExchangeCall

/-- The exchange after some calls, and the patches of the accepted ones with the conventions that built them. A refused
    call leaves the exchange as it is. -/
def Exchange.run (x : Exchange) : List ExchangeCall → Exchange × List (Convention × Patch)
  | [] => (x, [])
  | call :: calls =>
    match call.apply x with
    | .error _ => x.run calls
    | .ok (patch, x) => ((x.run calls).1, (call.convention, patch) :: (x.run calls).2)

/-! ### One call -/

/-- An acknowledgement with a code and a version takes an exchange from a state to another one. -/
inductive ExchangeState.Takes : ExchangeState → AckCode → Int64 → ExchangeState → Prop where
  | acknowledged {state : ExchangeState} {version : Int64} (opens : Exchange.opensFor version state = true) :
      Takes state .inProgress version (.pending version)
  | rejected {state : ExchangeState} {version : Int64} (opens : Exchange.opensFor version state = true) :
      Takes state .badRequest version (.terminal .badRequest version)
  | completed {code : AckCode} {version : Int64} (terminal : code.isTerminal = true) :
      Takes (.pending version) code version (.terminal code version)

namespace ExchangeCall
variable {x x' : Exchange} {call : ExchangeCall} {patch : Patch}

/-- A call that its state suits comes down to building the patch of an acknowledgement. -/
theorem apply_of_suits (suits : call.suits x.state = true) :
    ∃ code version description state, x.state.Takes code version state ∧
      call.apply x = (call.convention.buildAck x.property call.value code version description x.component).map
        fun patch => (patch, { x with state }) := by
  cases call with
  | acknowledge c version value =>
    refine ⟨_, version, none, _, .acknowledged suits, ?_⟩
    simp only [ExchangeCall.suits] at suits
    simp only [apply, Exchange.acknowledge, suits, if_true, convention, ExchangeCall.value]
    cases c.buildAck x.property value .inProgress version none x.component <;> rfl
  | reject c version value description =>
    refine ⟨_, version, some description, _, .rejected suits, ?_⟩
    simp only [ExchangeCall.suits] at suits
    simp only [apply, Exchange.reject, suits, if_true, convention, ExchangeCall.value]
    cases c.buildAck x.property value .badRequest version (some description) x.component <;> rfl
  | complete c code value description =>
    obtain ⟨property, component, state⟩ := x
    simp only [ExchangeCall.suits, Bool.and_eq_true] at suits
    obtain ⟨terminal, pending⟩ := suits
    cases state with
    | pending version =>
      refine ⟨code, version, description, _, .completed terminal, ?_⟩
      simp only [apply, Exchange.complete, terminal, if_true, convention, ExchangeCall.value]
      cases c.buildAck property value code version description component <;> rfl
    | idle => cases pending
    | terminal code version => cases pending

/-- A call that its state does not suit is refused. -/
theorem apply_of_not_suits (unsuited : call.suits x.state = false) : ∃ e, call.apply x = .error e := by
  cases call with
  | acknowledge c version value =>
    simp only [suits] at unsuited
    exact ⟨_, by simp only [apply, Exchange.acknowledge, unsuited, Bool.false_eq_true, if_false]; rfl⟩
  | reject c version value description =>
    simp only [suits] at unsuited
    exact ⟨_, by simp only [apply, Exchange.reject, unsuited, Bool.false_eq_true, if_false]; rfl⟩
  | complete c code value description =>
    obtain ⟨property, component, state⟩ := x
    cases state with
    | pending version =>
      have open_ : code.isTerminal = false := by simpa [suits, ExchangeState.isPending] using unsuited
      exact ⟨_, by simp only [apply, Exchange.complete, open_, Bool.false_eq_true, if_false]; rfl⟩
    | idle => exact ⟨_, rfl⟩
    | terminal code version => exact ⟨_, rfl⟩

/-- What is known of a call that is accepted. -/
theorem apply_ok (accepted : call.apply x = .ok (patch, x')) :
    ∃ code version description state,
      call.convention.buildAck x.property call.value code version description x.component = .ok patch ∧
      x.state.Takes code version state ∧ x' = { x with state } := by
  cases suits : call.suits x.state with
  | false =>
    obtain ⟨e, refused⟩ := apply_of_not_suits suits
    rw [refused] at accepted
    cases accepted
  | true =>
    obtain ⟨code, version, description, state, takes, applied⟩ := apply_of_suits suits
    rw [applied] at accepted
    cases built : call.convention.buildAck x.property call.value code version description x.component with
    | error e =>
      rw [built] at accepted
      cases accepted
    | ok patch =>
      rw [built] at accepted
      cases accepted
      exact ⟨code, version, description, state, built, takes, rfl⟩

/-- A call is accepted exactly when the state of the exchange suits it, its property may be acknowledged, and its value
    can be written. -/
theorem apply_ok_iff :
    (∃ r, call.apply x = .ok r) ↔
      call.suits x.state = true ∧ checkName x.property = .ok () ∧
        ∃ j, call.convention.serializer.toWire call.value = .ok j := by
  constructor
  · rintro ⟨⟨patch, x'⟩, accepted⟩
    obtain ⟨code, version, description, state, built, _⟩ := apply_ok accepted
    obtain ⟨checked, j, wire, _⟩ := buildAck_ok built
    refine ⟨?_, checked, j, wire⟩
    cases suits : call.suits x.state with
    | true => rfl
    | false =>
      obtain ⟨e, refused⟩ := apply_of_not_suits suits
      rw [refused] at accepted
      cases accepted
  · rintro ⟨suits, checked, j, wire⟩
    obtain ⟨code, version, description, state, _, applied⟩ := apply_of_suits suits
    rw [applied, buildAck_of_ok checked wire]
    exact ⟨_, rfl⟩

end ExchangeCall

/-- A patch that acknowledges a property is read as a plain JSON value. -/
theorem tryGetAck_document {c : Convention} {name : String} {value : Datum} {code : AckCode} {version : Int64}
    {description component component' : Option String} {patch : Patch}
    (same : componentName? component = componentName? component')
    (built : c.buildAck name value code version description component = .ok patch) :
    ∃ ack, c.tryGetAck .document patch name component' = .ok (some ack) ∧ ack.code = code ∧ ack.version = version ∧
      ack.description = description := by
  obtain ⟨j, wire, read⟩ := tryGetAck_buildAck .document same built
  obtain ⟨j', again⟩ : ∃ j', c.serializer.ofWire .document j = .ok j' :=
    Serializer.toWire_document (Serializer.isDocument_of_toWire wire) c.serializer
  rw [read, again]
  exact ⟨⟨j', code, version, description⟩, rfl, rfl, rfl, rfl⟩

/-! ### Blocks -/

/-- The acknowledgements of a version that is answered. -/
inductive Block where
  /-- The version was acknowledged first. -/
  | answered (version : Int64) (code : AckCode) (terminal : code.isTerminal = true)
  | rejected (version : Int64)

namespace Block

def version : Block → Int64
  | .answered version _ _ => version
  | .rejected version => version

/-- The code of the answer. -/
def code : Block → AckCode
  | .answered _ code _ => code
  | .rejected _ => .badRequest

def acks : Block → List (AckCode × Int64)
  | .answered version code _ => [(.inProgress, version), (code, version)]
  | .rejected version => [(.badRequest, version)]

end Block

/-- How far an exchange has come: what it has answered, and the version that waits for its answer. -/
structure Progress where
  answered : List Block
  awaited : Option Int64

namespace Progress

def start : Progress := ⟨[], none⟩

/-- All acknowledgements so far. -/
def acks (p : Progress) : List (AckCode × Int64) :=
  p.answered.flatMap Block.acks ++ p.awaited.toList.map fun version => (.inProgress, version)

/-- The versions of the blocks, that of an unfinished one included. -/
def versions (p : Progress) : List Int64 :=
  p.answered.map Block.version ++ p.awaited.toList

/-- The state in which the exchange is then. -/
def state (p : Progress) : ExchangeState :=
  match p.awaited, p.answered.getLast? with
  | some version, _ => .pending version
  | none, some last => .terminal last.code last.version
  | none, none => .idle

variable {p : Progress} {code : AckCode} {version : Int64} {state : ExchangeState}

theorem awaited_of_opens (opens : Exchange.opensFor version p.state = true) : p.awaited = none := by
  obtain ⟨answered, awaited⟩ := p
  cases awaited with
  | none => rfl
  | some version => cases opens

/-- Versions that grow stay below a version for which the exchange opens. -/
theorem versions_lt_of_opens (grow : p.versions.Pairwise (· < ·)) (opens : Exchange.opensFor version p.state = true) :
    ∀ v ∈ p.versions, v < version := by
  have free := awaited_of_opens opens
  obtain ⟨answered, awaited⟩ := p
  subst free
  rcases List.eq_nil_or_concat answered with rfl | ⟨before, last, rfl⟩
  · simp [versions]
  · have newest : last.version < version := by simpa [Progress.state, Exchange.opensFor] using opens
    simp only [versions, List.concat_eq_append, List.map_append, List.map_cons, List.map_nil, Option.toList_none,
      List.append_nil, List.pairwise_append, List.mem_singleton] at grow ⊢
    intro v member
    rcases List.mem_append.mp member with earlier | here
    · exact Int64.lt_trans (grow.2.2 v earlier _ rfl) newest
    · rw [List.mem_singleton.mp here]
      exact newest

/-- An acknowledgement takes the progress of an exchange one step further. -/
theorem takes (grow : p.versions.Pairwise (· < ·)) (step : p.state.Takes code version state) :
    ∃ p' : Progress, p'.acks = p.acks ++ [(code, version)] ∧ p'.versions.Pairwise (· < ·) ∧ p'.state = state := by
  generalize current : p.state = before at step
  have extended (opens : Exchange.opensFor version before = true) : (p.versions ++ [version]).Pairwise (· < ·) := by
    rw [← current] at opens
    refine List.pairwise_append.mpr ⟨grow, List.pairwise_singleton _ _, fun v member w here => ?_⟩
    rw [List.mem_singleton.mp here]
    exact versions_lt_of_opens grow opens v member
  cases step with
  | acknowledged opens =>
    have free := awaited_of_opens (current ▸ opens)
    refine ⟨⟨p.answered, some version⟩, by simp [acks, free], ?_, rfl⟩
    simpa [versions, free] using extended opens
  | rejected opens =>
    have free := awaited_of_opens (current ▸ opens)
    refine ⟨⟨p.answered ++ [.rejected version], none⟩, by simp [acks, free, Block.acks], ?_, ?_⟩
    · simpa [versions, free, Block.version] using extended opens
    · simp [Progress.state, Block.code, Block.version]
  | completed terminal =>
    obtain ⟨answered, awaited⟩ := p
    have waits : awaited = some version := by
      cases awaited with
      | some v => simpa [Progress.state] using current
      | none => cases last : answered.getLast? <;> simp [Progress.state, last] at current
    subst waits
    refine ⟨⟨answered ++ [.answered version code terminal], none⟩, by simp [acks, Block.acks], ?_, ?_⟩
    · simpa [versions, Block.version] using grow
    · simp [Progress.state, Block.code, Block.version]

end Progress

/-! ### Runs -/

namespace Exchange

/-- What is read in the patches of a run, of a property whose values are plain JSON. -/
def readings (property : String) (component : Option String) (patches : List (Convention × Patch)) :
    List (Except TwinError (Option Ack)) :=
  patches.map fun (c, patch) => c.tryGetAck .document patch property component

/-- A run takes the progress of an exchange further by the acknowledgements that it makes. -/
theorem run_takes {x : Exchange} {component : Option String} (same : x.component = componentName? component)
    (calls : List ExchangeCall) {p : Progress} (grow : p.versions.Pairwise (· < ·)) (state : x.state = p.state) :
    ∃ (p' : Progress) (acks : List Ack),
      readings x.property component (x.run calls).2 = acks.map (fun ack => .ok (some ack)) ∧
      p'.acks = p.acks ++ acks.map (fun ack => (ack.code, ack.version)) ∧ p'.versions.Pairwise (· < ·) ∧
      (x.run calls).1 = { x with state := p'.state } := by
  induction calls generalizing x p with
  | nil => exact ⟨p, [], rfl, by simp, grow, by rw [← state]; rfl⟩
  | cons call calls ih =>
    cases applied : call.apply x with
    | error e =>
      simp only [run, applied]
      exact ih same grow state
    | ok r =>
      obtain ⟨patch, x'⟩ := r
      obtain ⟨code, version, description, after, built, step, rfl⟩ := ExchangeCall.apply_ok applied
      have components : componentName? x.component = componentName? component := by
        rw [same, componentName?_idempotent]
      obtain ⟨ack, read, rfl, rfl, _⟩ := tryGetAck_document components built
      rw [state] at step
      obtain ⟨p₁, acks₁, grow₁, state₁⟩ := Progress.takes grow step
      obtain ⟨p', acks, reads, more, grow', rest⟩ := ih (x := { x with state := after }) same grow₁ state₁.symm
      simp only [run, applied]
      refine ⟨p', ack :: acks, ?_, by simp [more, acks₁], grow', rest⟩
      simpa [readings, read] using reads

/-- Whatever calls are made of an exchange: the patches of the accepted ones, read with the conventions that built them,
    are acknowledgements in blocks, each an acknowledged version with its answer or a rejected version, of which only
    the last one may lack its answer; the versions of the blocks grow; and the state of the exchange is that of its last
    block. Which calls are accepted then depends on this state alone, besides the name of the property and the value. -/
theorem acks_of_run (property : String) (component : Option String) (calls : List ExchangeCall) :
    ∃ (p : Progress) (acks : List Ack),
      readings property component ((start property component).run calls).2 = acks.map (fun ack => .ok (some ack)) ∧
      acks.map (fun ack => (ack.code, ack.version)) = p.acks ∧
      p.versions.Pairwise (· < ·) ∧
      ((start property component).run calls).1.state = p.state ∧
      ∀ call : ExchangeCall, (∃ r, call.apply ((start property component).run calls).1 = .ok r) ↔
        call.suits p.state = true ∧ checkName property = .ok () ∧
          ∃ j, call.convention.serializer.toWire call.value = .ok j := by
  obtain ⟨p, acks, reads, all, grow, final⟩ :=
    run_takes (x := start property component) rfl calls (p := .start) List.Pairwise.nil rfl
  refine ⟨p, acks, reads, all.symm, grow, by rw [final], fun call => ?_⟩
  rw [final]
  exact ExchangeCall.apply_ok_iff

end Exchange
end DeviceTwin
