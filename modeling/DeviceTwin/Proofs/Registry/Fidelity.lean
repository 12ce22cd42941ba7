import DeviceTwin.Proofs.Registry.Content
import DeviceTwin.Proofs.Registry.Exchange

/-!
What arrives of an entity. A transport that sends back what it is sent (`echo`) shows what a service would keep: an
operation on an entity returns the entity itself (`Client.Returns`). What is not returned is read from the body of the
request (`Client.SendsAs`). Both hold of every plain entity (`entitiesSurvive`); of a configuration the service gets
what the serializer makes of its content (`contentArrives`).
-/
namespace DeviceTwin.Registry
open Http Json

/-- A transport that answers every request with what was sent in its body. -/
def echo {m : Type → Type} [Monad m] : Transport m :=
  fun r => pure (.ok (.new 200 (Text.utf8Bytes (r.body.getD ""))))

namespace Client

/-- What an operation returns where everything is sent back. -/
def Returns (c : Client) (o : Operation) (value : o.answer.Value) : Prop :=
  ∀ (m : Type → Type) [Monad m] [LawfulMonad m], c.run (echo : Transport m) o = pure (.ok value)

/-- An operation is one request, whatever is answered, and every serializer reads the value from its body. -/
def SendsAs {α : Type} [JsonForm α] (c : Client) (o : Operation) (value : α) : Prop :=
  ∃ (r : Request) (payload : String), (∀ answer log, (c.run (recording answer) o log).2 = log ++ [r]) ∧
    r.body = some payload ∧ ∀ s : Serializer, readPayload s payload = .ok value

variable {c : Client} {o : Operation} {α : Type} [JsonForm α] {sent received : α}

/-- An operation with a value that is conveyed is one request. -/
theorem exists_request_of_conveys (conveys : Conveys c.serializer sent received) (allowed : o.Allowed)
    (content : o.content = some (toJson sent)) : ∃ r payload, c.prepare o = .ok r ∧ r.body = some payload ∧
      ∀ s : Serializer, readPayload s payload = .ok received := by
  obtain ⟨payload, written, reads⟩ := conveys
  have accepted : c.Accepts o := by
    refine ⟨allowed, fun j content' => ⟨payload, ?_⟩⟩
    rw [content] at content'
    cases content'
    exact written
  obtain ⟨r, prepared, request⟩ := exists_prepare accepted
  obtain ⟨payload', written', body⟩ := request.body _ content
  rw [writePayload, written'] at written
  cases written
  exact ⟨r, payload, prepared, body, reads⟩

theorem sendsAs_of_conveys (conveys : Conveys c.serializer sent received) (allowed : o.Allowed)
    (content : o.content = some (toJson sent)) : c.SendsAs o received := by
  obtain ⟨r, payload, prepared, body, reads⟩ := exists_request_of_conveys conveys allowed content
  refine ⟨r, payload, fun answer log => ?_, body, reads⟩
  rw [run_of_prepare prepared]
  rfl

/-- What is conveyed is returned, if it is what the operation asks for. -/
theorem returns_of_conveys (conveys : Conveys c.serializer sent received) (allowed : o.Allowed)
    (content : o.content = some (toJson sent)) (expected : o.expectedStatus = 200) {value : o.answer.Value}
    (asks : ∀ payload, readPayload c.serializer payload = .ok received →
      o.answer.read c.serializer payload = .ok value) : c.Returns o value := by
  intro m _ _
  obtain ⟨r, payload, prepared, body, reads⟩ := exists_request_of_conveys conveys allowed content
  have text : Text.ofUtf8 (Response.new 200 (Text.utf8Bytes payload)).body = .ok payload := Text.ofUtf8_eq_ok.mpr rfl
  have decided : c.decided o (.ok (.new 200 (Text.utf8Bytes payload))) = .ok value := by
    rw [c.decided_of_expected expected.symm, readAnswer_of_text text, asks payload (reads c.serializer)]
    rfl
  rw [run_of_prepare prepared, echo, pure_bind, body, Option.getD_some, decided]

end Client

/-! ### Entities -/

/-- The entities and batches that arrive at a service as they are given to a client. -/
structure EntitiesSurvive (c : Client) : Prop where
  createDevice : ∀ d, (Operation.createDevice d).Allowed → c.Returns (.createDevice d) d
  replaceDevice : ∀ d force, (Operation.replaceDevice d force).Allowed → c.Returns (.replaceDevice d force) d
  createModule : ∀ m, (Operation.createModule m).Allowed → c.Returns (.createModule m) m
  replaceModule : ∀ m force, (Operation.replaceModule m force).Allowed → c.Returns (.replaceModule m force) m
  createJob : ∀ job, c.Returns (.createJob job) job
  /-- The content of a configuration has no floating-point numbers and leaves a level to the configuration. -/
  createConfiguration : c.serializer = .verbose → ∀ (configuration : Configuration) (depth : Nat),
    IsDocument depth (toJson configuration.content) → Exact (toJson configuration.content) → depth < depthLimit →
    (Operation.createConfiguration configuration).Allowed →
    c.Returns (.createConfiguration configuration) configuration
  replaceConfiguration : c.serializer = .verbose → ∀ (configuration : Configuration) (force : Bool) (depth : Nat),
    IsDocument depth (toJson configuration.content) → Exact (toJson configuration.content) → depth < depthLimit →
    (Operation.replaceConfiguration configuration force).Allowed →
    c.Returns (.replaceConfiguration configuration force) configuration
  addDevices : ∀ devices, (Operation.addDevices devices).Allowed →
    c.SendsAs (.addDevices devices) (devices.map (BulkEntry.ofDevice .create))
  updateDevices : ∀ devices force, (Operation.updateDevices devices force).Allowed →
    c.SendsAs (.updateDevices devices force)
      (devices.map (BulkEntry.ofDevice (if force then .update else .updateIfMatchTag)))
  removeDevices : ∀ devices force, (Operation.removeDevices devices force).Allowed →
    c.SendsAs (.removeDevices devices force)
      (devices.map (BulkEntry.ofDevice (if force then .delete else .deleteIfMatchTag)))

theorem conveys_verbose {c : Client} (verbose : c.serializer = .verbose) {configuration : Configuration} {depth : Nat}
    (document : IsDocument depth (toJson configuration.content)) (exact_ : Exact (toJson configuration.content))
    (shallow : depth < depthLimit) : Conveys c.serializer configuration configuration := by
  have conveys := conveys_configuration c.serializer configuration document shallow exact_
  rwa [verbose, ConfigurationContent.form_verbose, ← verbose] at conveys

/-- Every client sends entities so that they are read as they were given. -/
theorem entitiesSurvive (c : Client) : EntitiesSurvive c where
  createDevice d allowed := c.returns_of_conveys (conveys_plain _ (by decide) d) allowed rfl rfl fun _ => id
  replaceDevice d force allowed := c.returns_of_conveys (conveys_plain _ (by decide) d) allowed rfl rfl fun _ => id
  createModule m allowed := c.returns_of_conveys (conveys_plain _ (by decide) m) allowed rfl rfl fun _ => id
  replaceModule m force allowed := c.returns_of_conveys (conveys_plain _ (by decide) m) allowed rfl rfl fun _ => id
  createJob job :=
    have allowed : (Operation.createJob job).Allowed := trivial
    c.returns_of_conveys (conveys_plain _ (by decide) job) allowed rfl rfl fun _ => id
  createConfiguration verbose configuration depth document exact_ shallow allowed :=
    c.returns_of_conveys (conveys_verbose verbose document exact_ shallow) allowed rfl rfl fun _ => id
  replaceConfiguration verbose configuration force depth document exact_ shallow allowed :=
    c.returns_of_conveys (conveys_verbose verbose document exact_ shallow) allowed rfl rfl fun _ => id
  addDevices devices allowed := c.sendsAs_of_conveys (conveys_plain _ (by decide) _) allowed rfl
  updateDevices devices force allowed := c.sendsAs_of_conveys (conveys_plain _ (by decide) _) allowed rfl
  removeDevices devices force allowed := c.sendsAs_of_conveys (conveys_plain _ (by decide) _) allowed rfl

/-- A device that manages others, with one of its two keys. -/
def gatewayDevice : Device :=
  ((Device.new "gateway").withAuthentication (.ofSymmetricKey ⟨some "a2V5", none⟩)).edge

theorem entitiesSurvive_gatewayDevice :
    (Operation.createDevice gatewayDevice).Allowed ∧ Client.new.Returns (.createDevice gatewayDevice) gatewayDevice ∧
      (Operation.removeDevices [gatewayDevice] true).Allowed ∧
      Client.new.SendsAs (.removeDevices [gatewayDevice] true) [BulkEntry.ofDevice .delete gatewayDevice] := by
  have named : Text.isBlankText gatewayDevice.id = false := by decide +kernel
  have allowed : (Operation.createDevice gatewayDevice).Allowed := ⟨named, rfl⟩
  have allowed' : (Operation.removeDevices [gatewayDevice] true).Allowed :=
    ⟨by simp, by decide, List.forall_mem_singleton.mpr named, by simp, nofun⟩
  have survive := entitiesSurvive Client.new
  exact ⟨allowed, survive.createDevice _ allowed, allowed', survive.removeDevices _ _ allowed'⟩

/-! ### Contents -/

/-- The content that an operation applies. -/
def Operation.applied? : Operation → Option ConfigurationContent
  | .createConfiguration configuration => some configuration.content
  | .replaceConfiguration configuration _ => some configuration.content
  | .applyConfiguration _ content => some content
  | _ => none

namespace Client

/-- A content is read from the body of the request: as it is if it is applied to a device, and within a configuration
    otherwise. -/
def Delivers (c : Client) (o : Operation) (content : ConfigurationContent) : Prop :=
  match o with
  | .applyConfiguration _ _ => c.SendsAs o content
  | _ => ∃ received : Configuration, c.SendsAs o received ∧ received.content = content

variable {c : Client} {o : Operation} {content content' : ConfigurationContent} {depth : Nat}

theorem sendsAs_unique {α : Type} [JsonForm α] {value value' : α} (first : c.SendsAs o value)
    (second : c.SendsAs o value') : value = value' := by
  obtain ⟨r, payload, sends, body, reads⟩ := first
  obtain ⟨r', payload', sends', body', reads'⟩ := second
  have refuse : List Request → Except RegistryError Response := fun _ => .error (.failedExchange .brokenOff)
  have same : [r] = [r'] := (sends refuse []).symm.trans (sends' refuse [])
  cases same
  rw [body] at body'
  cases body'
  have reading := (reads c.serializer).symm.trans (reads' c.serializer)
  cases reading
  rfl

theorem delivers_unique (first : c.Delivers o content) (second : c.Delivers o content') : content = content' := by
  cases o with
  | applyConfiguration => exact sendsAs_unique first second
  | _ =>
    obtain ⟨received, sends, rfl⟩ := first
    obtain ⟨received', sends', rfl⟩ := second
    rw [sendsAs_unique sends sends']

/-- What the serializer makes of a content is delivered. -/
theorem delivers_form (allowed : o.Allowed) (applied : o.applied? = some content)
    (document : IsDocument depth (toJson content)) (exact_ : Exact (toJson content)) (shallow : depth < depthLimit) :
    c.Delivers o (content.form c.serializer) := by
  have configured (configuration : Configuration) (content_ : configuration.content = content)
      (sent : o.content = some (toJson configuration)) :
      ∃ received : Configuration, c.SendsAs o received ∧ received.content = content.form c.serializer := by
    subst content_
    have conveys := conveys_configuration c.serializer configuration document shallow exact_
    exact ⟨_, sendsAs_of_conveys conveys allowed sent, rfl⟩
  cases o with
  | createConfiguration configuration => exact configured configuration (Option.some.inj applied) rfl
  | replaceConfiguration configuration force => exact configured configuration (Option.some.inj applied) rfl
  | applyConfiguration deviceId content =>
    cases applied
    exact sendsAs_of_conveys (conveys_content c.serializer document shallow exact_) allowed rfl
  | _ => cases applied

end Client

/-- What arrives of a content is what the serializer makes of it. This is the content itself exactly if the serializer
    is the verbose one or no field in the content is `null`. -/
theorem contentArrives (c : Client) {o : Operation} {content : ConfigurationContent} {depth : Nat} (allowed : o.Allowed)
    (applied : o.applied? = some content) (document : IsDocument depth (toJson content))
    (exact_ : Exact (toJson content)) (shallow : depth < depthLimit) :
    c.Delivers o (content.form c.serializer) ∧
      (c.Delivers o content ↔
        c.serializer = .verbose ∨ ∀ p ∈ (toJson content).places, p.isNullField = false) := by
  have delivers := c.delivers_form allowed applied document exact_ shallow
  refine ⟨delivers, ?_⟩
  have kept : c.Delivers o content ↔ content.form c.serializer = content := by
    constructor
    · intro same
      exact Client.delivers_unique delivers same
    · intro same
      rwa [same] at delivers
  rw [kept]
  cases serializer : c.serializer with
  | verbose => simp [ConfigurationContent.form_verbose]
  | compact => simp [ConfigurationContent.form_compact_iff]

/-- A content that removes a desired property: a device takes a field that is `null` off its twin. -/
def removal : ConfigurationContent :=
  ⟨some ⟨[("a", .obj [("b", .null)])], by decide⟩, none, none⟩

/-- The content when the field has been left out. -/
def emptied : ConfigurationContent :=
  ⟨some ⟨[("a", .obj [])], by decide⟩, none, none⟩

theorem isDocument_removal : IsDocument 3 (toJson removal) := by
  refine .obj (List.forall_mem_singleton.mpr ?_)
  refine .obj (List.forall_mem_singleton.mpr ?_)
  exact .obj (List.forall_mem_singleton.mpr (.null 0))

theorem exact_removal : Exact (toJson removal) := by
  refine .obj (by decide) (List.forall_mem_singleton.mpr ?_)
  refine .obj (by decide) (List.forall_mem_singleton.mpr ?_)
  exact .obj (by decide) (List.forall_mem_singleton.mpr .null)

/-- Another content arrives. -/
theorem contentArrives_removal : (Operation.applyConfiguration "edge" removal).applied? = some removal ∧
    Client.new.Delivers (.applyConfiguration "edge" removal) emptied ∧
    ¬ Client.new.Delivers (.applyConfiguration "edge" removal) removal := by
  have named : Text.isBlankText "edge" = false := by decide +kernel
  obtain ⟨delivers, kept⟩ := contentArrives Client.new (o := .applyConfiguration "edge" removal) named rfl
    isDocument_removal exact_removal (by decide)
  refine ⟨rfl, delivers, fun same => ?_⟩
  rcases kept.mp same with verbose | unset
  · cases verbose
  · have there : (toJson removal).places.any Place.isNullField = true := rfl
    obtain ⟨p, member, null⟩ := List.any_eq_true.mp there
    rw [unset p member] at null
    cases null

/-- The default client sends a removal as if nothing were to be removed. -/
theorem removal_unsent : (Operation.applyConfiguration "edge" removal).Allowed ∧
    ((Client.new.prepare (.applyConfiguration "edge" removal)).toOption.bind (·.body)) =
      some "\x7b\"deviceContent\":\x7b\"a\":\x7b\x7d\x7d\x7d" ∧
    ¬ Client.new.Delivers (.applyConfiguration "edge" removal) removal := by
  have named : Text.isBlankText "edge" = false := by decide +kernel
  have allowed : (Operation.applyConfiguration "edge" removal).Allowed := named
  have delivers : Client.new.Delivers (.applyConfiguration "edge" removal) emptied :=
    Client.delivers_form allowed rfl isDocument_removal exact_removal (by decide)
  refine ⟨allowed, by decide +kernel, fun same => ?_⟩
  have unchanged := congrArg (fun c => (toJson c).places.length) (Client.delivers_unique delivers same)
  cases unchanged

end DeviceTwin.Registry
