import DeviceTwin.Proofs.Command
import DeviceTwin.Proofs.Json.Places

/-!
Payloads of responses. Whatever a request is called and whatever it carries, what is sent back is JSON: where there is
no handler for its name or no input in its payload, a text that says so (`CommandResponse.holds_failure`), and
otherwise the reply of the handler as the serializer writes it (`CommandResponse.holds_ofReply`), or why it cannot be
written (`CommandResponse.holds_ofReply_refused`). So every request is answered in JSON
(`CommandDispatcher.answers_inJson`).
-/
namespace DeviceTwin
open Json (IsDocument Exact depthLimit)

/-! ### Values -/

/-- What a serializer sends of a value: all that is in it, but with the compact one no field that is `null`. -/
def Serializer.SentAs (s : Serializer) (j sent : Json) : Prop :=
  match s with
  | .verbose => sent = j
  | .compact => sent.places = j.places.filter fun p => !p.isNullField

theorem Serializer.sentAs_form (s : Serializer) (j : Json) : s.SentAs j (s.form j) := by
  cases s with
  | verbose => rfl
  | compact => exact Json.places_withoutNulls j

/-! ### Responses -/

namespace CommandResponse
variable {s : Serializer} {status : Nat}

/-- The payload is a JSON text, and this is what it stands for. -/
def Holds (response : CommandResponse) (j : Json) : Prop :=
  Json.parse response.payload = .ok j

/-- A description is sent as a JSON text, whatever characters are in it. -/
theorem holds_failure (s : Serializer) (status : Nat) (description : String) :
    (failure s status description).Holds (.str description) := by
  have written := s.serialize_document (.str depthLimit description)
  rw [s.form_str] at written
  simp only [failure, written, Holds]
  exact Json.parse_print (.str depthLimit description) (.str description)

/-- A reply is sent as the serializer writes it. -/
theorem holds_ofReply {j : Json} (document : IsDocument depthLimit j) (exact_ : Exact j) :
    (ofReply s ⟨status, .value j⟩).Holds (s.form j) := by
  simp only [ofReply, s.serialize_document document, Holds]
  exact Json.parse_print (s.isDocument_form document) (s.exact_form exact_)

/-- Of a reply that cannot be written the reason is sent. -/
theorem holds_ofReply_refused {reply : CommandReply} {e : TwinError} (refused : s.serialize reply.payload = .error e) :
    (ofReply s reply).Holds (.str ("Unable to serialize the command result: " ++ e.description)) := by
  simp only [ofReply, refused]
  exact holds_failure s CommandStatus.internalError _

end CommandResponse

/-! ### Requests -/

/-- A name as it is shown: without the asterisk in front of it that stands for the root. -/
def shownName (name : String) : String :=
  match name.toList with
  | '*' :: command => String.ofList command
  | _ => name

theorem shownName_root (command : String) : shownName ("*" ++ command) = command := by
  have text : ("*" ++ command).toList = '*' :: command.toList := by simp
  rw [shownName, text]
  exact String.ofList_toList

theorem shownName_of_head {name : String} (other : name.toList.head? ≠ some '*') : shownName name = name := by
  unfold shownName
  split
  · rename_i command begins
    rw [begins] at other
    exact absurd rfl other
  · rfl

/-- A request shows the name by which it was made. -/
theorem CommandRequest.displayName_ofName (name payload : String) :
    (ofName name payload).displayName = shownName name := by
  have addresses := (addresses_iff payload).mpr (Eq.refl (ofName name payload).key)
  generalize (ofName name payload).key = address at addresses
  cases addresses with
  | plain plain =>
    rw [ofName_of_plain plain, displayName, shownName_of_head fun head => plain (List.mem_of_head? head)]
  | root command => rw [ofName_root, displayName, shownName_root]
  | @component component command plain named =>
    have first : (component ++ "*" ++ command).toList.head? ≠ some '*' := by
      cases letters : component.toList with
      | nil => exact absurd (String.toList_eq_nil_iff.mp letters) named
      | cons c rest =>
        rw [letters, List.mem_cons, not_or] at plain
        simpa [letters] using Ne.symm plain.1
    have kept : componentName? (some component) = some component := by simp [componentName?, named]
    rw [ofName_of_split plain, displayName, kept, shownName_of_head first]
    rfl

namespace CommandDispatcher
open CommandResponse
variable {m : Type → Type} {d : CommandDispatcher m} {name payload : String} {h : CommandHandler m}

/-- The handler of a name: of all handlers of the command that the name addresses, the one that was registered first. -/
def IsHandlerOf (d : CommandDispatcher m) (name : String) (h : CommandHandler m) : Prop :=
  ∃ before after, d.handlers = before ++ h :: after ∧ Addresses name h.key ∧ ∀ g ∈ before, ¬ Addresses name g.key

theorem addresses_key_iff (name payload : String) (h : CommandHandler m) : Addresses name h.key ↔
    h.key = ((CommandRequest.ofName name payload).command, (CommandRequest.ofName name payload).component) :=
  (CommandRequest.addresses_iff payload).trans eq_comm

theorem handler?_eq_some_iff : d.handler? (.ofName name payload) = some h ↔ d.IsHandlerOf name h := by
  simp only [handler?, List.find?_eq_some_iff_append, IsHandlerOf, addresses_key_iff name payload, decide_eq_true_eq,
    Bool.not_eq_true', decide_eq_false_iff_not]
  constructor
  · rintro ⟨same, before, after, split, others⟩
    exact ⟨before, after, split, same, others⟩
  · rintro ⟨before, after, split, same, others⟩
    exact ⟨same, before, after, split, others⟩

theorem handler?_eq_none_iff :
    d.handler? (.ofName name payload) = none ↔ ∀ h ∈ d.handlers, ¬ Addresses name h.key := by
  simp only [handler?, List.find?_eq_none, addresses_key_iff name payload, decide_eq_true_eq]

/-- What is sent in answer to a request by a name. A description stands for itself; it shows the name, unless it is
    about the reply of the handler. -/
inductive AnswersInJson [Monad m] (d : CommandDispatcher m) (name payload : String) : m CommandResponse → Prop where
  | unknown {response : CommandResponse} {description : String} (absent : ∀ h ∈ d.handlers, ¬ Addresses name h.key)
      (told : description = "Unknown command `" ++ shownName name ++ "`")
      (names : (shownName name).toList <:+: description.toList) (holds : response.Holds (.str description)) :
      AnswersInJson d name payload (pure response)
  | refused {h : CommandHandler m} {e : TwinError} {response : CommandResponse} {description : String}
      (found : d.IsHandlerOf name h) (unread : d.serializer.deserialize h.schema (inputText payload) = .error e)
      (told : description = "Invalid payload for command `" ++ shownName name ++ "`: " ++ e.description)
      (names : (shownName name).toList <:+: description.toList) (holds : response.Holds (.str description)) :
      AnswersInJson d name payload (pure response)
  | ran {h : CommandHandler m} {input : Json} {answer : CommandReply → CommandResponse}
      (found : d.IsHandlerOf name h) (read : d.serializer.deserialize h.schema (inputText payload) = .ok input)
      (written : ∀ status j, IsDocument depthLimit j → Exact j →
        ∃ sent, (answer ⟨status, .value j⟩).Holds sent ∧ d.serializer.SentAs j sent)
      (unwritten : ∀ reply e, d.serializer.serialize reply.payload = .error e →
        (answer reply).Holds (.str ("Unable to serialize the command result: " ++ e.description))) :
      AnswersInJson d name payload (h.respond input >>= fun reply => pure (answer reply))

/-- What stands between two texts is within the whole. -/
theorem infix_between (before shown behind : String) :
    shown.toList <:+: (before ++ shown ++ behind).toList := by
  rw [String.toList_append, String.toList_append]
  exact List.infix_append _ _ _

/-- Every request is answered in JSON. -/
theorem answers_inJson [Monad m] (d : CommandDispatcher m) (name payload : String) :
    AnswersInJson d name payload (d.dispatch (.ofName name payload)) := by
  have text : (CommandRequest.ofName name payload).input = inputText payload := by
    rw [CommandRequest.input_eq, CommandRequest.payload_ofName]
    rfl
  cases found : d.handler? (.ofName name payload) with
  | none =>
    rw [dispatch, found, CommandRequest.displayName_ofName]
    exact .unknown (handler?_eq_none_iff.mp found) rfl (infix_between _ _ _)
      (holds_failure d.serializer CommandStatus.notFound _)
  | some h =>
    have first := handler?_eq_some_iff.mp found
    rw [dispatch, found, CommandRequest.displayName_ofName, text]
    cases read : d.serializer.deserialize h.schema (inputText payload) with
    | error e =>
      simp only [read]
      refine .refused first read rfl ?_ (holds_failure d.serializer CommandStatus.badRequest _)
      rw [String.append_assoc]
      exact infix_between _ _ _
    | ok input =>
      simp only [read]
      refine .ran first read (fun status j document exact_ => ?_) fun reply e refused => holds_ofReply_refused refused
      exact ⟨_, holds_ofReply document exact_, d.serializer.sentAs_form j⟩

/-- The name of an unknown command may hold what has to be escaped. -/
example : ((new .compact).dispatch (.ofName "pump*a\"\n" "")).payload = "\"Unknown command `pump*a\\\"\\n`\"" := by
  decide +kernel

end CommandDispatcher
end DeviceTwin
