import DeviceTwin.Proofs.Registry.Request
import DeviceTwin.Proofs.Text.Utf8

/-!
Operations against a transport. An operation that is accepted is exactly one request, and the answer to it alone decides
the result (`Outcome`); any other operation is refused before anything is sent. Whatever error the registry makes is
worth a retry exactly if its kind is (`isTransient_failureOf`).
-/
namespace DeviceTwin.Registry
open Http Text

/-! ### Errors that are worth a retry -/

theorem ErrorCode.isTransient_kind (code : ErrorCode) : code.kind.isTransient = code.isTransient := by
  cases code <;> rfl

theorem isTransient_ite {c : Prop} [Decidable c] {first rest : ErrorKind × Bool}
    (here : first.1.isTransient = first.2) (later : rest.1.isTransient = rest.2) :
    (if c then first else rest).1.isTransient = (if c then first else rest).2 := by
  split
  · exact here
  · exact later

theorem isTransient_kindOfStatus (status : Nat) : (kindOfStatus status).1.isTransient = (kindOfStatus status).2 := by
  unfold kindOfStatus
  repeat refine isTransient_ite rfl ?_
  rfl

theorem isTransient_failureOf (status : Nat) (body : String) (codeHeader requestId : Option String) :
    (failureOf status body codeHeader requestId).transient =
      (failureOf status body codeHeader requestId).kind.isTransient := by
  simp only [failureOf]
  split
  · exact (ErrorCode.isTransient_kind _).symm
  · exact (isTransient_kindOfStatus status).symm

/-! ### Outcomes -/

/-- What the body of a response with the expected status means. -/
inductive Answered (s : Serializer) : (a : Answer) → List UInt8 → Except RegistryError a.Value → Prop where
  /-- Nothing is asked for, whatever the body holds. -/
  | nothing (body : List UInt8) : Answered s .nothing body (.ok ())
  | read {a : Answer} {text : String} {value : a.Value} (asks : a ≠ .nothing) (reads : a.read s text = .ok value) :
      Answered s a (utf8Bytes text) (.ok value)
  | unread {a : Answer} {body : List UInt8} {e : RegistryError} (asks : a ≠ .nothing)
      (unreadable : ∀ text value, body = utf8Bytes text → a.read s text ≠ .ok value)
      (kind : e.kind = .responseDeserialization) (final : e.isTransient = false) : Answered s a body (.error e)

/-- What the answer of a transport means for an operation. -/
inductive Outcome (s : Serializer) (o : Operation) :
    Except RegistryError Response → Except RegistryError o.answer.Value → Prop where
  | unanswered (e : RegistryError) : Outcome s o (.error e) (.error e)
  | unexpected {r : Response} (other : r.status ≠ o.expectedStatus) :
      Outcome s o (.ok r) (.error (classifyResponse r))
  | answered {r : Response} {result : Except RegistryError o.answer.Value} (expected : r.status = o.expectedStatus)
      (answered : Answered s o.answer r.body result) : Outcome s o (.ok r) result

/-- The operations that remove an entity or apply a content. -/
inductive Operation.RemovesOrApplies : Operation → Prop where
  | device (device : Device) (force : Bool) : RemovesOrApplies (.deleteDevice device force)
  | deviceById (id : String) : RemovesOrApplies (.deleteDeviceById id)
  | module (module : Module) (force : Bool) : RemovesOrApplies (.deleteModule module force)
  | configuration (configuration : Configuration) (force : Bool) :
      RemovesOrApplies (.deleteConfiguration configuration force)
  | content (deviceId : String) (content : ConfigurationContent) :
      RemovesOrApplies (.applyConfiguration deviceId content)

theorem Answered.of_error {s : Serializer} {a : Answer} {body : List UInt8} {e : RegistryError}
    (answered : Answered s a body (.error e)) : e.kind = .responseDeserialization ∧ e.isTransient = false := by
  cases answered with
  | unread asks unreadable kind final => exact ⟨kind, final⟩

/-- Reading an answer is reading the text of the body. -/
theorem readAnswer_of_text {s : Serializer} {a : Answer} {r : Response} {body : String}
    (text : ofUtf8 r.body = .ok body) : readAnswer s a r = (a.read s body).mapError .unreadableBody := by
  cases a with
  | nothing => rfl
  | _ => simp only [readAnswer, text]

theorem answered_readAnswer (s : Serializer) (a : Answer) (r : Response) : Answered s a r.body (readAnswer s a r) := by
  by_cases asks : a = .nothing
  · subst asks
    exact .nothing r.body
  · cases text : ofUtf8 r.body with
    | error e =>
      have reading : readAnswer s a r = .error (.bodyNotText e) := by
        cases a <;> first | exact absurd rfl asks | simp only [readAnswer, text]
      rw [reading]
      refine .unread asks (fun body value bytes => ?_) rfl rfl
      rw [ofUtf8_eq_ok.mpr bytes] at text
      cases text
    | ok body =>
      rw [readAnswer_of_text text, ofUtf8_eq_ok.mp text]
      cases read : a.read s body with
      | ok value => exact .read asks read
      | error e =>
        refine .unread asks (fun body value same => ?_) rfl rfl
        rw [← utf8Bytes_injective same, read]
        exact nofun

namespace Client

/-- The result of an operation for an answer of the transport. -/
def decided (c : Client) (o : Operation) : Except RegistryError Response → Except RegistryError o.answer.Value
  | .error e => .error e
  | .ok r => conclude c o r

/-- A response with the expected status is read. -/
theorem decided_of_expected (c : Client) {o : Operation} {r : Response} (expected : r.status = o.expectedStatus) :
    c.decided o (.ok r) = readAnswer c.serializer o.answer r := by
  simp [decided, conclude, checkStatus, expected, bind, Except.bind]

theorem outcome_decided (c : Client) (o : Operation) (a : Except RegistryError Response) :
    Outcome c.serializer o a (c.decided o a) := by
  cases a with
  | error e => exact .unanswered e
  | ok r =>
    by_cases expected : r.status = o.expectedStatus
    · rw [c.decided_of_expected expected]
      exact .answered expected (answered_readAnswer c.serializer o.answer r)
    · have result : c.decided o (.ok r) = .error (classifyResponse r) := by
        simp [decided, conclude, checkStatus, expected, bind, Except.bind]
      rw [result]
      exact .unexpected expected

/-- An operation that is sent is one request, and its result is decided by the answer. -/
theorem run_of_prepare {m : Type → Type} [Monad m] {c : Client} {o : Operation} {r : Request}
    (prepared : c.prepare o = .ok r) (send : Transport m) :
    c.run send o = send r >>= fun a => pure (c.decided o a) := by
  rw [run, prepared]
  refine bind_congr fun a => ?_
  cases a <;> rfl

theorem run_of_refused {m : Type → Type} [Monad m] {c : Client} {o : Operation} {e : RegistryError}
    (refused : c.prepare o = .error e) (send : Transport m) : c.run send o = pure (.error e) := by
  rw [run, refused]

end Client

/-! ### Exchanges -/

/-- A transport that keeps what it is sent, and whose answer may depend on all of it. -/
def recording (answer : List Request → Except RegistryError Response) : Transport (StateM (List Request)) :=
  fun r log => (answer (log ++ [r]), log ++ [r])

/-- What an operation and a transport have to do with each other, however the transport answers. -/
structure IsExchange (c : Client) (o : Operation) : Prop where
  /-- What is not accepted is refused, and nothing is sent. -/
  refused : ¬ c.Accepts o → ∃ e : RegistryError, e.kind = .argumentInvalid ∧ e.isTransient = false ∧
    ∀ answer log, c.run (recording answer) o log = (.error e, log)
  /-- What is accepted is one request, and the result is a function of the answer to it. -/
  sent : c.Accepts o → ∃ (r : Request) (decided : Except RegistryError Response → Except RegistryError o.answer.Value),
    r.query.filter (·.1 = "api-version") = [("api-version", c.apiVersion)] ∧
    (∀ a, Outcome c.serializer o a (decided a)) ∧
    ∀ answer log, c.run (recording answer) o log = (decided (answer (log ++ [r])), log ++ [r])
  /-- The content of an operation gives no reason to refuse it, unless a value in a configuration cannot be written. -/
  accepts : (∀ j ∈ o.documents, Writable j) → (c.Accepts o ↔ o.Allowed)
  /-- The one status that is expected. -/
  removes : o.RemovesOrApplies → o.expectedStatus = 204
  others : ¬ o.RemovesOrApplies → o.expectedStatus = 200
  /-- Every error but one of the transport is worth a retry exactly if its kind is. -/
  transient : ∀ {a e}, Outcome c.serializer o a (.error e) → a = .error e ∨ e.isTransient = e.kind.isTransient

/-- Every operation is at most one exchange. -/
theorem isExchange (c : Client) (o : Operation) : IsExchange c o where
  refused rejected := by
    obtain ⟨e, refused, kind, final⟩ := Client.prepare_refused rejected
    exact ⟨e, kind, final, fun answer log => by rw [Client.run_of_refused refused]; rfl⟩
  sent accepted := by
    obtain ⟨r, prepared, request⟩ := Client.exists_prepare accepted
    refine ⟨r, c.decided o, ?_, c.outcome_decided o, fun answer log => ?_⟩
    · rw [request.query]
      cases o.limit <;> simp
    · rw [Client.run_of_prepare prepared]
      rfl
  accepts documents := ⟨Client.Accepts.allowed, c.accepts_of_allowed documents⟩
  removes removing := by cases removing <;> rfl
  others other := by
    cases o <;> first | rfl | exact absurd (by constructor) other
  transient outcome := by
    cases outcome with
    | unanswered e => exact .inl rfl
    | unexpected other => exact .inr (isTransient_failureOf _ _ _ _)
    | answered expected answered =>
      obtain ⟨kind, final⟩ := answered.of_error
      exact .inr (by rw [final, kind]; rfl)

end DeviceTwin.Registry
