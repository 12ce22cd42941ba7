import DeviceTwin.Command
import DeviceTwin.Proofs.Text.Split

/-!
Routing of commands. Handlers are registered under the addresses of their commands, which stay distinct
(`registerAll_eq_ok`), and a name addresses one command, by its first asterisk (`Addresses`). So a request concerns one
handler or none (`Answered`), and what comes of it is the same in whatever order the handlers were registered
(`routes_of_registerAll`).
-/
namespace DeviceTwin

/-! ### Addresses -/

/-- The command that a name is for, and its component: what stands before the first asterisk, if that is anything. -/
inductive Addresses : String → String × Option String → Prop where
  | plain {name : String} (plain : '*' ∉ name.toList) : Addresses name (name, none)
  | root (command : String) : Addresses ("*" ++ command) (command, none)
  | component {component : String} (command : String) (plain : '*' ∉ component.toList) (named : component ≠ "") :
      Addresses (component ++ "*" ++ command) (command, some component)

namespace CommandRequest

/-- The command that a request is for, and its component. -/
def key (r : CommandRequest) : String × Option String := (r.command, r.component)

theorem ofName_of_plain {name : String} (plain : '*' ∉ name.toList) (payload : String) :
    ofName name payload = ⟨none, name, payload⟩ := by
  rw [ofName, commandSeparator, Text.splitOnce_of_free plain]

theorem ofName_of_split {component : String} (plain : '*' ∉ component.toList) (command payload : String) :
    ofName (component ++ "*" ++ command) payload = ⟨componentName? (some component), command, payload⟩ := by
  have name : (component ++ "*" ++ command).toList = component.toList ++ '*' :: command.toList := by simp
  rw [ofName, commandSeparator, name, Text.splitOnce_append plain]
  simp

theorem ofName_root (command payload : String) : ofName ("*" ++ command) payload = ⟨none, command, payload⟩ := by
  have split := @ofName_of_split "" (by simp) command payload
  rwa [String.empty_append] at split

@[simp] theorem payload_ofName (name payload : String) : (ofName name payload).payload = payload := by
  rw [ofName]
  split <;> rfl

/-- A name addresses what a request by the name is for, and nothing else. -/
theorem addresses_iff {name : String} {address : String × Option String} (payload : String) :
    Addresses name address ↔ (ofName name payload).key = address := by
  constructor
  · intro addresses
    cases addresses with
    | plain plain => rw [ofName_of_plain plain, key]
    | root command => rw [ofName_root, key]
    | component command plain named => simp [ofName_of_split plain, key, componentName?, Option.filter, named]
  · rintro rfl
    by_cases there : '*' ∈ name.toList
    · obtain ⟨before, command, text, plain⟩ := List.eq_append_cons_of_mem there
      obtain rfl : name = String.ofList before ++ "*" ++ String.ofList command :=
        String.toList_injective (by simp [text])
      have plain' : '*' ∉ (String.ofList before).toList := by simpa using plain
      rw [ofName_of_split plain']
      by_cases empty : String.ofList before = ""
      · rw [empty, String.empty_append]
        exact .root _
      · simpa [key, componentName?, Option.filter, empty] using Addresses.component (String.ofList command) plain' empty
    · rw [ofName_of_plain there]
      exact .plain there

/-- The text that is read as the input of a command. -/
theorem input_eq (r : CommandRequest) : r.input = if Text.trim r.payload = "" then "null" else Text.trim r.payload := by
  simp [input, Text.isBlankText, Text.trim]

end CommandRequest

/-! ### Registration -/

section Registration
variable {m : Type → Type}

/-- The address under which a handler is registered; an empty component is the root. -/
def CommandHandler.address (h : CommandHandler m) : String × Option String := (h.command, componentName? h.component)

/-- A handler as it is registered. -/
def CommandHandler.registered (h : CommandHandler m) : CommandHandler m :=
  { h with component := componentName? h.component }

@[simp] theorem CommandHandler.key_registered (h : CommandHandler m) : h.registered.key = h.address := rfl

namespace CommandDispatcher
variable {d d' : CommandDispatcher m} {h : CommandHandler m} {hs hs' : List (CommandHandler m)}

/-- Registers handlers, one after the other. -/
def registerAll (d : CommandDispatcher m) (hs : List (CommandHandler m)) : Except DeviceError (CommandDispatcher m) :=
  hs.foldlM register d

/-- The keys of the handlers that are there. -/
def keys (d : CommandDispatcher m) : List (String × Option String) :=
  d.handlers.map (·.key)

theorem register_eq (d : CommandDispatcher m) (h : CommandHandler m) : d.register h =
    if h.address ∈ d.keys then .error (.duplicateHandler .command h.command (componentName? h.component))
    else .ok { d with handlers := d.handlers ++ [h.registered] } := by
  have known : (d.handlers.any fun g => g.key = h.registered.key) = true ↔ h.address ∈ d.keys := by
    rw [List.any_eq_true, keys, List.mem_map]
    exact exists_congr fun g => and_congr_right fun _ => decide_eq_true_iff
  exact if_congr known rfl rfl

/-- Handlers can be registered exactly if their addresses are new and distinct. -/
theorem registerAll_eq_ok (distinct : d.keys.Nodup) : d.registerAll hs = .ok d' ↔
    (d.keys ++ hs.map (·.address)).Nodup ∧ d' = { d with handlers := d.handlers ++ hs.map (·.registered) } := by
  induction hs generalizing d with
  | nil => simp [registerAll, distinct, pure, Except.pure, eq_comm]
  | cons h hs ih =>
    have step : d.registerAll (h :: hs) = d.register h >>= fun d => d.registerAll hs := List.foldlM_cons
    rw [step, register_eq]
    by_cases known : h.address ∈ d.keys
    · rw [if_pos known]
      constructor
      · nofun
      · rintro ⟨nodup, -⟩
        exact absurd rfl ((List.nodup_append.mp nodup).2.2 _ known _ List.mem_cons_self)
    · rw [if_neg known]
      have keys_ : keys { d with handlers := d.handlers ++ [h.registered] } = d.keys ++ [h.address] := by simp [keys]
      have distinct' : (d.keys ++ [h.address]).Nodup :=
        (List.perm_append_singleton h.address d.keys).nodup_iff.mpr (List.nodup_cons.mpr ⟨known, distinct⟩)
      have later := @ih { d with handlers := d.handlers ++ [h.registered] } (by rwa [keys_])
      rw [keys_] at later
      show registerAll { d with handlers := d.handlers ++ [h.registered] } hs = .ok d' ↔ _
      simpa using later

/-! ### Responses -/

/-- Where the keys are distinct, the first element of a key is the only one. -/
theorem filter_of_find? {α β : Type} [DecidableEq β] {key : α → β} {l : List α} {k : β} {a : α}
    (distinct : (l.map key).Nodup) (found : l.find? (fun b => key b = k) = some a) :
    l.filter (fun b => key b = k) = [a] := by
  induction l with
  | nil => cases found
  | cons b l ih =>
    rw [List.map_cons, List.nodup_cons] at distinct
    by_cases here : key b = k
    · have others : l.filter (fun b => key b = k) = [] := by
        rw [List.filter_eq_nil_iff]
        intro c member same
        exact distinct.1 (List.mem_map.mpr ⟨c, member, (of_decide_eq_true same).trans here.symm⟩)
      simp only [List.find?_cons, here, decide_true, Option.some.injEq] at found
      subst found
      simp [here, others]
    · simp only [List.find?_cons, here, decide_false] at found
      simp [here, ih distinct.2 found]

theorem status_failure (s : Serializer) (status : Nat) (description : String) :
    (CommandResponse.failure s status description).status = status := by
  unfold CommandResponse.failure
  split <;> rfl

/-- What a handler reads of a payload: without the blanks around it, and `null` if nothing is left. -/
def inputText (payload : String) : String :=
  if Text.trim payload = "" then "null" else Text.trim payload

/-- What comes of a request for the command of an address. Only where its payload is an input for the one handler of
    the command, a handler is run, and it is run once. -/
inductive Answered [Monad m] (s : Serializer) (hs : List (CommandHandler m)) (address : String × Option String)
    (payload : String) : m CommandResponse → Prop where
  | unknown {response : CommandResponse} (absent : hs.filter (fun h => h.address = address) = [])
      (status : response.status = 404) : Answered s hs address payload (pure response)
  | refused {h : CommandHandler m} {response : CommandResponse}
      (only : hs.filter (fun h => h.address = address) = [h])
      (unread : ∀ input, s.deserialize h.schema (inputText payload) ≠ .ok input) (status : response.status = 400) :
      Answered s hs address payload (pure response)
  | ran {h : CommandHandler m} {input : Json} {answer : CommandReply → CommandResponse}
      (only : hs.filter (fun h => h.address = address) = [h])
      (read : s.deserialize h.schema (inputText payload) = .ok input)
      (chosen : ∀ reply result, s.serialize reply.payload = .ok result →
        answer reply = ⟨reply.status, result, s.contentType⟩)
      (unwritten : ∀ reply e, s.serialize reply.payload = .error e → (answer reply).status = 500) :
      Answered s hs address payload (h.respond input >>= fun reply => pure (answer reply))

/-- How a dispatcher routes requests to the handlers that were registered. -/
structure Routes [Monad m] (s : Serializer) (hs : List (CommandHandler m)) (d : CommandDispatcher m) : Prop where
  /-- The handlers are kept under their addresses, of which no two are the same. -/
  keys : d.keys = hs.map (·.address)
  distinct : d.keys.Nodup
  /-- The root has no other name. -/
  rooted : ∀ key ∈ d.keys, key.2 ≠ some ""
  /-- A name addresses one command, and a request by it is answered as one for the command. -/
  answers : ∀ name payload, ∃ address, Addresses name address ∧ (∀ other, Addresses name other → other = address) ∧
    Answered s hs address payload (d.dispatch (.ofName name payload))
  /-- The handlers can be registered in any order, and the responses do not depend on it. -/
  unordered : ∀ hs' : List (CommandHandler m), hs'.Perm hs →
    ∃ d', (new s m).registerAll hs' = .ok d' ∧ ∀ r, d'.dispatch r = d.dispatch r

/-- The handler of a request is the one that was registered for what the request is for. -/
theorem handler?_eq (r : CommandRequest) (kept : d.handlers = hs.map (·.registered)) :
    d.handler? r = (hs.find? fun h => h.address = r.key).map (·.registered) := by
  rw [handler?, kept, List.find?_map]
  rfl

theorem answered_dispatch [Monad m] (r : CommandRequest) (kept : d.handlers = hs.map (·.registered))
    (distinct : (hs.map (·.address)).Nodup) : Answered d.serializer hs r.key r.payload (d.dispatch r) := by
  cases found : hs.find? fun h => h.address = r.key with
  | none =>
    have unknown : d.handler? r = none := by rw [handler?_eq r kept, found, Option.map_none]
    rw [dispatch, unknown]
    refine .unknown ?_ (status_failure _ _ _)
    rw [List.filter_eq_nil_iff]
    exact List.find?_eq_none.mp found
  | some h =>
    have known : d.handler? r = some h.registered := by rw [handler?_eq r kept, found, Option.map_some]
    have only := filter_of_find? distinct found
    have text : inputText r.payload = r.input := r.input_eq.symm
    rw [dispatch, known]
    cases read : d.serializer.deserialize h.schema r.input with
    | error e =>
      simp only [CommandHandler.registered, read]
      refine .refused only (fun input read' => ?_) (status_failure _ _ _)
      rw [text, read] at read'
      cases read'
    | ok input =>
      simp only [CommandHandler.registered, read]
      refine .ran only (text ▸ read) (fun reply result written => ?_) fun reply e refused => ?_
      · rw [CommandResponse.ofReply, written]
      · rw [CommandResponse.ofReply, refused]
        exact status_failure _ _ _

/-- Dispatchers respond alike if they find the same handlers. -/
theorem dispatch_congr [Monad m] {r : CommandRequest} (serializer : d.serializer = d'.serializer)
    (found : d.handler? r = d'.handler? r) : d.dispatch r = d'.dispatch r := by
  rw [dispatch, dispatch, serializer, found]

/-- A new dispatcher takes handlers exactly if their addresses are distinct. -/
theorem registerAll_new {s : Serializer} : (new s m).registerAll hs = .ok d ↔
    (hs.map (·.address)).Nodup ∧ d = ⟨s, hs.map (·.registered)⟩ := by
  simpa [new, keys] using @registerAll_eq_ok m (new s m) d hs List.nodup_nil

/-- Where no two addresses are the same, the order of the handlers does not count. -/
theorem find?_address_perm (same : hs'.Perm hs) (distinct : (hs.map (·.address)).Nodup)
    (address : String × Option String) :
    hs'.find? (fun h => h.address = address) = hs.find? fun h => h.address = address := by
  have filtered := same.filter fun h => h.address = address
  rw [← List.head?_filter, ← List.head?_filter]
  cases found : hs.find? fun h => h.address = address with
  | none =>
    have none_ : hs.filter (fun h => h.address = address) = [] :=
      List.filter_eq_nil_iff.mpr (List.find?_eq_none.mp found)
    rw [none_] at filtered ⊢
    rw [filtered.eq_nil]
  | some h =>
    rw [filter_of_find? distinct found] at filtered ⊢
    rw [List.perm_singleton.mp filtered]

/-- A dispatcher routes requests by the addresses of the handlers that were registered, whatever they are. -/
theorem routes_of_registerAll [Monad m] {s : Serializer} (registered : (new s m).registerAll hs = .ok d) :
    Routes s hs d := by
  obtain ⟨distinct, rfl⟩ := registerAll_new.mp registered
  have keys_ : keys ⟨s, hs.map (·.registered)⟩ = hs.map (·.address) := by simp [keys]
  constructor
  · exact keys_
  · rwa [keys_]
  · intro key member empty
    rw [keys_] at member
    obtain ⟨h, _, rfl⟩ := List.mem_map.mp member
    exact componentName?_ne_empty empty rfl
  · intro name payload
    have answered := answered_dispatch (d := ⟨s, hs.map (·.registered)⟩) (.ofName name payload) rfl distinct
    rw [CommandRequest.payload_ofName] at answered
    refine ⟨_, (CommandRequest.addresses_iff payload).mpr rfl, fun other addresses => ?_, answered⟩
    exact ((CommandRequest.addresses_iff payload).mp addresses).symm
  · intro hs' same
    have distinct' : (hs'.map (·.address)).Nodup := (same.map _).nodup_iff.mpr distinct
    refine ⟨_, registerAll_new.mpr ⟨distinct', rfl⟩, fun r => dispatch_congr rfl ?_⟩
    rw [handler?_eq r rfl, handler?_eq r rfl, find?_address_perm same distinct]

/-- The handlers of a device that can be rebooted as a whole, or its pump alone, after a delay. -/
def rebootHandlers : List CommandHandler :=
  [⟨"reboot", some "", .unit, fun _ => ⟨200, .value .null⟩⟩,
   ⟨"reboot", some "pump", .u8, fun delay => ⟨202, .value delay⟩⟩]

theorem routes_rebootHandlers : ∃ d, (new .compact).registerAll rebootHandlers = .ok d ∧
    Routes .compact rebootHandlers d ∧ d.keys = [("reboot", none), ("reboot", some "pump")] ∧
    (d.dispatch (.ofName "*reboot" " ")).status = 200 ∧ (d.dispatch (.ofName "pump*reboot" " 5")).status = 202 ∧
    (d.dispatch (.ofName "pump*reboot" "")).status = 400 ∧ (d.dispatch (.ofName "pump*reboot*" "5")).status = 404 := by
  have registered : (new .compact).registerAll rebootHandlers = .ok ⟨.compact, rebootHandlers.map (·.registered)⟩ :=
    registerAll_new.mpr ⟨by decide, rfl⟩
  exact ⟨_, registered, routes_of_registerAll registered, by decide, by decide +kernel, by decide +kernel,
    by decide +kernel, by decide +kernel⟩

end CommandDispatcher
end Registration

end DeviceTwin
