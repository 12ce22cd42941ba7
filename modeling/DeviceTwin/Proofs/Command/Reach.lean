import DeviceTwin.Proofs.Command
import Mathlib.Data.List.Nodup

/-!
Which commands can be called. The full name of a command is that of its component and its own, with an asterisk between
them. A handler is reached by the names that address its command (`CommandDispatcher.reaches_iff`). A name is taken
apart at its first asterisk, so the full name addresses the command exactly if there is no asterisk in the name of the
component (`addresses_fullName_iff`); a command of any other component is reached by no name at all
(`CommandDispatcher.reached_iff`).
-/
namespace DeviceTwin

variable {name : String} {address : String × Option String}

/-- The name by which a command of a component is called; before a command of the root stands the asterisk alone. -/
def fullName (address : String × Option String) : String :=
  address.2.getD "" ++ "*" ++ address.1

/-- There is no asterisk in the full name before the one that ends the name of the component. -/
def PlainComponent (address : String × Option String) : Prop :=
  ∀ component, address.2 = some component → '*' ∉ component.toList

/-- Whatever the name is, what stands before its first asterisk has none. -/
theorem Addresses.plainComponent (addresses : Addresses name address) : PlainComponent address := by
  intro component named
  cases addresses with
  | plain => cases named
  | root => cases named
  | component _ plain =>
    cases named
    exact plain

/-- The full name of a command is for the command exactly if its component has no asterisk. -/
theorem addresses_fullName_iff (rooted : address.2 ≠ some "") :
    Addresses (fullName address) address ↔ PlainComponent address := by
  refine ⟨Addresses.plainComponent, fun plain => ?_⟩
  obtain ⟨command, component⟩ := address
  cases component with
  | none => exact .root command
  | some component => exact .component command (plain component rfl) fun empty => rooted (congrArg some empty)

namespace CommandDispatcher
variable {m : Type → Type} {s : Serializer} {d : CommandDispatcher m} {h : CommandHandler m}
  {hs : List (CommandHandler m)}

/-- Requests by a name go to a handler and to no other. -/
structure Reaches [Monad m] (d : CommandDispatcher m) (name : String) (h : CommandHandler m) : Prop where
  /-- Of all handlers it is the only one that a request is for. -/
  only : ∀ payload, d.handlers.filter (fun g => g.key = (CommandRequest.ofName name payload).key) = [h.registered]
  /-- A request is answered as if there were no other handler. -/
  answered : ∀ payload, Answered d.serializer [h] h.address payload (d.dispatch (.ofName name payload))

/-- Where the keys are distinct, an element is the only one of its key. -/
theorem filter_of_mem {α β : Type} [DecidableEq β] {key : α → β} {l : List α} {a : α} (distinct : (l.map key).Nodup)
    (member : a ∈ l) : l.filter (fun b => key b = key a) = [a] := by
  have found : l.find? (fun b => key b = key a) = some a := by
    cases found : l.find? fun b => key b = key a with
    | none => exact absurd (decide_eq_true rfl) (List.find?_eq_none.mp found a member)
    | some b =>
      have same : key b = key a := by simpa using List.find?_some found
      rw [List.inj_on_of_nodup_map distinct (List.mem_of_find?_eq_some found) member same]
  exact filter_of_find? distinct found

/-- Where a handler is found, the answer is that of a dispatcher without the others. -/
theorem answered_alone [Monad m] {r : CommandRequest} (found : d.handler? r = some h.registered)
    (same : r.key = h.address) : Answered d.serializer [h] h.address r.payload (d.dispatch r) := by
  have only : [h.registered] = [h].map (·.registered) := rfl
  have alone : handler? ⟨d.serializer, [h.registered]⟩ r = some h.registered := by
    rw [handler?_eq r only, same]
    simp
  have answer : d.dispatch r = dispatch ⟨d.serializer, [h.registered]⟩ r :=
    dispatch_congr rfl (found.trans alone.symm)
  rw [answer, ← same]
  exact answered_dispatch (d := ⟨d.serializer, [h.registered]⟩) r rfl (by simp)

/-- A handler is reached by the names that address its command, and by no others. -/
theorem reaches_iff [Monad m] (registered : (new s m).registerAll hs = .ok d) (member : h ∈ hs) :
    Reaches d name h ↔ Addresses name h.address := by
  obtain ⟨distinct, rfl⟩ := registerAll_new.mp registered
  constructor
  · intro reaches
    have there : h.registered ∈ [h.registered] := List.mem_singleton_self _
    rw [← reaches.only ""] at there
    have same : h.address = (CommandRequest.ofName name "").key := of_decide_eq_true (List.mem_filter.mp there).2
    exact (CommandRequest.addresses_iff "").mpr same.symm
  · intro addresses
    have same (payload : String) : (CommandRequest.ofName name payload).key = h.address :=
      (CommandRequest.addresses_iff payload).mp addresses
    have keys_ : (hs.map (·.registered)).map (·.key) = hs.map (·.address) := by simp
    have only (payload : String) : (hs.map (·.registered)).filter
        (fun g => g.key = (CommandRequest.ofName name payload).key) = [h.registered] := by
      rw [same payload]
      exact filter_of_mem (keys_ ▸ distinct) (List.mem_map_of_mem member)
    refine ⟨only, fun payload => ?_⟩
    have found : handler? ⟨s, hs.map (·.registered)⟩ (.ofName name payload) = some h.registered := by
      rw [handler?, ← List.head?_filter]
      exact congrArg List.head? (only payload)
    have answered := answered_alone found (same payload)
    rwa [CommandRequest.payload_ofName] at answered

/-- A command can be called by its full name if there is no asterisk in the name of its component, and otherwise by no
    name. -/
theorem reached_iff [Monad m] (registered : (new s m).registerAll hs = .ok d) (member : h ∈ hs) :
    (Reaches d (fullName h.address) h ↔ PlainComponent h.address) ∧
      ((∃ name, Reaches d name h) ↔ PlainComponent h.address) := by
  have rooted : h.address.2 ≠ some "" := fun empty => componentName?_ne_empty empty rfl
  have full := (reaches_iff registered member).trans (addresses_fullName_iff rooted)
  refine ⟨full, ?_, fun plain => ⟨_, full.mpr plain⟩⟩
  rintro ⟨name, reaches⟩
  exact ((reaches_iff registered member).mp reaches).plainComponent

/-- The command of a component with an asterisk in its name, and another one of the same full name. -/
def starredStop : CommandHandler := ⟨"stop", some "pump*a", .u8, fun delay => ⟨200, .value delay⟩⟩
def plainStop : CommandHandler := ⟨"a*stop", some "pump", .u8, fun delay => ⟨202, .value delay⟩⟩

theorem registerAll_stops :
    (new .compact).registerAll [starredStop, plainStop] =
      .ok ⟨.compact, [starredStop.registered, plainStop.registered]⟩ :=
  registerAll_new.mpr ⟨by decide, rfl⟩

theorem reached_iff_stops : ∃ d, (new .compact).registerAll [starredStop, plainStop] = .ok d ∧
    Reaches d "pump*a*stop" plainStop ∧ ¬ ∃ name, Reaches d name starredStop := by
  have plain : PlainComponent plainStop.address := by
    rintro _ ⟨⟩
    decide
  have starred : ¬ PlainComponent starredStop.address := fun plain => plain "pump*a" rfl (by decide)
  refine ⟨_, registerAll_stops, (reached_iff registerAll_stops (by simp)).1.mpr plain, ?_⟩
  rw [(reached_iff registerAll_stops (by simp)).2]
  exact starred

/-- The full name of a command is read as that of the other one, whose handler is run instead. -/
theorem misrouted_stop : ∃ d, (new .compact).registerAll [starredStop, plainStop] = .ok d ∧
    fullName starredStop.address = "pump*a*stop" ∧ ¬ Reaches d (fullName starredStop.address) starredStop ∧
    (d.dispatch (.ofName (fullName starredStop.address) "5")).status = 202 := by
  refine ⟨_, registerAll_stops, by decide, fun reaches => ?_, by decide +kernel⟩
  have only := congrArg (List.map (·.command)) (reaches.only "5")
  revert only
  decide

end CommandDispatcher
end DeviceTwin
