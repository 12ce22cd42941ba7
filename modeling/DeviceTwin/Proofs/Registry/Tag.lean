import DeviceTwin.Proofs.Registry.Exchange

/-!
Tags against lost updates. Unless it is forced, an operation that replaces or deletes an entity names the tag of the
version that it is about, between quotes that can be taken away again (`unquoted_of_quotedTag`), and a bulk operation
names the tag of each device in its entry. What has no tag is not sent at all (`respectsTags_of_sends`).
-/
namespace DeviceTwin.Registry
open Http Text

/-! ### Quotes -/

/-- A tag that is between double quotes already. -/
def Enclosed (l : List Char) : Prop := ∃ inner, l = '"' :: inner ++ ['"']

/-- A tag without the double quotes around it. -/
def unquoted (l : List Char) : List Char :=
  if l.head? = some '"' ∧ l.getLast? = some '"' ∧ 1 < l.length then l.tail.dropLast else l

theorem enclosed_iff {l : List Char} :
    Enclosed l ↔ l.head? = some '"' ∧ l.getLast? = some '"' ∧ 1 < l.length := by
  constructor
  · rintro ⟨inner, rfl⟩
    exact ⟨rfl, List.getLast?_concat, by simp⟩
  · rintro ⟨first, last, long⟩
    cases l with
    | nil => cases first
    | cons c rest =>
      cases first
      have some_ : rest ≠ [] := by rintro rfl; simp at long
      rw [List.getLast?_cons_of_ne_nil some_] at last
      exact ⟨rest.dropLast, by rw [List.cons_append, List.dropLast_append_getLast? _ last]⟩

theorem quotedTag_of_enclosed {l : List Char} (enclosed : Enclosed l) : quotedTag l = l :=
  if_pos (enclosed_iff.mp enclosed)

theorem quotedTag_of_not_enclosed {l : List Char} (bare : ¬ Enclosed l) : quotedTag l = '"' :: l ++ ['"'] :=
  if_neg fun enclosed => bare (enclosed_iff.mpr enclosed)

theorem unquoted_of_enclosed (inner : List Char) : unquoted ('"' :: inner ++ ['"']) = inner := by
  rw [unquoted, if_pos (enclosed_iff.mp ⟨inner, rfl⟩), List.cons_append, List.tail_cons, List.dropLast_concat]

/-- A tag is sent between double quotes, whether or not it was between them before. -/
theorem quotedTag_eq (l : List Char) : quotedTag l = '"' :: unquoted l ++ ['"'] := by
  by_cases enclosed : Enclosed l
  · obtain ⟨inner, rfl⟩ := enclosed
    rw [quotedTag_of_enclosed ⟨inner, rfl⟩, unquoted_of_enclosed]
  · rw [quotedTag_of_not_enclosed enclosed, unquoted, if_neg fun quotes => enclosed (enclosed_iff.mpr quotes)]

/-- Two tags are quoted alike only if they are the same but for quotes around them. -/
theorem unquoted_of_quotedTag {l l' : List Char} (same : quotedTag l = quotedTag l') : unquoted l = unquoted l' := by
  rw [quotedTag_eq, quotedTag_eq] at same
  simpa using same

/-! ### Operations on versions -/

namespace Operation

/-- The argument that tells whether an operation is forced. -/
def force? : Operation → Option Bool
  | .replaceDevice _ force => some force
  | .deleteDevice _ force => some force
  | .updateDevices _ force => some force
  | .removeDevices _ force => some force
  | .replaceModule _ force => some force
  | .deleteModule _ force => some force
  | .replaceConfiguration _ force => some force
  | .deleteConfiguration _ force => some force
  | _ => none

/-- The tag of the entity that an operation replaces or deletes. -/
def entityTag? : Operation → Option (Option String)
  | .replaceDevice d _ => some d.etag
  | .deleteDevice d _ => some d.etag
  | .replaceModule m _ => some m.etag
  | .deleteModule m _ => some m.etag
  | .replaceConfiguration configuration _ => some configuration.etag
  | .deleteConfiguration configuration _ => some configuration.etag
  | _ => none

/-- The operations that create an entity or start a job. -/
inductive Creates : Operation → Prop where
  | device (device : Device) : Creates (.createDevice device)
  | module (module : Module) : Creates (.createModule module)
  | configuration (configuration : Configuration) : Creates (.createConfiguration configuration)
  | job (job : Job) : Creates (.createJob job)

/-- The bulk operations on versions, with the mode of their entries. -/
inductive BulkOnVersions : Operation → String → List Device → Prop where
  | update (devices : List Device) : BulkOnVersions (.updateDevices devices false) "updateIfMatchETag" devices
  | remove (devices : List Device) : BulkOnVersions (.removeDevices devices false) "deleteIfMatchETag" devices

end Operation

/-- The headers that state a condition. -/
def conditions (r : Request) : List (String × String) :=
  r.headers.filter fun h => sameLetters h.1 "If-Match"

/-- A request that an operation sends, whatever is answered. -/
def Client.Sends (c : Client) (o : Operation) (r : Request) : Prop :=
  ∃ answer, r ∈ (c.run (recording answer) o []).2

/-- What a request does not overwrite. -/
structure RespectsTags (o : Operation) (r : Request) : Prop where
  /-- Any version is matched only where the operation is forced or knows no version. -/
  wildcard : "*" ∈ (conditions r).map (·.2) → o.force? = some true ∨ ∃ id, o = .deleteDeviceById id
  /-- An operation that is not forced matches the version of its entity, by its tag. -/
  version : ∀ etag, o.entityTag? = some etag → o.force? = some false → ∃ tag value, etag = some tag ∧
    isBlankText tag = false ∧ conditions r = [("If-Match", value)] ∧
    (Enclosed (trimChars tag.toList) → value = trim tag) ∧
    (¬ Enclosed (trimChars tag.toList) → value = "\"" ++ trim tag ++ "\"")
  /-- What is created has no version yet. -/
  creation : o.Creates → conditions r = []
  /-- A bulk operation that is not forced matches the version of each device. -/
  bulk : ∀ mode devices, o.BulkOnVersions mode devices → ∃ body items, r.body = some body ∧
    Json.parse body = .ok (.arr items) ∧ List.Forall₂ (fun (d : Device) (item : Json) =>
      item.get? "id" = some (.str d.id) ∧ item.get? "importMode" = some (.str mode) ∧
      ∃ tag, d.etag = some tag ∧ isBlankText tag = false ∧ item.get? "eTag" = some (.str tag)) devices items

theorem Client.isRequest_of_sends {c : Client} {o : Operation} {r : Request} (sends : c.Sends o r) :
    c.IsRequest o r := by
  obtain ⟨answer, member⟩ := sends
  by_cases accepted : c.Accepts o
  · obtain ⟨r', prepared, request⟩ := exists_prepare accepted
    rw [run_of_prepare prepared] at member
    obtain rfl : r = r' := List.mem_singleton.mp member
    exact request
  · obtain ⟨e, refused, _⟩ := prepare_refused accepted
    rw [run_of_refused refused] at member
    cases member

/-! ### Single entities -/

theorem hasTag_iff {etag : Option String} : hasTag etag = true ↔ ∃ tag, etag = some tag ∧ isBlankText tag = false := by
  cases etag <;> simp [hasTag]

theorem matchedTag_ne_wildcard (etag : Option String) : matchedTag etag false ≠ "*" := by
  intro wildcard
  have text := congrArg String.toList wildcard
  rw [matchedTag, if_neg (by simp), String.toList_ofList, quotedTag_eq] at text
  exact absurd (List.cons.inj text).1 (by decide)

namespace Operation
variable {o : Operation} {etag : Option String} {force : Bool}

/-- An operation on an entity matches the tag of it. -/
theorem matched_of_entityTag? (tag : o.entityTag? = some etag) (forced : o.force? = some force) :
    o.matched = some (matchedTag etag force) := by
  cases o <;> simp_all [entityTag?, force?, matched]

/-- Such an operation is not allowed without a tag, unless it is forced. -/
theorem hasTag_of_allowed (allowed : o.Allowed) (tag : o.entityTag? = some etag) (unforced : o.force? = some false) :
    hasTag etag = true := by
  cases o <;> simp_all [entityTag?, force?, Allowed]

theorem matched_cases {value : String} (matched_ : o.matched = some value) :
    (∃ etag force, o.force? = some force ∧ value = matchedTag etag force) ∨ ∃ id, o = .deleteDeviceById id := by
  cases o with
  | deleteDeviceById id => exact .inr ⟨id, rfl⟩
  | replaceDevice | deleteDevice | replaceModule | deleteModule | replaceConfiguration | deleteConfiguration =>
    cases matched_
    exact .inl ⟨_, _, rfl, rfl⟩
  | _ => cases matched_

end Operation

namespace Client.IsRequest
variable {c : Client} {o : Operation} {r : Request}

/-- The condition of a request is the tag that the operation asks for. -/
theorem conditions_eq (request : c.IsRequest o r) :
    conditions r = o.matched.toList.map fun tag => ("If-Match", tag) := by
  have tag : sameLetters "If-Match" "If-Match" = true := by decide +kernel
  have type : sameLetters "Content-Type" "If-Match" = false := by decide +kernel
  rw [conditions, request.headers]
  cases o.matched <;> cases o.content <;> simp [tag, type]

end Client.IsRequest

/-! ### Bulk operations -/

theorem bulkEntry_get? {d : Device} {tag : String} (tagged : d.etag = some tag) (mode : ImportMode) :
    (toJson (BulkEntry.ofDevice mode d)).get? "id" = some (.str d.id) ∧
      (toJson (BulkEntry.ofDevice mode d)).get? "importMode" = some (.str mode.name) ∧
      (toJson (BulkEntry.ofDevice mode d)).get? "eTag" = some (.str tag) := by
  simp [toJson, BulkEntry.ofDevice, tagged, field, field?, Json.get?, Assoc.find?, Named.name]

theorem Client.IsRequest.bulk {c : Client} {o : Operation} {r : Request} {devices : List Device}
    (request : c.IsRequest o r) (mode : ImportMode)
    (content : o.content = some (toJson (devices.map (BulkEntry.ofDevice mode))))
    (tagged : ∀ d ∈ devices, hasTag d.etag = true) :
    ∃ body items, r.body = some body ∧ Json.parse body = .ok (.arr items) ∧
      List.Forall₂ (fun (d : Device) (item : Json) =>
        item.get? "id" = some (.str d.id) ∧ item.get? "importMode" = some (.str mode.name) ∧
        ∃ tag, d.etag = some tag ∧ isBlankText tag = false ∧ item.get? "eTag" = some (.str tag)) devices items := by
  obtain ⟨payload, written, body⟩ := request.body _ content
  have text := writePayload_plain (by decide) c.serializer (devices.map (BulkEntry.ofDevice mode))
  rw [writePayload, written] at text
  cases text
  refine ⟨_, _, body, parse_form (by decide) (devices.map (BulkEntry.ofDevice mode)), ?_⟩
  rw [List.map_map, List.forall₂_map_right_iff, List.forall₂_same]
  intro d member
  obtain ⟨tag, same, there⟩ := hasTag_iff.mp (tagged d member)
  obtain ⟨id, importMode, etag⟩ := bulkEntry_get? same mode
  exact ⟨id, importMode, tag, same, there, etag⟩

/-! ### Requests that are sent -/

section Sends
variable {c c' : Client} {o o' : Operation} {r r' : Request}

/-- What an operation on an entity that is not forced sends. -/
theorem Client.Sends.conditions_eq {etag : Option String} (sends : c.Sends o r) (entity : o.entityTag? = some etag)
    (unforced : o.force? = some false) : ∃ tag, etag = some tag ∧ isBlankText tag = false ∧
      conditions r = [("If-Match", String.ofList (quotedTag (trimChars tag.toList)))] := by
  have request := isRequest_of_sends sends
  obtain ⟨tag, rfl, there⟩ := hasTag_iff.mp (o.hasTag_of_allowed request.accepted.allowed entity unforced)
  refine ⟨tag, rfl, there, ?_⟩
  rw [request.conditions_eq, o.matched_of_entityTag? entity unforced]
  rfl

/-- A request that is sent overwrites nothing without force. -/
theorem respectsTags_of_sends (sends : c.Sends o r) : RespectsTags o r := by
  have request := Client.isRequest_of_sends sends
  have allowed := request.accepted.allowed
  constructor
  · intro wildcard
    rw [request.conditions_eq] at wildcard
    cases matched : o.matched with
    | none => simp [matched] at wildcard
    | some value =>
      obtain rfl : "*" = value := by simpa [matched] using wildcard
      rcases o.matched_cases matched with ⟨etag, force, forced, same⟩ | byId
      · cases force with
        | true => exact .inl forced
        | false => exact absurd same.symm (matchedTag_ne_wildcard etag)
      · exact .inr byId
  · intro etag entity unforced
    obtain ⟨tag, rfl, there, conditions⟩ := sends.conditions_eq entity unforced
    refine ⟨tag, _, rfl, there, conditions, fun enclosed => ?_, fun bare => ?_⟩
    · rw [quotedTag_of_enclosed enclosed, trim]
    · rw [quotedTag_of_not_enclosed bare, trim]
      exact String.toList_injective (by simp)
  · intro creates
    rw [request.conditions_eq]
    cases creates <;> rfl
  · intro mode devices bulk
    cases bulk with
    | update => exact request.bulk .updateIfMatchTag rfl (allowed.tagged rfl)
    | remove => exact request.bulk .deleteIfMatchTag rfl (allowed.tagged rfl)

/-- Requests on versions of different tags differ, unless the tags differ in nothing but quotes. -/
theorem unquoted_of_conditions {tag tag' : String} (sends : c.Sends o r) (sends' : c'.Sends o' r')
    (entity : o.entityTag? = some (some tag)) (entity' : o'.entityTag? = some (some tag'))
    (unforced : o.force? = some false) (unforced' : o'.force? = some false) (same : conditions r = conditions r') :
    unquoted (trimChars tag.toList) = unquoted (trimChars tag'.toList) := by
  obtain ⟨_, tag_, _, first⟩ := sends.conditions_eq entity unforced
  obtain ⟨_, tag_', _, second⟩ := sends'.conditions_eq entity' unforced'
  cases tag_
  cases tag_'
  rw [first, second] at same
  exact unquoted_of_quotedTag (String.ofList_injective (by simpa using same))

end Sends

/-- No operation overwrites an entity that it has not seen, unless it is forced to. -/
theorem noUnforcedOverwrite (c c' : Client) :
    (∀ o r, c.Sends o r → RespectsTags o r) ∧
    ∀ o o' r r' tag tag', c.Sends o r → c'.Sends o' r' → o.entityTag? = some (some tag) →
      o'.entityTag? = some (some tag') → o.force? = some false → o'.force? = some false →
      unquoted (trimChars tag.toList) ≠ unquoted (trimChars tag'.toList) → conditions r ≠ conditions r' :=
  ⟨fun _ _ sends => respectsTags_of_sends sends, fun _ _ _ _ _ _ sends sends' entity entity' unforced unforced' other
    same => other (unquoted_of_conditions sends sends' entity entity' unforced unforced' same)⟩

/-- A tag that looks like the one for any version is still the tag of one version, and differs from another one. -/
theorem noUnforcedOverwrite_asterisk :
    ∃ r r', Client.new.Sends (.deleteDevice ((Device.new "d").withEtag " * ") false) r ∧
      Client.new.Sends (.deleteDevice ((Device.new "d").withEtag "\"b\"") false) r' ∧
      RespectsTags (.deleteDevice ((Device.new "d").withEtag " * ") false) r ∧
      conditions r = [("If-Match", "\"*\"")] ∧ conditions r ≠ conditions r' := by
  have sends : Client.new.Sends (.deleteDevice ((Device.new "d").withEtag " * ") false)
      ⟨.delete, ["devices", "d"], [("api-version", defaultApiVersion)], [("If-Match", "\"*\"")], none⟩ :=
    ⟨fun _ => .error (.failedExchange .brokenOff), by decide +kernel⟩
  have sends' : Client.new.Sends (.deleteDevice ((Device.new "d").withEtag "\"b\"") false)
      ⟨.delete, ["devices", "d"], [("api-version", defaultApiVersion)], [("If-Match", "\"b\"")], none⟩ :=
    ⟨fun _ => .error (.failedExchange .brokenOff), by decide +kernel⟩
  have other : unquoted (trimChars " * ".toList) ≠ unquoted (trimChars "\"b\"".toList) := by decide +kernel
  obtain ⟨respects, differ⟩ := noUnforcedOverwrite Client.new Client.new
  exact ⟨_, _, sends, sends', respects _ _ sends, by decide +kernel,
    differ _ _ _ _ " * " "\"b\"" sends sends' rfl rfl rfl rfl other⟩

end DeviceTwin.Registry
