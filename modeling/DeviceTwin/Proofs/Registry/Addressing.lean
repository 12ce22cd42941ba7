import DeviceTwin.Proofs.Registry.Request
import DeviceTwin.Proofs.Url.Reader
import DeviceTwin.Registry.Access.Gateway

/-!
The addresses of operations. Below the base address an operation has a path of its own, as long as its identifiers are
ordinary segments (`address_exact`): then no other operation is sent there, unless it is about the same entity, or one
creates a job and the other one is about a job that is called `create`. Identifiers of dots, and those with tabs or line
ends, lead to other entities, or to whole collections.
-/
namespace DeviceTwin.Registry
open DeviceTwin.Text DeviceTwin.Url Http

/-! ### Paths of targets -/

namespace Target
variable {t t' : Target}

theorem isLeading_head {first : String} (fixed : first ∈ ["devices", "configurations", "jobs", "statistics"]) :
    IsLeading first.toList := by
  simp only [List.mem_cons, List.not_mem_nil, or_false] at fixed
  rcases fixed with rfl | rfl | rfl | rfl <;>
    exact ⟨by decide, by decide, by decide⟩

/-- A path begins with a name that is fixed, and what else is not an identifier is fixed too. -/
theorem path_eq (t : Target) : ∃ first rest, t.path = first :: rest ∧ IsLeading first.toList ∧
    ((∀ s ∈ rest, IsOrdinary s.toList) ↔ ∀ id ∈ t.identifiers, IsOrdinary id.toList) := by
  have modules : IsOrdinary "modules".toList := by decide
  have content : IsOrdinary "applyConfigurationContent".toList := by decide
  have create : IsOrdinary "create".toList := by decide
  have devices : IsOrdinary "devices".toList := by decide
  have service : IsOrdinary "service".toList := by decide
  cases t <;> refine ⟨_, _, rfl, isLeading_head (by decide), ?_⟩ <;>
    simp only [identifiers, List.forall_mem_cons, List.not_mem_nil, false_imp_iff, implies_true, and_true, true_and,
      modules, content, create, devices, service]

/-- Two targets that share a path are the same one, unless one is a job that is called like the path of new jobs. -/
theorem eq_of_path (same : t.path = t'.path) :
    t = t' ∨ (t = .job "create" ∧ t' = .newJob) ∨ (t = .newJob ∧ t' = .job "create") := by
  cases t <;> cases t' <;> simp_all [path]

end Target

/-! ### Addresses -/

/-- What stands between the slashes of the path of an address, decoded. -/
def addressParts (url : Url) : List (List UInt8) :=
  match url.path with
  | .rooted segments => decodedParts (writePath segments)
  | .rootless text => decodedParts text

namespace Gateway
variable {settings : Settings} {g : Gateway} {base : Segments} {c c' : Client} {o o' : Operation} {r r' : Request}

/-- The path of a base address as it was read. -/
theorem isRead_base (gateway : ofSettings settings = .ok g) : IsRead (isFile g.base.scheme) g.base.path := by
  unfold ofSettings at gateway
  split at gateway
  · cases gateway
  · rename_i reading
    split at gateway
    · cases gateway
      exact isRead_of_read reading
    · cases gateway

theorem path_withQuery (url : Url) (pairs : List (String × String)) : (url.withQuery pairs).path = url.path := by
  unfold Url.withQuery
  split <;> rfl

/-- The path of an address is that of the base, with the segments of the request added to it. -/
theorem address_path (rooted : g.base.path = .rooted base) (r : Request) :
    ∃ url, g.address r = .ok url ∧ url.path = .rooted
      (appendSegments (isSpecial g.base.scheme) (isFile g.base.scheme) base (r.segments.map String.toList)) := by
  have added : g.base.withSegments r.segments = some { g.base with path := .rooted (appendSegments
      (isSpecial g.base.scheme) (isFile g.base.scheme) base (r.segments.map String.toList)) } := by
    rw [Url.withSegments, rooted]
  exact ⟨_, by rw [address, added], path_withQuery _ r.query⟩

/-- The parts of an address are those of the base and the segments of the request exactly if the identifiers are
    ordinary and the path of the base is not two slashes. -/
theorem addressParts_iff (gateway : ofSettings settings = .ok g) (rooted : g.base.path = .rooted base)
    (request : c.IsRequest o r) : ∃ url, g.address r = .ok url ∧
      (addressParts url = (withoutFinalSlash base).map decoded ++ r.segments.map utf8Bytes ↔
        (∀ id ∈ o.target.identifiers, IsOrdinary id.toList) ∧ base ≠ [[], []]) := by
  obtain ⟨url, address, path⟩ := address_path rooted r
  obtain ⟨noSlash, trimmed⟩ : IsRead _ (.rooted base) := rooted ▸ isRead_base gateway
  obtain ⟨first, rest, segments, leading, identifiers⟩ := o.target.path_eq
  have added := appendSegments_iff trimmed leading (isSpecial g.base.scheme) (rest.map String.toList)
  refine ⟨url, address, ?_⟩
  rw [addressParts, path]
  simp only
  rw [decodedParts_writePath (noSlash_appendSegments _ _ noSlash _), request.segments, segments, List.map_cons,
    ← identifiers]
  have bytes : (rest.map String.toList).map (List.flatMap utf8) = rest.map utf8Bytes := by
    rw [List.map_map]
    rfl
  rw [List.map_cons, bytes] at added
  simpa [utf8Bytes] using added

/-- Ordinary segments are all in the path of an address. -/
theorem path_of_ordinary (gateway : ofSettings settings = .ok g) (rooted : g.base.path = .rooted base)
    (request : c.IsRequest o r) (ordinary : ∀ id ∈ o.target.identifiers, IsOrdinary id.toList) {url : Url}
    (address : g.address r = .ok url) : url.path = .rooted (parents (popEmpty base) ++
      o.target.path.map fun s => encodeSegment (isSpecial g.base.scheme) s.toList) := by
  obtain ⟨url', address', path⟩ := address_path rooted r
  rw [address] at address'
  cases address'
  obtain ⟨-, trimmed⟩ : IsRead _ (.rooted base) := rooted ▸ isRead_base gateway
  obtain ⟨first, rest, segments, leading, identifiers⟩ := o.target.path_eq
  have ordinary : ∀ s ∈ rest.map String.toList, IsOrdinary s := by
    simpa using identifiers.mpr ordinary
  rw [path, request.segments, segments, List.map_cons, appendSegments_ordinary trimmed leading _ ordinary]
  simp

/-- Operations with ordinary identifiers that are sent to the same path are about the same. -/
theorem path_injective (gateway : ofSettings settings = .ok g) (rooted : g.base.path = .rooted base)
    (request : c.IsRequest o r) (request' : c'.IsRequest o' r')
    (ordinary : ∀ id ∈ o.target.identifiers, IsOrdinary id.toList)
    (ordinary' : ∀ id ∈ o'.target.identifiers, IsOrdinary id.toList) {url url' : Url} (address : g.address r = .ok url)
    (address' : g.address r' = .ok url') (same : url.path = url'.path) : o.target.path = o'.target.path := by
  rw [path_of_ordinary gateway rooted request ordinary address,
    path_of_ordinary gateway rooted request' ordinary' address'] at same
  have segments := List.append_cancel_left (Path.rooted.inj same)
  refine List.map_injective_iff.mpr (fun s t encoded => ?_) segments
  exact String.toList_injective (encodeSegment_injective _ encoded)

/-- Below a base address that is no two slashes, an operation is sent to the path of its own segments exactly if its
    identifiers are ordinary segments. Then no other operation is sent there, unless it is about the same, or one of
    them is about the job `create` and the other one creates a job. -/
theorem address_exact (gateway : ofSettings settings = .ok g) (rooted : g.base.path = .rooted base)
    (prepared : c.prepare o = .ok r) :
    (∃ url, g.address r = .ok url ∧
      (addressParts url = (withoutFinalSlash base).map decoded ++ r.segments.map utf8Bytes ↔
        (∀ id ∈ o.target.identifiers, IsOrdinary id.toList) ∧ base ≠ [[], []])) ∧
    ∀ (c' : Client) (o' : Operation) (r' : Request) (url url' : Url), c'.prepare o' = .ok r' →
      g.address r = .ok url → g.address r' = .ok url' → url.path = url'.path →
      (∀ id ∈ o.target.identifiers ++ o'.target.identifiers, IsOrdinary id.toList) →
      o.target = o'.target ∨ (o.target = .job "create" ∧ o'.target = .newJob) ∨
        (o.target = .newJob ∧ o'.target = .job "create") := by
  have request := Client.isRequest_of_prepare prepared
  refine ⟨addressParts_iff gateway rooted request, fun c' o' r' url url' prepared' address address' same ordinary => ?_⟩
  obtain ⟨first, second⟩ := List.forall_mem_append.mp ordinary
  exact Target.eq_of_path (path_injective gateway rooted request (Client.isRequest_of_prepare prepared') first second
    address address' same)

/-! ### The service itself -/

/-- The address of a service without an endpoint. -/
def serviceBase : Url :=
  ⟨"https".toList, some ⟨[], [], .name "hub".toList, none⟩, .rooted [[]], none, none⟩

theorem ofSettings_new : ofSettings (.new "hub") = .ok ⟨serviceBase, defaultUserAgent⟩ := by
  have reading : Url.read (Settings.new "hub").baseAddress = .ok serviceBase := by decide +kernel
  have agent : isHeaderValue (Settings.new "hub").userAgent = true := by decide +kernel
  rw [ofSettings, reading]
  simp only [agent, if_true]
  rfl

theorem address_exact_percent : ∃ r url, Client.new.prepare (.deleteDeviceById "50%/a b") = .ok r ∧
    address ⟨serviceBase, defaultUserAgent⟩ r = .ok url ∧
    addressParts url = [utf8Bytes "devices", utf8Bytes "50%/a b"] := by
  have prepared : Client.new.prepare (.deleteDeviceById "50%/a b") = .ok ⟨.delete, ["devices", "50%/a b"],
      [("api-version", defaultApiVersion)], [("If-Match", "*")], none⟩ := rfl
  obtain ⟨url, address, exact_⟩ := (address_exact ofSettings_new rfl prepared).1
  refine ⟨_, url, prepared, address, exact_.mpr ⟨?_, by decide⟩⟩
  exact List.forall_mem_singleton.mpr (by decide)

/-- The address that a client of the service sends an operation to. -/
def serviceAddress (o : Operation) : Option String :=
  (Client.new.prepare o).toOption.bind fun r => (address ⟨serviceBase, defaultUserAgent⟩ r).toOption.map Url.text

/-- A device with a tab in its identifier is deleted at the address of the one without, and the device that is called by
    two dots at the address of all devices. -/
theorem address_ambiguous :
    (∃ r url, Client.new.prepare (.deleteDeviceById "a\tb") = .ok r ∧
      address ⟨serviceBase, defaultUserAgent⟩ r = .ok url ∧ addressParts url ≠ r.segments.map utf8Bytes) ∧
    serviceAddress (.deleteDeviceById "a\tb") = some "https://hub/devices/ab?api-version=2021-04-12" ∧
    serviceAddress (.deleteDeviceById "ab") = some "https://hub/devices/ab?api-version=2021-04-12" ∧
    serviceAddress (.deleteDeviceById "..") = some "https://hub/devices?api-version=2021-04-12" := by
  refine ⟨?_, by decide +kernel, by decide +kernel, by decide +kernel⟩
  have prepared : Client.new.prepare (.deleteDeviceById "a\tb") = .ok ⟨.delete, ["devices", "a\tb"],
      [("api-version", defaultApiVersion)], [("If-Match", "*")], none⟩ := rfl
  obtain ⟨url, address, parts⟩ := addressParts_iff ofSettings_new rfl (Client.isRequest_of_prepare prepared)
  refine ⟨_, url, prepared, address, fun same => ?_⟩
  have ordinary := (parts.mp same).1 "a\tb" (List.mem_singleton.mpr rfl)
  exact absurd (ordinary.kept '\t' (by decide)) (by decide)

end Gateway

end DeviceTwin.Registry
