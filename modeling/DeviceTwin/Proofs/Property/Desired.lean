import DeviceTwin.Proofs.Json.Spelling
import DeviceTwin.Proofs.Property.Decoding
import DeviceTwin.Property.Desired

/-!
Desired properties as they arrive: as a document, in the text of one, or within a twin. A document is accepted if its
version is an integer of 64 bits, and gives the other fields but the metadata (`DesiredSet.ofJson_eq_ok_iff`). It makes
no difference where the version stands, how the text is written and in which kind of twin the document is
(`DesiredSet.parsesAlike`).
-/
namespace DeviceTwin
open DeviceTwin.Json

namespace DesiredSet
variable {fields : Fields} {d : DesiredSet}

/-- A document has a version: an integer of 64 bits, wherever it stands. -/
def HasVersion (fields : Fields) : Prop :=
  ∃ n : Int, -0x8000000000000000 ≤ n ∧ n < 0x8000000000000000 ∧ (versionKey, Json.int n) ∈ fields

/-- Desired properties are those of a document: its version, and all other fields but the metadata, as they stand. -/
structure Of (fields : Fields) (d : DesiredSet) : Prop where
  version : (versionKey, Json.int d.version.toInt) ∈ fields
  entries : d.entries.entries = fields.filter fun f => f.1 ≠ versionKey ∧ f.1 ≠ metadataKey

/-- Wherever a document stands, the same is read of it. -/
structure ParsesAlike (fields : Fields) : Prop where
  accepted : (∃ d, ofJson (.obj fields) = .ok d) ↔ HasVersion fields
  yields : ∀ d, ofJson (.obj fields) = .ok d ↔ Of fields d
  refused : ∀ e, ofJson (.obj fields) = .error e → e.kind = .invalidPatch
  /-- However the document is spelled in the text. -/
  payload : ∀ (s : Serializer) (depth : Nat) (text : String), depth ≤ depthLimit →
    Spells depth (.obj fields) text.toList → ofPayload s text = ofJson (.obj fields)
  /-- What is set twice in a text need not be spelled as above the first time, so long as the text can be read. -/
  readable : ∀ (s : Serializer) (text : String), parse text = .ok (.obj fields) →
    ofPayload s text = ofJson (.obj fields)
  printed : IsDocument depthLimit (.obj fields) → Exact (.obj fields) →
    ∀ s : Serializer, ofPayload s (Json.obj fields).print = ofJson (.obj fields)
  /-- A twin that holds the desired properties together with the reported ones. -/
  together : ∀ twin properties : Json, twin.get? "properties" = some properties →
    properties.get? "desired" = some (.obj fields) → ofTwin twin = ofJson (.obj fields)
  /-- A twin that holds the desired properties on their own. -/
  alone : ∀ twin : Json, (∀ properties, twin.get? "properties" = some properties → properties.get? "desired" = none) →
    twin.get? "desired" = some (.obj fields) → ofTwin twin = ofJson (.obj fields)

/-! ### Documents -/

/-- The version of a document decides whether it is accepted. -/
theorem ofJson_obj (distinct : (Assoc.keys fields).Nodup) :
    ofJson (.obj fields) =
      ((Assoc.find? versionKey fields).bind int64?).elim (.error .desiredWithoutVersion) fun version =>
        .ok ⟨version, ((OrderedMap.ofEntries fields).erase versionKey).erase metadataKey⟩ := by
  have there : (OrderedMap.ofEntries fields).get? versionKey = Assoc.find? versionKey fields := by
    rw [OrderedMap.get?, OrderedMap.entries_ofEntries distinct]
  simp only [ofJson, Patch.ofJson, bind, Except.bind, there]
  cases (Assoc.find? versionKey fields).bind int64? <;> rfl

theorem version_eq_some_iff (distinct : (Assoc.keys fields).Nodup) {version : Int64} :
    (Assoc.find? versionKey fields).bind int64? = some version ↔ (versionKey, Json.int version.toInt) ∈ fields := by
  constructor
  · intro found
    obtain ⟨j, there, whole⟩ := Option.bind_eq_some_iff.mp found
    rw [← eq_int_of_int64? whole]
    exact Assoc.mem_of_find? there
  · intro member
    rw [Assoc.find?_of_mem distinct member]
    exact int64?_toInt version

/-- Removing the two keys leaves the other fields in their order. -/
theorem entries_others (distinct : (Assoc.keys fields).Nodup) :
    (((OrderedMap.ofEntries fields).erase versionKey).erase metadataKey).entries =
      fields.filter fun f => f.1 ≠ versionKey ∧ f.1 ≠ metadataKey := by
  have erased : (((OrderedMap.ofEntries fields).erase versionKey).erase metadataKey).entries =
      Assoc.erase metadataKey (Assoc.erase versionKey (OrderedMap.ofEntries fields).entries) := rfl
  rw [erased, OrderedMap.entries_ofEntries distinct,
    Assoc.erase_eq_filter (Assoc.nodup_keys_erase versionKey distinct), Assoc.erase_eq_filter distinct,
    List.filter_filter]
  refine List.filter_congr fun f _ => ?_
  rw [← Bool.decide_and, decide_eq_decide]
  exact and_comm

theorem ofJson_eq_ok_iff (distinct : (Assoc.keys fields).Nodup) : ofJson (.obj fields) = .ok d ↔ Of fields d := by
  rw [ofJson_obj distinct]
  constructor
  · intro reading
    cases found : (Assoc.find? versionKey fields).bind int64? with
    | none =>
      rw [found] at reading
      cases reading
    | some version =>
      rw [found] at reading
      cases reading
      exact ⟨(version_eq_some_iff distinct).mp found, entries_others distinct⟩
  · rintro ⟨version, entries⟩
    obtain ⟨v, map⟩ := d
    rw [(version_eq_some_iff distinct).mpr version]
    obtain rfl := OrderedMap.eq_of_entries (entries.trans (entries_others distinct).symm)
    rfl

theorem accepted_iff (distinct : (Assoc.keys fields).Nodup) :
    (∃ d, ofJson (.obj fields) = .ok d) ↔ HasVersion fields := by
  constructor
  · rintro ⟨d, reading⟩
    exact ⟨d.version.toInt, d.version.le_toInt, d.version.toInt_lt, ((ofJson_eq_ok_iff distinct).mp reading).version⟩
  · rintro ⟨n, least, greatest, member⟩
    have same : (Int64.ofInt n).toInt = n := Int64.toInt_ofInt_of_le least greatest
    refine ⟨⟨.ofInt n, ((OrderedMap.ofEntries fields).erase versionKey).erase metadataKey⟩, ?_⟩
    rw [ofJson_eq_ok_iff distinct]
    exact ⟨same.symm ▸ member, entries_others distinct⟩

theorem kind_of_ofJson {document : Json} {e : TwinError} (reading : ofJson document = .error e) :
    e.kind = .invalidPatch := by
  cases document with
  | obj fields =>
    simp only [ofJson, Patch.ofJson, bind, Except.bind] at reading
    split at reading
    · cases reading
    · cases reading
      rfl
  | _ =>
    cases reading
    rfl

/-! ### Texts and twins -/

theorem ofPayload_of_parse {text : String} {document : Json} (reading : parse text = .ok document) (s : Serializer) :
    ofPayload s text = ofJson document := by
  have payload : s.deserialize .document text = .ok document := by
    rw [Serializer.deserialize, ← parse, reading]
  rw [ofPayload, payload]
  rfl

theorem ofTwin_together {twin properties desired : Json} (outer : twin.get? "properties" = some properties)
    (inner : properties.get? "desired" = some desired) : ofTwin twin = ofJson desired := by
  simp [ofTwin, outer, inner]

theorem ofTwin_alone {twin desired : Json}
    (nothing : ∀ properties, twin.get? "properties" = some properties → properties.get? "desired" = none)
    (there : twin.get? "desired" = some desired) : ofTwin twin = ofJson desired := by
  have none_ : (twin.get? "properties").bind (Json.get? "desired") = none := by
    rw [Option.bind_eq_none_iff]
    exact nothing
  simp [ofTwin, none_, there]

/-- A document is read alike as itself, from any text of it and from either kind of twin. -/
theorem parsesAlike (distinct : (Assoc.keys fields).Nodup) : ParsesAlike fields where
  accepted := accepted_iff distinct
  yields _ := ofJson_eq_ok_iff distinct
  refused _ := kind_of_ofJson
  payload s _ _ shallow spelled := ofPayload_of_parse (parse_of_spells spelled shallow) s
  readable s _ reading := ofPayload_of_parse reading s
  printed document exact_ s := by
    have spelled : Spells depthLimit (.obj fields) (Json.obj fields).print.toList := by
      rw [print, String.toList_ofList]
      exact spells_write document exact_
    exact ofPayload_of_parse (parse_of_spells spelled (Nat.le_refl _)) s
  together _ _ := ofTwin_together
  alone _ := ofTwin_alone

/-- A version behind another field, and a text of both with blanks and an escaped letter. -/
def fanFields : Fields := [("fan", .int 3), (versionKey, .int 12)]
def fanText : String := "\x7b \"f\\u0061n\" :3, \"$version\":12\n\x7d"

/-- The fields as they stand in the text. -/
def fanSpellings : List FieldSpelling :=
  [⟨"fan", [' ', '"', 'f', '\\', 'u', '0', '0', '6', '1', 'n', '"', ' '], .int 3, ['3']⟩,
    ⟨versionKey, [' ', '"', '$', 'v', 'e', 'r', 's', 'i', 'o', 'n', '"'], .int 12, ['1', '2', '\n']⟩]

theorem spells_fan : Spells 1 (.obj fanFields) fanText.toList := by
  have blank : Blank [' '] := by simp [Blank, isSpace]
  have fan : SpellsText ['f', 'a', 'n'] ['f', '\\', 'u', '0', '0', '6', '1', 'n'] :=
    .cons (.plain (by decide) (by decide) (by decide)) <|
      .cons (.code ⟨'0', '0', '6', '1', rfl, by decide⟩) (.plain (by simp))
  have version : SpellsText ['$', 'v', 'e', 'r', 's', 'i', 'o', 'n'] ['$', 'v', 'e', 'r', 's', 'i', 'o', 'n'] :=
    .plain (by simp)
  have named : ∀ f ∈ fanSpellings, f.Named := by
    simp only [fanSpellings, List.forall_mem_cons]
    exact ⟨⟨[' '], _, [' '], rfl, blank, blank, fan⟩, ⟨[' '], _, [], rfl, blank, blank_nil, version⟩, by simp⟩
  have three : Spells 0 (.int 3) ['3'] := .int 0 (by decide) (by decide)
  have twelve : Spells 0 (.int 12) ['1', '2', '\n'] :=
    .padded blank_nil (.int 0 (by decide) (by decide)) (by simp [Blank, isSpace])
  have inside : ∀ f ∈ fanSpellings, Spells 0 f.value f.text := by
    simp only [fanSpellings, List.forall_mem_cons]
    exact ⟨three, twelve, by simp⟩
  exact Spells.obj blank_nil named inside

theorem parsesAlike_fan : (Assoc.keys fanFields).Nodup ∧ Spells 1 (.obj fanFields) fanText.toList ∧
    ofPayload .compact fanText = ofJson (.obj fanFields) :=
  ⟨by decide, spells_fan, (parsesAlike (by decide)).payload .compact 1 fanText (by decide) spells_fan⟩

end DesiredSet
end DeviceTwin
