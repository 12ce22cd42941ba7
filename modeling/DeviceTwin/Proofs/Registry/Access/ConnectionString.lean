import DeviceTwin.Proofs.Text.Blank
import DeviceTwin.Proofs.Text.Split
import DeviceTwin.Registry.Access.ConnectionString

/-!
Connection strings by their segments. A text is read if every segment that is more than blanks gives some key a value,
and if the last segment for each of the three keys gives it more than blanks (`IsSettled`). What is read does not depend
on anything else: two lists of segments that differ only in the order of different keys, in blanks, and in settings of
other keys are read alike (`Rephrased`), and both follow from how one segment is read (`readSegment`).
-/
namespace DeviceTwin.Registry.ConnectionString
open DeviceTwin.Text

/-! ### Segments -/

/-- The segments of a text are what stands between its semicolons. -/
structure HasSegments (s : String) (parts : List String) : Prop where
  joined : s = ";".intercalate parts
  there : parts ≠ []
  plain : ∀ segment ∈ parts, ';' ∉ segment.toList

/-- A segment gives a value to a key: the key stands before its first equals sign and the value behind it, and blanks
    around them do not count. -/
def Gives (segment key value : String) : Prop :=
  ∃ k v, segment = k ++ "=" ++ v ∧ '=' ∉ k.toList ∧ trim k = key ∧ trim v = value

/-- The last segment for a key gives it a value that is more than blanks. -/
def LastGives (parts : List String) (key value : String) : Prop :=
  ∃ before segment after, parts = before ++ segment :: after ∧ Gives segment key value ∧
    (∀ later ∈ after, ∀ other, ¬ Gives later key other) ∧ value ≠ ""

/-- Every segment that is more than blanks is a setting. -/
def AllSettings (parts : List String) : Prop :=
  ∀ segment ∈ parts, isBlankText segment = false → '=' ∈ segment.toList

/-- The keys of a connection string. -/
def knownKeys : List String := ["HostName", "SharedAccessKeyName", "SharedAccessKey"]

/-- The segments say what is in a connection string. -/
structure Say (parts : List String) (c : ConnectionString) : Prop where
  settings : AllSettings parts
  hostName : LastGives parts "HostName" c.hostName
  keyName : LastGives parts "SharedAccessKeyName" c.keyName
  key : LastGives parts "SharedAccessKey" c.key

/-- The key and the value of a segment, as they are kept. -/
def setting? (segment : String) : Option Setting :=
  (splitOnce '=' segment.toList).map fun p => (trimChars p.1, trimChars p.2)

variable {s segment key value : String} {parts parts' : List String} {settings settings' : List Setting}
  {c : ConnectionString}

theorem trim_eq_iff : trim s = value ↔ trimChars s.toList = value.toList := by
  rw [trim, ← String.toList_inj, String.toList_ofList]

theorem gives_iff : Gives segment key value ↔ setting? segment = some (key.toList, value.toList) := by
  simp only [setting?, Option.map_eq_some_iff, splitOnce_eq_some, Prod.mk.injEq, Gives, trim_eq_iff]
  constructor
  · rintro ⟨k, v, rfl, plain, sameKey, sameValue⟩
    exact ⟨(k.toList, v.toList), ⟨by simp, plain⟩, sameKey, sameValue⟩
  · rintro ⟨⟨k, v⟩, ⟨text, plain⟩, sameKey, sameValue⟩
    refine ⟨String.ofList k, String.ofList v, String.toList_injective ?_, by simpa using plain, ?_, ?_⟩
    · simp [text]
    · simpa using sameKey
    · simpa using sameValue

theorem setting?_eq_none : setting? segment = none ↔ '=' ∉ segment.toList := by
  rw [setting?, Option.map_eq_none_iff, splitOnce_eq_none]

/-- A blank text is no setting. -/
theorem setting?_of_blank (blank : isBlankText segment = true) : setting? segment = none := by
  rw [setting?_eq_none]
  exact fun there => absurd (isBlank_of_isBlankText blank _ there) (by decide)

/-- The setting of a segment is the same with or without the blanks around the segment. -/
theorem settingOf_trimmed (segment : String) : settingOf (trimChars segment.toList) =
    match setting? segment with
    | some setting => .ok setting
    | none => .error (.malformedSetting (trim segment)) := by
  obtain ⟨front, back, text, before, behind⟩ := exists_padding segment.toList
  have notBefore : '=' ∉ front := fun there => absurd (before _ there) (by decide)
  have notBehind : '=' ∉ back := fun there => absurd (behind _ there) (by decide)
  rw [settingOf]
  cases split : splitOnce '=' (trimChars segment.toList) with
  | none =>
    have plain : setting? segment = none := by
      rw [setting?_eq_none, text]
      simp [notBefore, notBehind, splitOnce_eq_none.mp split]
    simp [plain, trim]
  | some p =>
    obtain ⟨k, v⟩ := p
    obtain ⟨inner, plain⟩ := splitOnce_eq_some.mp split
    simp only at inner plain
    have whole : splitOnce '=' segment.toList = some (front ++ k, v ++ back) := by
      rw [splitOnce_eq_some]
      constructor
      · rw [text, inner]
        simp
      · simp [notBefore, plain]
    have nothing : ∀ c ∈ ([] : List Char), isBlank c = true := List.forall_mem_nil _
    have trimmedKey : trimChars (front ++ k) = trimChars k := by
      simpa using trimChars_pad before nothing k
    have trimmedValue : trimChars (v ++ back) = trimChars v := by
      simpa using trimChars_pad nothing behind v
    simp [setting?, whole, trimmedKey, trimmedValue]

/-! ### Reading segments -/

/-- What is read of a segment: nothing if it is blank, its setting, or an error. -/
def readSegment (segment : String) : Except RegistryError (List Setting) :=
  if isBlankText segment then .ok []
  else match setting? segment with
    | some setting => .ok [setting]
    | none => .error (.malformedSetting (trim segment))

/-- What is read of segments, one after the other. -/
def readSegments (parts : List String) : Except RegistryError (List Setting) :=
  settingsOf (parts.filterMap fun segment => nonBlank? segment.toList)

/-- What the settings of a text make. -/
def ofSettings (settings : List Setting) : Except RegistryError ConnectionString := do
  let hostName ← requireValue "HostName" settings
  let keyName ← requireValue "SharedAccessKeyName" settings
  let key ← requireValue "SharedAccessKey" settings
  pure ⟨hostName, keyName, key⟩

theorem readSegments_cons (segment : String) (parts : List String) : readSegments (segment :: parts) =
    readSegment segment >>= fun first => (readSegments parts).map (first ++ ·) := by
  by_cases blank : isBlankText segment = true
  · have nothing : nonBlank? segment.toList = none := if_pos blank
    simp only [readSegments, List.filterMap_cons, nothing, readSegment, if_pos blank]
    cases settingsOf (parts.filterMap fun segment => nonBlank? segment.toList) <;> rfl
  · have there : nonBlank? segment.toList = some (trimChars segment.toList) := if_neg blank
    simp only [readSegments, List.filterMap_cons, there, readSegment, if_neg blank, settingsOf, settingOf_trimmed]
    cases setting? segment with
    | none => rfl
    | some setting => cases settingsOf (parts.filterMap fun segment => nonBlank? segment.toList) <;> rfl

theorem readSegments_append (parts parts' : List String) : readSegments (parts ++ parts') =
    readSegments parts >>= fun first => (readSegments parts').map (first ++ ·) := by
  induction parts with
  | nil =>
    show readSegments parts' = (readSegments parts').map ([] ++ ·)
    cases readSegments parts' <;> rfl
  | cons segment parts ih =>
    rw [List.cons_append, readSegments_cons, readSegments_cons, ih]
    cases readSegment segment with
    | error e => rfl
    | ok first => cases readSegments parts with
      | error e => rfl
      | ok others => cases readSegments parts' with
        | error e => rfl
        | ok rest => exact congrArg Except.ok (List.append_assoc first others rest).symm

theorem readSegments_singleton (segment : String) : readSegments [segment] = readSegment segment := by
  rw [readSegments_cons]
  cases readSegment segment with
  | error e => rfl
  | ok first => exact congrArg Except.ok (List.append_nil first)

/-- All settings are read if every segment is one. -/
theorem readSegments_eq_ok :
    readSegments parts = .ok settings ↔ AllSettings parts ∧ settings = parts.filterMap setting? := by
  induction parts generalizing settings with
  | nil =>
    show Except.ok [] = Except.ok settings ↔ _
    rw [Except.ok.injEq, eq_comm]
    simp [AllSettings]
  | cons segment parts ih =>
    have tail : ∀ first, (readSegments parts).map (first ++ ·) = Except.ok settings ↔
        AllSettings parts ∧ settings = first ++ parts.filterMap setting? := by
      intro first
      cases rest : readSegments parts with
      | error e =>
        have refused : ¬ AllSettings parts := by
          intro all
          have read := ih.mpr ⟨all, rfl⟩
          rw [rest] at read
          cases read
        simp [Except.map, refused]
      | ok others =>
        obtain ⟨all, rfl⟩ := ih.mp rest
        simp [Except.map, all, eq_comm]
    rw [readSegments_cons, AllSettings, List.forall_mem_cons, readSegment, List.filterMap_cons]
    by_cases blank : isBlankText segment = true
    · simp only [setting?_of_blank blank, blank]
      exact (tail []).trans (by simp [AllSettings])
    · rw [if_neg blank]
      cases found : setting? segment with
      | none =>
        have missing := setting?_eq_none.mp found
        simp [missing, blank, bind, Except.bind]
      | some setting =>
        have there : '=' ∈ segment.toList := by
          by_contra missing
          rw [setting?_eq_none.mpr missing] at found
          cases found
        exact (tail [setting]).trans (by simp [AllSettings, there])

/-! ### Values of keys -/

theorem getLast?_filterMap_eq_some {α β : Type} {f : α → Option β} {l : List α} {b : β} :
    (l.filterMap f).getLast? = some b ↔
      ∃ before a after, l = before ++ a :: after ∧ f a = some b ∧ ∀ later ∈ after, f later = none := by
  rw [List.getLast?_filterMap, List.findSome?_eq_some_iff]
  constructor
  · rintro ⟨after, a, before, text, here, none_⟩
    refine ⟨before.reverse, a, after.reverse, ?_, here, by simpa using none_⟩
    simpa using congrArg List.reverse text
  · rintro ⟨before, a, after, rfl, here, none_⟩
    exact ⟨after.reverse, a, before.reverse, by simp, here, by simpa using none_⟩

theorem requireValue_eq_ok :
    requireValue key settings = .ok value ↔ lastValue? key.toList settings = some value.toList := by
  rw [requireValue]
  cases lastValue? key.toList settings with
  | none => simp
  | some v => simp [← String.toList_inj]

theorem ofSettings_eq_ok : ofSettings settings = .ok c ↔
    requireValue "HostName" settings = .ok c.hostName ∧ requireValue "SharedAccessKeyName" settings = .ok c.keyName ∧
      requireValue "SharedAccessKey" settings = .ok c.key := by
  obtain ⟨hostName, keyName, key⟩ := c
  rw [ofSettings]
  cases requireValue "HostName" settings <;> cases requireValue "SharedAccessKeyName" settings <;>
    cases requireValue "SharedAccessKey" settings <;> simp [bind, Except.bind, pure, Except.pure]

theorem lastValue?_eq_some {k v : List Char} : lastValue? k settings = some v ↔
    (∃ k', (settings.filter fun s => s.1 = k).getLast? = some (k', v)) ∧ v ≠ [] := by
  rw [lastValue?]
  cases (settings.filter fun s => s.1 = k).getLast? with
  | none => simp
  | some last =>
    obtain ⟨k', v'⟩ := last
    cases v' with
    | nil => simp
    | cons c v' => simpa using fun same => same ▸ List.cons_ne_nil c v'

/-- The value that is required of a key is the one that the last segment for the key gives it. -/
theorem requireValue_segments :
    requireValue key (parts.filterMap setting?) = .ok value ↔ LastGives parts key value := by
  rw [requireValue_eq_ok, lastValue?_eq_some, List.filter_filterMap]
  simp only [getLast?_filterMap_eq_some, Option.filter_eq_some_iff, Option.filter_eq_none_iff, LastGives, gives_iff]
  constructor
  · rintro ⟨⟨k, before, segment, after, text, ⟨gives, same⟩, later⟩, some_⟩
    obtain rfl := of_decide_eq_true same
    exact ⟨before, segment, after, text, gives, fun l member _ found => later l member _ found (decide_eq_true rfl),
      by simpa using some_⟩
  · rintro ⟨before, segment, after, text, gives, later, some_⟩
    refine ⟨⟨_, before, segment, after, text, ⟨gives, decide_eq_true rfl⟩, ?_⟩, by simpa using some_⟩
    rintro l member ⟨k, v⟩ found same
    obtain rfl := of_decide_eq_true same
    exact later l member (String.ofList v) (by rwa [String.toList_ofList])

/-! ### Texts -/

theorem HasSegments.pieces_eq (split : HasSegments s parts) : pieces (· = ';') s.toList = parts.map String.toList := by
  have separator : ";".toList = [';'] := by decide
  rw [split.joined, String.toList_intercalate, separator]
  exact pieces_intercalate (by simpa using split.there) (by simpa using split.plain)

/-- Every text has its segments, and no others. -/
theorem exists_segments (s : String) : ∃ parts, HasSegments s parts ∧ ∀ other, HasSegments s other → other = parts := by
  refine ⟨(pieces (· = ';') s.toList).map String.ofList, ⟨?_, ?_, ?_⟩, ?_⟩
  · have separator : ";".toList = [';'] := by decide
    rw [← String.toList_inj, String.toList_intercalate, separator, List.map_map]
    simpa [Function.comp_def] using (intercalate_pieces ';' s.toList).symm
  · simpa using pieces_ne_nil _ s.toList
  · intro segment member there
    obtain ⟨piece, listed, rfl⟩ := List.mem_map.mp member
    rw [String.toList_ofList] at there
    exact absurd rfl (of_decide_eq_false (of_mem_pieces listed _ there))
  · intro other split
    rw [split.pieces_eq, List.map_map]
    simp [Function.comp_def]

theorem HasSegments.ofText (split : HasSegments s parts) : ofText s = readSegments parts >>= ofSettings := by
  have segments_ : segments s.toList = parts.filterMap fun segment => nonBlank? segment.toList := by
    rw [segments, split.pieces_eq, List.filterMap_map]
    rfl
  rw [ConnectionString.ofText, segments_]
  rfl

/-- A text is read as what its segments say. -/
theorem HasSegments.ofText_eq_ok (split : HasSegments s parts) : ConnectionString.ofText s = .ok c ↔ Say parts c := by
  have read : ConnectionString.ofText s = .ok c ↔
      ∃ settings, readSegments parts = .ok settings ∧ ofSettings settings = .ok c := by
    rw [split.ofText]
    cases readSegments parts <;> simp [bind, Except.bind]
  rw [read]
  constructor
  · rintro ⟨settings, reading, made⟩
    obtain ⟨all, rfl⟩ := readSegments_eq_ok.mp reading
    obtain ⟨hostName, keyName, key⟩ := ofSettings_eq_ok.mp made
    exact ⟨all, requireValue_segments.mp hostName, requireValue_segments.mp keyName, requireValue_segments.mp key⟩
  · rintro ⟨all, hostName, keyName, key⟩
    refine ⟨_, readSegments_eq_ok.mpr ⟨all, rfl⟩, ofSettings_eq_ok.mpr ⟨?_, ?_, ?_⟩⟩
    · exact requireValue_segments.mpr hostName
    · exact requireValue_segments.mpr keyName
    · exact requireValue_segments.mpr key

/-! ### Other ways to write the same settings -/

/-- Two segments give no values to the same key, and at most one of them is malformed. -/
def Apart (a b : String) : Prop :=
  (∀ key value, Gives a key value → ∀ other, ¬ Gives b key other) ∧ (AllSettings [a] ∨ AllSettings [b])

/-- Segments that may stand in the place of others. -/
inductive Replaces : List String → List String → Prop where
  /-- Segments for different keys, in another order. -/
  | reordered {parts parts' : List String} (same : parts.Perm parts') (apart : parts.Pairwise Apart) :
      Replaces parts parts'
  | blank {segment : String} (blank : isBlankText segment = true) : Replaces [] [segment]
  | unknown {segment key value : String} (gives : Gives segment key value) (unknown : key ∉ knownKeys)
      (plain : ';' ∉ segment.toList) : Replaces [] [segment]
  | padded (segment : String) {front back : String} (before : isBlankText front = true)
      (behind : isBlankText back = true) : Replaces [segment] [front ++ segment ++ back]
  /-- Blanks around the key and around the value. -/
  | spaced {k : String} (plain : '=' ∉ k.toList) (v : String) {front back front' back' : String}
      (before : isBlankText front = true) (behind : isBlankText back = true) (before' : isBlankText front' = true)
      (behind' : isBlankText back' = true) :
      Replaces [k ++ "=" ++ v] [(front ++ k ++ back) ++ "=" ++ (front' ++ v ++ back')]

/-- Segments of which some have been replaced, one time after the other. -/
inductive Rephrased : List String → List String → Prop where
  | refl (parts : List String) : Rephrased parts parts
  | step {parts before after old new : List String} (rephrased : Rephrased parts (before ++ old ++ after))
      (replaces : Replaces old new) : Rephrased parts (before ++ new ++ after)

/-- What is read alike: the same error, or the same settings of the keys that count, in the same order for each key. -/
inductive Alike : Except RegistryError (List Setting) → Except RegistryError (List Setting) → Prop where
  | error (e : RegistryError) : Alike (.error e) (.error e)
  | ok {settings settings' : List Setting}
      (same : ∀ key ∈ knownKeys,
        (settings.filter fun s => s.1 = key.toList) = settings'.filter fun s => s.1 = key.toList) :
      Alike (.ok settings) (.ok settings')

theorem Alike.trans {r r' r'' : Except RegistryError (List Setting)} (alike : Alike r r') (alike' : Alike r' r'') :
    Alike r r'' := by
  cases alike with
  | error e => exact alike'
  | ok same => cases alike' with
    | ok same' => exact .ok fun key known => (same key known).trans (same' key known)

theorem Alike.refl (r : Except RegistryError (List Setting)) : Alike r r := by
  cases r with
  | error e => exact .error e
  | ok settings => exact .ok fun _ _ => rfl

/-- Of what is read only the settings of the known keys count. -/
theorem Alike.ofSettings {r r' : Except RegistryError (List Setting)} (alike : Alike r r') :
    r >>= ofSettings = r' >>= ofSettings := by
  cases alike with
  | error e => rfl
  | @ok settings settings' same =>
    have required : ∀ key ∈ knownKeys, requireValue key settings = requireValue key settings' := by
      intro key known
      rw [requireValue, requireValue, lastValue?, lastValue?, same key known]
    simp only [bind, Except.bind, ConnectionString.ofSettings, required "HostName" (by decide),
      required "SharedAccessKeyName" (by decide), required "SharedAccessKey" (by decide)]

/-- What stands around segments is read alike if they are. -/
theorem Alike.within {old new : List String} (alike : Alike (readSegments old) (readSegments new))
    (before after : List String) :
    Alike (readSegments (before ++ old ++ after)) (readSegments (before ++ new ++ after)) := by
  rw [List.append_assoc, List.append_assoc, readSegments_append before, readSegments_append before,
    readSegments_append old, readSegments_append new]
  cases readSegments before with
  | error e => exact .error e
  | ok first =>
    generalize readSegments old = r at alike
    generalize readSegments new = r' at alike
    cases alike with
    | error e => exact .error e
    | ok same =>
      cases readSegments after with
      | error e => exact .error e
      | ok rest => exact .ok fun key known => by simp only [List.filter_append, same key known]

theorem readSegment_of_gives (gives : Gives segment key value) :
    readSegment segment = .ok [(key.toList, value.toList)] := by
  have found := gives_iff.mp gives
  have there : ¬ isBlankText segment = true := fun blank => by
    rw [setting?_of_blank blank] at found
    cases found
  rw [readSegment, if_neg there, found]

/-- What is read of a segment is what it gives to a key, if anything is read of it. -/
theorem of_readSegment (reading : readSegment segment = .ok settings) :
    settings = [] ∨ ∃ key value, Gives segment key value ∧ settings = [(key.toList, value.toList)] := by
  rw [readSegment] at reading
  split at reading
  · cases reading
    exact .inl rfl
  · split at reading
    · rename_i setting found
      obtain ⟨k, v⟩ := setting
      cases reading
      refine .inr ⟨String.ofList k, String.ofList v, gives_iff.mpr ?_, ?_⟩ <;> simp [found]
    · cases reading

theorem Apart.symm {a b : String} (apart : Apart a b) : Apart b a :=
  ⟨fun key value gives other gives' => apart.1 key other gives' value gives, apart.2.symm⟩

/-- Two segments for different keys are read alike in either order. -/
theorem alike_swap {a b : String} (apart : Apart a b) : Alike (readSegments [a, b]) (readSegments [b, a]) := by
  obtain ⟨different, sound⟩ := apart
  have read {segment : String} (all : AllSettings [segment]) : ∃ settings, readSegment segment = .ok settings :=
    ⟨_, (readSegments_singleton segment).symm.trans (readSegments_eq_ok.mpr ⟨all, rfl⟩)⟩
  rw [readSegments_cons a [b], readSegments_cons b [a], readSegments_singleton, readSegments_singleton]
  cases readingA : readSegment a with
  | error e =>
    obtain ⟨settings, readingB⟩ := read (sound.resolve_left fun all => by simpa [readingA] using read all)
    rw [readingB]
    exact .error e
  | ok settings => cases readingB : readSegment b with
    | error e => exact .error e
    | ok settings' =>
      refine .ok fun key _ => ?_
      rcases of_readSegment readingA with rfl | ⟨k, v, gives, rfl⟩
      · simp
      rcases of_readSegment readingB with rfl | ⟨k', v', gives', rfl⟩
      · simp
      have apart : k'.toList ≠ k.toList :=
        fun same => different k v gives v' (String.toList_injective same ▸ gives')
      by_cases here : k.toList = key.toList
      · have there : k'.toList ≠ key.toList := here ▸ apart
        simp [here, there]
      · simp [here, List.filter_cons]

theorem alike_of_perm {old new : List String} (same : old.Perm new) (apart : old.Pairwise Apart) :
    Alike (readSegments old) (readSegments new) := by
  induction same with
  | nil => exact .refl _
  | cons segment same ih => simpa using (ih apart.tail).within [segment] []
  | swap a b rest => exact (alike_swap (List.rel_of_pairwise_cons apart List.mem_cons_self)).within [] rest
  | trans same _ ih ih' => exact (ih apart).trans (ih' ((same.pairwise_iff Apart.symm).mp apart))

/-- Segments that may stand in the place of others are read alike. -/
theorem Replaces.alike {old new : List String} (replaces : Replaces old new) :
    Alike (readSegments old) (readSegments new) := by
  cases replaces with
  | reordered same apart => exact alike_of_perm same apart
  | blank blank =>
    rw [readSegments_singleton, readSegment, if_pos blank]
    exact .ok fun _ _ => rfl
  | @unknown segment key value gives unknown _ =>
    rw [readSegments_singleton, readSegment_of_gives gives]
    refine .ok fun k known => ?_
    have different : key.toList ≠ k.toList := fun same => unknown (String.toList_injective same ▸ known)
    simp [different]
  | @padded segment front back before behind =>
    have trimmed := trimChars_pad (isBlank_of_isBlankText before) (isBlank_of_isBlankText behind) segment.toList
    have same : nonBlank? (front ++ segment ++ back).toList = nonBlank? segment.toList := by
      rw [String.toList_append, String.toList_append, nonBlank?, nonBlank?, trimmed]
    rw [readSegments, readSegments, List.filterMap_cons, List.filterMap_cons, same]
    exact .refl _
  | @spaced k plain v front back front' back' before behind before' behind' =>
    have given : Gives (k ++ "=" ++ v) (trim k) (trim v) := ⟨k, v, rfl, plain, rfl, rfl⟩
    have given' : Gives ((front ++ k ++ back) ++ "=" ++ (front' ++ v ++ back')) (trim k) (trim v) := by
      refine ⟨front ++ k ++ back, front' ++ v ++ back', rfl, ?_, ?_, ?_⟩
      · have free {s : String} (blank : isBlankText s = true) : '=' ∉ s.toList :=
          fun there => absurd (isBlank_of_isBlankText blank _ there) (by decide)
        simp [plain, free before, free behind]
      · simp only [trim, String.toList_append,
          trimChars_pad (isBlank_of_isBlankText before) (isBlank_of_isBlankText behind)]
      · simp only [trim, String.toList_append,
          trimChars_pad (isBlank_of_isBlankText before') (isBlank_of_isBlankText behind')]
    rw [readSegments_singleton, readSegments_singleton, readSegment_of_gives given, readSegment_of_gives given']
    exact .refl _

/-- Segments that are written in another way are read alike. -/
theorem Rephrased.alike (rephrased : Rephrased parts parts') : Alike (readSegments parts) (readSegments parts') := by
  induction rephrased with
  | refl => exact .refl _
  | step _ replaces ih => exact ih.trans (replaces.alike.within _ _)

/-! ### Connection strings -/

theorem Replaces.plain {old new : List String} (replaces : Replaces old new)
    (plain : ∀ segment ∈ old, ';' ∉ segment.toList) : ∀ segment ∈ new, ';' ∉ segment.toList := by
  have free {s : String} (blank : isBlankText s = true) : ';' ∉ s.toList :=
    fun there => absurd (isBlank_of_isBlankText blank _ there) (by decide)
  cases replaces with
  | reordered same apart => exact fun segment member => plain segment (same.mem_iff.mpr member)
  | blank blank => simpa using free blank
  | unknown _ _ free => simpa using free
  | padded segment before behind => simpa [free before, free behind] using plain
  | spaced _ v before behind before' behind' =>
    simpa [free before, free behind, free before', free behind'] using plain

theorem Replaces.there {old new : List String} (replaces : Replaces old new) (there : old ≠ []) : new ≠ [] := by
  cases replaces with
  | reordered same apart => exact fun nothing => there (List.perm_nil.mp (nothing ▸ same))
  | _ => simp

/-- Segments that are written in another way are segments again. -/
theorem Rephrased.hasSegments (rephrased : Rephrased parts parts') (split : HasSegments s parts) :
    HasSegments (";".intercalate parts') parts' := by
  induction rephrased with
  | refl => exact ⟨rfl, split.there, split.plain⟩
  | @step before after old new _ replaces ih =>
    have plain := ih.plain
    simp only [List.forall_mem_append] at plain
    refine ⟨rfl, ?_, ?_⟩
    · have there := ih.there
      have replaced : old ≠ [] → new ≠ [] := replaces.there
      simp only [ne_eq, List.append_eq_nil_iff] at there replaced ⊢
      tauto
    · simp only [List.forall_mem_append]
      exact ⟨⟨plain.1.1, replaces.plain plain.1.2⟩, plain.2⟩

/-- How a text of these segments is read as a connection string. -/
structure ReadsExactly (s : String) (parts : List String) : Prop where
  /-- It is accepted if all its segments are settings and the last one for each key gives it a value. -/
  accepted_iff : (∃ c, ConnectionString.ofText s = .ok c) ↔
    AllSettings parts ∧ ∀ key ∈ knownKeys, ∃ value, LastGives parts key value
  /-- The values are those of the last segments for the keys. -/
  ok_iff : ∀ c, ConnectionString.ofText s = .ok c ↔ Say parts c
  /-- Whatever is read of it, the same is read of the segments when they are written in another way. -/
  rephrased : ∀ parts', Rephrased parts parts' →
    ConnectionString.ofText (";".intercalate parts') = ConnectionString.ofText s

/-- Every text is read by its segments. -/
theorem readsExactly (s : String) :
    ∃ parts, HasSegments s parts ∧ (∀ other, HasSegments s other → other = parts) ∧ ReadsExactly s parts := by
  obtain ⟨parts, split, unique⟩ := exists_segments s
  refine ⟨parts, split, unique, ?_, fun c => split.ofText_eq_ok, fun parts' rephrased => ?_⟩
  · simp only [split.ofText_eq_ok]
    constructor
    · rintro ⟨c, say⟩
      refine ⟨say.settings, ?_⟩
      simp only [knownKeys, List.forall_mem_cons]
      exact ⟨⟨_, say.hostName⟩, ⟨_, say.keyName⟩, ⟨_, say.key⟩, by simp⟩
    · rintro ⟨all, given⟩
      simp only [knownKeys, List.forall_mem_cons] at given
      obtain ⟨⟨hostName, last⟩, ⟨keyName, last'⟩, ⟨key, last''⟩, -⟩ := given
      exact ⟨⟨hostName, keyName, key⟩, all, last, last', last''⟩
  · rw [(rephrased.hasSegments split).ofText, split.ofText, rephrased.alike.ofSettings]

example : ofText " HostName = h;;HostName=hub ; x=1;SharedAccessKeyName=n;SharedAccessKey=a2V5==" =
    .ok ⟨"hub", "n", "a2V5=="⟩ := by
  rfl

end DeviceTwin.Registry.ConnectionString
