import DeviceTwin.Proofs.Json.Shape

/-!
The parts of arrays and objects. If a reader makes of the text of every item or field what its schema says
(`ReadsAs`), then the items of an array, the fields of an object and those of a record are read as their schema says
too. A field that a record does not declare is passed over.
-/
namespace DeviceTwin.Json
open DeviceTwin.Text

/-! ### Readers -/

/-- A reader makes of the text of a document what `convert` makes of the document, and goes no further. -/
def ReadsAs (read : List Char → Read Json) (convert : Json → Option Json) (j : Json) : Prop :=
  ∀ rest, Delimited rest → (read (j.write ++ rest)).toOption = (convert j).map fun value => (value, rest)

theorem toOption_ok {α : Type} (a : α) : (Except.ok a : Except ReadError α).toOption = some a := rfl

theorem toOption_error {α : Type} (e : ReadError) : (Except.error e : Except ReadError α).toOption = none := rfl

theorem toOption_bind {α β : Type} (r : Except ReadError α) (next : α → Except ReadError β) :
    (r >>= next).toOption = r.toOption.bind fun a => (next a).toOption := by
  cases r <;> rfl

section Parts
variable {read : List Char → Read Json} {convert : Json → Option Json} {value : Schema → List Char → Read Json}
  {declared : List (Field Schema)} {items : List Json} {fields seen : Fields} {rest text cs : List Char}
  {fuel : Nat} {first : Bool}

/-! #### Items -/

theorem toOption_readItems (next : nextItem first text = .ok (true, cs)) :
    (readItems read (fuel + 1) first text).toOption =
      (read cs).toOption.bind fun r => (readItems read fuel false r.2).toOption.map fun s => (r.1 :: s.1, s.2) := by
  rw [readItems]
  simp only [next, toOption_bind, toOption_ok, Option.bind_some, if_true, Option.map_eq_bind]
  rfl

/-- The items of an array are read one by one, and all of them if each one is. -/
theorem readItems_as (reads : ∀ j ∈ items, ReadsAs read convert j) (begins : ∀ j ∈ items, Begins j.write)
    (enough : items.length < fuel) (first : Bool) (rest : List Char) :
    (readItems read fuel first (itemsFrom first items ++ ']' :: rest)).toOption =
      (items.mapM convert).map fun values => (values, rest) := by
  induction items generalizing fuel first with
  | nil =>
    cases fuel with
    | zero => cases enough
    | succ fuel =>
      simp only [readItems, nextItem_end]
      rfl
  | cons j items ih =>
    cases fuel with
    | zero => cases enough
    | succ fuel =>
      rw [List.forall_mem_cons] at reads begins
      rw [itemsFrom_cons, List.append_assoc, List.append_assoc,
        toOption_readItems (nextItem_begins first (begins.1.append _)),
        reads.1 _ (delimited_itemsFrom items rest), List.mapM_cons]
      cases convert j with
      | none => rfl
      | some value =>
        simp only [Option.map_some, Option.bind_some, ih reads.2 begins.2 (Nat.lt_of_succ_lt_succ enough)]
        cases items.mapM convert <;> rfl

/-! #### Items as the fields of a record -/

theorem toOption_untoldFields (name : String) (count index : Nat) (declared : List (Field Schema)) :
    (untoldFields name count index declared).toOption = Schema.tupleOf? declared [] := by
  induction declared generalizing index with
  | nil => rfl
  | cons f declared ih =>
    rw [Schema.tupleOf?_nil, untoldFields, Field.untold?]
    cases f.absence with
    | required => rfl
    | nullable => rfl
    | omitted =>
      simp only [ih, Option.bind_some, List.nil_append]
      cases Schema.tupleOf? declared [] <;> rfl
    | default j =>
      simp only [← ih (index + 1), Option.bind_some, bind, Except.bind]
      cases untoldFields name count (index + 1) declared <;> rfl

theorem toOption_readTuple {name : String} {count index : Nat} {f : Field Schema}
    (next : nextItem (index == 0) text = .ok (true, cs)) :
    (readTuple value name count index (f :: declared) text).toOption =
      (value f.schema cs).toOption.bind fun r =>
        (readTuple value name count (index + 1) declared r.2).toOption.map fun s => (f.entry r.1 ++ s.1, s.2) := by
  rw [readTuple]
  simp only [next, toOption_bind, toOption_ok, Option.bind_some, if_true, Option.map_eq_bind]
  rfl

theorem toOption_readTuple_end {name : String} {count index : Nat} {f : Field Schema}
    (next : nextItem (index == 0) text = .ok (false, cs)) :
    (readTuple value name count index (f :: declared) text).toOption =
      (Schema.tupleOf? (f :: declared) []).map fun fields => (fields, cs) := by
  rw [← toOption_untoldFields name count index, readTuple]
  simp only [next, toOption_bind, toOption_ok, Option.bind_some, Bool.false_eq_true, if_false, Option.map_eq_bind]
  rfl

/-- An array does not end where an item begins, or the comma before one. -/
theorem endArray_of_begins (begins : Begins cs) : ∃ e, endArray cs = .error e := by
  have skips := skipSpace_of_begins begins
  obtain ⟨c, tail, rfl, _, bracket⟩ := begins
  rw [endArray, skips]
  split
  · exact ⟨_, rfl⟩
  · rename_i same
    exact absurd (List.cons.inj same).1 bracket
  · split <;> exact ⟨_, rfl⟩
  · exact ⟨_, rfl⟩

/-- A reader of values makes of a document, by the schema of every field, what the schema says. -/
def ReadsAll (value : Schema → List Char → Read Json) (declared : List (Field Schema)) (j : Json) : Prop :=
  ∀ f ∈ declared, ReadsAs (value f.schema) f.schema.ofDocument? j

/-- The items of an array are read as the fields of a record in the declared order. -/
theorem readTuple_as (reads : ∀ j ∈ items, ReadsAll value declared j) (begins : ∀ j ∈ items, Begins j.write)
    (name : String) (count index : Nat) (rest : List Char) :
    (readTuple value name count index declared (itemsFrom (index == 0) items ++ ']' :: rest)).toOption =
      (Schema.tupleOf? declared items).map fun fields => (fields, rest) := by
  induction declared generalizing items index with
  | nil =>
    cases items with
    | nil => cases index <;> rfl
    | cons j items =>
      have here := (begins j List.mem_cons_self).append (itemsFrom false items ++ ']' :: rest)
      obtain ⟨e, refused⟩ := endArray_of_begins (begins_comma (index == 0) here)
      rw [itemsFrom_cons, List.append_assoc, List.append_assoc, readTuple, refused]
      rfl
  | cons f declared ih =>
    cases items with
    | nil => exact toOption_readTuple_end (nextItem_end _ rest)
    | cons j items =>
      rw [List.forall_mem_cons] at reads begins
      have others : ∀ j ∈ items, ReadsAll value declared j :=
        fun j member g declares => reads.2 j member g (List.mem_cons_of_mem f declares)
      have later : (readTuple value name count (index + 1) declared (itemsFrom false items ++ ']' :: rest)).toOption =
          (Schema.tupleOf? declared items).map fun fields => (fields, rest) := ih others begins.2 (index + 1)
      rw [itemsFrom_cons, List.append_assoc, List.append_assoc,
        toOption_readTuple (nextItem_begins _ (begins.1.append _)),
        reads.1 f List.mem_cons_self _ (delimited_itemsFrom items rest), Schema.tupleOf?_cons]
      cases f.schema.ofDocument? j with
      | none => rfl
      | some x =>
        simp only [Option.map_some, Option.bind_some, later]
        cases Schema.tupleOf? declared items <;> rfl

/-! #### Fields -/

theorem toOption_readEntries (f : String × Json) (cs : List Char) :
    (readEntries read (fuel + 1) first seen (comma first ++ (writeField f ++ cs))).toOption =
      (read (f.2.write ++ cs)).toOption.bind fun r =>
        (readEntries read fuel false (Assoc.insert f.1 r.1 seen) r.2).toOption := by
  rw [readEntries]
  simp only [nextKey_field, readText_write, String.ofList_toList, readColon_colon, toOption_bind, toOption_ok,
    Option.bind_some, if_true]

/-- The fields of an object are read one by one, and all of them if each one is. -/
theorem readEntries_as (reads : ∀ f ∈ fields, ReadsAs read convert f.2) (distinct : (Assoc.keys fields).Nodup)
    (new : ∀ k ∈ Assoc.keys fields, k ∉ Assoc.keys seen) (enough : fields.length < fuel) (first : Bool)
    (rest : List Char) :
    (readEntries read fuel first seen (fieldsFrom first fields ++ '\x7d' :: rest)).toOption =
      (fields.mapM fun f => (convert f.2).map (f.1, ·)).map fun values => (seen ++ values, rest) := by
  induction fields generalizing fuel first seen with
  | nil =>
    cases fuel with
    | zero => cases enough
    | succ fuel =>
      simp only [readEntries, nextKey_end]
      simp [bind, Except.bind, pure, Except.pure, Except.toOption]
  | cons f fields ih =>
    cases fuel with
    | zero => cases enough
    | succ fuel =>
      simp only [Assoc.keys, List.map_cons, List.nodup_cons, List.forall_mem_cons] at reads distinct new
      rw [fieldsFrom_cons, List.append_assoc, List.append_assoc, toOption_readEntries,
        reads.1 _ (delimited_fieldsFrom fields rest), List.mapM_cons]
      cases convert f.2 with
      | none => rfl
      | some x =>
        have later := Assoc.new_concat distinct.1 new.2 x
        simp only [Option.map_some, Option.bind_some, Assoc.insert_new new.1,
          ih reads.2 distinct.2 later (Nat.lt_of_succ_lt_succ enough)]
        cases fields.mapM fun f => (convert f.2).map (f.1, ·) <;> simp

/-! #### Fields of a record -/

/-- The fields of an object that a record declares, each with its value, if all of them have one. -/
def knownFields? (declared : List (Field Schema)) : Fields → Option Fields
  | [] => some []
  | (key, j) :: fields =>
    match findField key declared with
    | some f => (f.schema.ofDocument? j).bind fun value => (knownFields? declared fields).map ((key, value) :: ·)
    | none => knownFields? declared fields

theorem findField_eq_some {key : String} {f : Field Schema} (found : findField key declared = some f) :
    f ∈ declared ∧ f.key = key := by
  induction declared with
  | nil => cases found
  | cons g declared ih =>
    rw [findField] at found
    split at found
    · rename_i same
      cases found
      exact ⟨List.mem_cons_self, same⟩
    · exact ⟨List.mem_cons_of_mem g (ih found).1, (ih found).2⟩

theorem toOption_readKnown {f : String × Json} (reads : ReadsAll value declared f.2)
    (skips : skipValue (f.2.write ++ cs) = .ok cs) (new : f.1 ∉ Assoc.keys seen) (delimited : Delimited cs) :
    (readKnown value declared (fuel + 1) first seen (comma first ++ (writeField f ++ cs))).toOption =
      match findField f.1 declared with
      | some g => (g.schema.ofDocument? f.2).bind fun x =>
          (readKnown value declared fuel false (seen ++ [(f.1, x)]) cs).toOption
      | none => (readKnown value declared fuel false seen cs).toOption := by
  rw [readKnown]
  simp only [nextKey_field, readText_write, String.ofList_toList, toOption_bind, toOption_ok, Option.bind_some,
    if_true]
  cases found : findField f.1 declared with
  | none => simp only [readColon_colon, skips, toOption_bind, toOption_ok, Option.bind_some]
  | some g =>
    simp only [Assoc.find?_eq_none new, Option.isSome_none, Bool.false_eq_true, if_false, readColon_colon,
      toOption_bind, toOption_ok, Option.bind_some, reads g (findField_eq_some found).1 cs delimited]
    cases g.schema.ofDocument? f.2 <;> rfl

/-- The fields that a record declares are read one by one, and the others are passed over. -/
theorem readKnown_as (reads : ∀ f ∈ fields, ReadsAll value declared f.2)
    (skips : ∀ f ∈ fields, ∀ cs, Delimited cs → skipValue (f.2.write ++ cs) = .ok cs)
    (distinct : (Assoc.keys fields).Nodup) (new : ∀ k ∈ Assoc.keys fields, k ∉ Assoc.keys seen)
    (enough : fields.length < fuel) (first : Bool) (rest : List Char) :
    (readKnown value declared fuel first seen (fieldsFrom first fields ++ '\x7d' :: rest)).toOption =
      (knownFields? declared fields).map fun known => (seen ++ known, rest) := by
  induction fields generalizing fuel first seen with
  | nil =>
    cases fuel with
    | zero => cases enough
    | succ fuel =>
      simp only [readKnown, nextKey_end]
      simp [bind, Except.bind, pure, Except.pure, Except.toOption, knownFields?]
  | cons f fields ih =>
    cases fuel with
    | zero => cases enough
    | succ fuel =>
      obtain ⟨key, j⟩ := f
      simp only [Assoc.keys, List.map_cons, List.nodup_cons, List.forall_mem_cons] at reads skips distinct new
      have delimited := delimited_fieldsFrom fields rest
      rw [fieldsFrom_cons, List.append_assoc, List.append_assoc,
        toOption_readKnown reads.1 (skips.1 _ delimited) new.1 delimited, knownFields?]
      cases findField key declared with
      | none => exact ih reads.2 skips.2 distinct.2 new.2 (Nat.lt_of_succ_lt_succ enough) false
      | some g =>
        simp only
        cases g.schema.ofDocument? j with
        | none => rfl
        | some x =>
          have later := Assoc.new_concat distinct.1 new.2 x
          simp only [Option.bind_some, ih reads.2 skips.2 distinct.2 later (Nat.lt_of_succ_lt_succ enough)]
          cases knownFields? declared fields <;> simp

/-- The fields of a record that are read have the values of the fields of the object. -/
theorem find?_knownFields {f : Field Schema} {known : Fields} (all : knownFields? declared fields = some known)
    (found : findField f.key declared = some f) :
    (Assoc.find? f.key fields).map f.schema.ofDocument? = (Assoc.find? f.key known).map some := by
  induction fields generalizing known with
  | nil =>
    cases all
    rfl
  | cons e fields ih =>
    obtain ⟨key, j⟩ := e
    rw [knownFields?] at all
    by_cases same : key = f.key
    · subst same
      simp only [found, Option.bind_eq_some_iff, Option.map_eq_some_iff] at all
      obtain ⟨x, converted, more, _, rfl⟩ := all
      simp [Assoc.find?, converted]
    · cases other : findField key declared with
      | none =>
        simp only [other] at all
        simpa [Assoc.find?, same] using ih all
      | some g =>
        simp only [other, Option.bind_eq_some_iff, Option.map_eq_some_iff] at all
        obtain ⟨x, _, more, all, rfl⟩ := all
        simpa [Assoc.find?, same] using ih all

theorem exists_of_knownFields (refused : knownFields? declared fields = none) :
    ∃ f ∈ declared, ∃ j, (f.key, j) ∈ fields ∧ f.schema.ofDocument? j = none := by
  induction fields with
  | nil => cases refused
  | cons e fields ih =>
    obtain ⟨key, j⟩ := e
    have later (refused : knownFields? declared fields = none) :
        ∃ f ∈ declared, ∃ k, (f.key, k) ∈ (key, j) :: fields ∧ f.schema.ofDocument? k = none := by
      obtain ⟨f, declares, k, member, none⟩ := ih refused
      exact ⟨f, declares, k, List.mem_cons_of_mem _ member, none⟩
    rw [knownFields?] at refused
    cases found : findField key declared with
    | none =>
      simp only [found] at refused
      exact later refused
    | some f =>
      obtain ⟨declares, rfl⟩ := findField_eq_some found
      simp only [found] at refused
      cases converted : f.schema.ofDocument? j with
      | none => exact ⟨f, declares, j, List.mem_cons_self, converted⟩
      | some x =>
        simp only [converted, Option.bind_some, Option.map_eq_none_iff] at refused
        exact later refused

/-- A record is made of what is read of its fields. -/
theorem toOption_assemble {known : Fields} (values : ∀ f ∈ declared,
      (Assoc.find? f.key fields).map f.schema.ofDocument? = (Assoc.find? f.key known).map some) :
    (assemble known declared).toOption = Schema.recordOf? declared fields := by
  induction declared with
  | nil => rfl
  | cons f declared ih =>
    rw [List.forall_mem_cons] at values
    rw [Schema.recordOf?_cons, ← ih values.2, assemble, Field.entryIn?]
    cases found : Assoc.find? f.key fields with
    | some j =>
      have value := values.1
      cases read : Assoc.find? f.key known with
      | none =>
        rw [found, read] at value
        cases value
      | some x =>
        simp only [found, read, Option.map_some, Option.some.injEq] at value
        simp only [value, Option.map_some, Option.bind_some, bind, Except.bind, pure, Except.pure]
        cases assemble known declared <;> rfl
    | none =>
      have value := values.1
      cases read : Assoc.find? f.key known with
      | some x =>
        rw [found, read] at value
        cases value
      | none =>
        simp only [Field.absent?, bind, Except.bind, pure, Except.pure]
        cases f.absence with
        | required => rfl
        | _ => cases assemble known declared <;> rfl

/-- A record is read from an object field by field. -/
theorem readRecord_as (reads : ∀ f ∈ fields, ReadsAll value declared f.2)
    (skips : ∀ f ∈ fields, ∀ cs, Delimited cs → skipValue (f.2.write ++ cs) = .ok cs)
    (distinct : (Assoc.keys fields).Nodup) (once : (declared.map (·.key)).Nodup) (rest : List Char) :
    (readRecord (some value) declared (fieldsFrom true fields ++ '\x7d' :: rest)).toOption =
      (Schema.recordOf? declared fields).map fun values => (.obj values, rest) := by
  have enough := length_fieldsFrom_lt true fields rest
  have new : ∀ k ∈ Assoc.keys fields, k ∉ Assoc.keys ([] : Fields) := by simp [Assoc.keys]
  have reading := readKnown_as reads skips distinct new enough true rest
  rw [readRecord, inside]
  simp only [toOption_bind, reading, List.nil_append]
  cases all : knownFields? declared fields with
  | none =>
    obtain ⟨f, declares, j, member, refused⟩ := exists_of_knownFields all
    have none : f.entryIn? fields = none := by
      rw [Field.entryIn?, Assoc.find?_of_mem distinct member]
      simp [refused]
    rw [Schema.recordOf?_eq_none declares none]
    rfl
  | some known =>
    rw [← toOption_assemble fun f declares => find?_knownFields all (findField_of_mem once declares)]
    simp only [Option.bind_some, Option.map_eq_bind]
    rfl

end Parts

end DeviceTwin.Json
