import AlertContacts.Json.Record

/-!
# Decoding step by step

What it takes that something decodes. A list decodes when each of its items does, and the first item that
does not is the one that is reported (`mapM_eq_error_iff`). An object decodes as a record when each of its
entries that names a field has a value that the field takes, and the record can be made of what is found
under the names of its fields (`Json.Record.decoder_object_iff`). An object is visited before it is taken
apart, and the visit refuses nothing that could be made (`Json.Record.Coherent`).
-/

namespace AlertContacts

variable {ε ε' α β : Type}

theorem bind_eq_ok_iff {first : Except ε α} {next : α → Except ε β} {result : β} :
    first >>= next = .ok result ↔ ∃ value, first = .ok value ∧ next value = .ok result := by
  cases first with
  | error error => simp [bind, Except.bind]
  | ok value => simp [bind, Except.bind]

theorem unit_bind_eq_ok_iff {first : Except ε Unit} {next : Unit → Except ε β} {result : β} :
    first >>= next = .ok result ↔ first = .ok () ∧ next () = .ok result := by
  rw [bind_eq_ok_iff]
  constructor
  · rintro ⟨_, succeeds, continues⟩
    exact ⟨succeeds, continues⟩
  · rintro ⟨succeeds, continues⟩
    exact ⟨(), succeeds, continues⟩

theorem mapError_eq_ok_iff {outcome : Except ε α} {change : ε → ε'} {result : α} :
    outcome.mapError change = .ok result ↔ outcome = .ok result := by
  cases outcome with
  | error error => exact ⟨by rintro ⟨⟩, by rintro ⟨⟩⟩
  | ok value =>
      constructor
      · rintro ⟨rfl⟩
        rfl
      · rintro ⟨rfl⟩
        rfl

theorem mapError_eq_error_iff {outcome : Except ε α} {change : ε → ε'} {error : ε'} :
    outcome.mapError change = .error error ↔
      ∃ reason, outcome = .error reason ∧ change reason = error := by
  cases outcome with
  | error reason =>
      constructor
      · rintro ⟨rfl⟩
        exact ⟨reason, rfl, rfl⟩
      · rintro ⟨_, ⟨rfl⟩, rfl⟩
        rfl
  | ok value =>
      constructor
      · rintro ⟨⟩
      · rintro ⟨_, ⟨⟩, -⟩

/-! ### Lists -/

section mapM

variable {function : α → Except ε β} {inputs : List α} {results : List β}

theorem mapM_cons_eq_ok_iff {input : α} :
    (input :: inputs).mapM function = .ok results ↔
      ∃ first others, function input = .ok first ∧ inputs.mapM function = .ok others ∧
        first :: others = results := by
  simp only [List.mapM_cons, bind_eq_ok_iff, pure, Except.pure, Except.ok.injEq]
  constructor
  · rintro ⟨first, made, others, othersMade, rfl⟩
    exact ⟨first, others, made, othersMade, rfl⟩
  · rintro ⟨first, others, made, othersMade, rfl⟩
    exact ⟨first, made, others, othersMade, rfl⟩

/-- A list is read as a whole exactly if each of its items is read. -/
theorem exists_mapM_iff :
    (∃ results, inputs.mapM function = .ok results) ↔
      ∀ input ∈ inputs, ∃ result, function input = .ok result := by
  induction inputs with
  | nil => exact ⟨fun _ => List.forall_mem_nil _, fun _ => ⟨[], rfl⟩⟩
  | cons input rest ih =>
      rw [List.forall_mem_cons, ← ih]
      constructor
      · rintro ⟨results, succeeds⟩
        rcases mapM_cons_eq_ok_iff.1 succeeds with ⟨first, others, made, othersMade, -⟩
        exact ⟨⟨first, made⟩, others, othersMade⟩
      · rintro ⟨⟨first, made⟩, others, othersMade⟩
        exact ⟨first :: others, mapM_cons_eq_ok_iff.2 ⟨first, others, made, othersMade, rfl⟩⟩

/-- Every result comes from an item of the list. -/
theorem exists_input_of_mapM (succeeds : inputs.mapM function = .ok results) :
    ∀ result ∈ results, ∃ input ∈ inputs, function input = .ok result := by
  induction inputs generalizing results with
  | nil =>
      cases succeeds
      exact List.forall_mem_nil _
  | cons input rest ih =>
      rcases mapM_cons_eq_ok_iff.1 succeeds with ⟨first, others, made, othersMade, rfl⟩
      refine List.forall_mem_cons.2 ⟨⟨input, List.mem_cons_self .., made⟩, ?_⟩
      intro result member
      rcases ih othersMade result member with ⟨other, mentioned, otherMade⟩
      exact ⟨other, List.mem_cons_of_mem _ mentioned, otherMade⟩

/-- Every item of a list that is read has its result. -/
theorem exists_result_of_mapM (succeeds : inputs.mapM function = .ok results) :
    ∀ input ∈ inputs, ∃ result ∈ results, function input = .ok result := by
  induction inputs generalizing results with
  | nil => exact List.forall_mem_nil _
  | cons input rest ih =>
      rcases mapM_cons_eq_ok_iff.1 succeeds with ⟨first, others, made, othersMade, rfl⟩
      refine List.forall_mem_cons.2 ⟨⟨first, List.mem_cons_self .., made⟩, ?_⟩
      intro other member
      rcases ih othersMade other member with ⟨result, mentioned, otherMade⟩
      exact ⟨result, List.mem_cons_of_mem _ mentioned, otherMade⟩

/-- The first input that fails ends the whole. -/
theorem mapM_eq_error_iff {error : ε} :
    inputs.mapM function = .error error ↔
      ∃ before input after, inputs = before ++ input :: after ∧
        (∀ earlier ∈ before, ∃ result, function earlier = .ok result) ∧
          function input = .error error := by
  induction inputs with
  | nil => simp [pure, Except.pure]
  | cons first rest ih =>
      rw [List.mapM_cons]
      cases made : function first with
      | error other =>
          constructor
          · rintro ⟨rfl⟩
            exact ⟨[], first, rest, rfl, by simp, made⟩
          · rintro ⟨_ | ⟨earlier, before⟩, input, after, parts, earlierMade, fails⟩
            · cases parts
              cases made.symm.trans fails
              rfl
            · cases parts
              rcases earlierMade first (List.mem_cons_self ..) with ⟨result, succeeds⟩
              cases made.symm.trans succeeds
      | ok result =>
          have rests : (Except.ok result >>= fun made => rest.mapM function >>= fun others =>
              pure (made :: others)) = .error error ↔ rest.mapM function = .error error := by
            cases rest.mapM function with
            | error other => simp [bind, Except.bind]
            | ok others => simp [bind, Except.bind, pure, Except.pure]
          rw [rests, ih]
          constructor
          · rintro ⟨before, input, after, rfl, earlierMade, fails⟩
            refine ⟨first :: before, input, after, rfl, ?_, fails⟩
            exact List.forall_mem_cons.2 ⟨⟨result, made⟩, earlierMade⟩
          · rintro ⟨_ | ⟨earlier, before⟩, input, after, parts, earlierMade, fails⟩
            · cases parts
              cases made.symm.trans fails
            · cases parts
              exact ⟨before, input, after, rfl, (List.forall_mem_cons.1 earlierMade).2, fails⟩

end mapM

namespace Json

/-- A list is read item by item, so what holds of the items holds of the list. -/
theorem Decoder.list_map {decode : Decoder α} {encode : β → Value} {image : β → α}
    (reads : ∀ item, decode (encode item) = .ok (image item)) (items : List β) :
    list decode (.array (items.map encode)) = .ok (items.map image) := by
  have composed : decode ∘ encode = fun item => pure (image item) := funext reads
  rw [list, List.mapM_map, composed, List.mapM_pure]
  rfl

/-- A map is read value by value under the same names. -/
theorem Decoder.map_map {decode : Decoder α} {encode : α → Value}
    (reads : ∀ item, decode (encode item) = .ok item) (entries : Entries α) :
    map decode (.object (entries.map fun entry => (entry.1, encode entry.2))) = .ok entries := by
  have composed : ((fun entry : String × Value => (decode entry.2).map (entry.1, ·)) ∘
      fun entry : String × α => (entry.1, encode entry.2)) = pure := by
    funext entry
    simp only [Function.comp_apply, reads]
    rfl
  rw [map, List.mapM_map, composed, List.mapM_pure, List.map_id']
  rfl

/-! ### Records -/

namespace Record

variable {fields : List Field} {entries : Entries Value}

/-- An object decodes as a record if the visit refuses no entry and the fields are found. -/
theorem decoder_object_iff {record : Record α} {name : String} {result : α} :
    record.decoder name (.object entries) = .ok result ↔
      visit record.fields false entries = .ok () ∧ record.ofEntries entries = .ok result :=
  unit_bind_eq_ok_iff

/-- A visit refuses nothing exactly if every entry that names a field has a value that the field takes. -/
theorem visit_eq_ok_iff :
    visit fields false entries = .ok () ↔
      ∀ entry ∈ entries, ∀ field ∈ fields.find? (·.name = entry.1), field.check entry.2 = .ok () := by
  induction entries with
  | nil => simp [visit]
  | cons entry rest ih =>
      rcases entry with ⟨key, value⟩
      rw [List.forall_mem_cons, ← ih, visit]
      cases found : fields.find? (·.name = key) with
      | none => simp
      | some field => simp [unit_bind_eq_ok_iff]

/-- An entry more that its field takes is no reason to refuse. -/
theorem visit_insert (visited : visit fields false entries = .ok ())
    {key : String} {value : Value}
    (checked : ∀ field ∈ fields.find? (·.name = key), field.check value = .ok ()) :
    visit fields false (entries.insert key value) = .ok () := by
  rw [visit_eq_ok_iff] at visited ⊢
  intro entry member
  rcases Entries.mem_insert member with rfl | member
  · exact checked
  · exact visited entry member

theorem ofEntries_done (result : α) : (done result).ofEntries entries = .ok result := rfl

theorem ofEntries_and {first : Record (α → β)} {second : Record α} {result : β} :
    (first.and second).ofEntries entries = .ok result ↔
      ∃ function argument, first.ofEntries entries = .ok function ∧
        second.ofEntries entries = .ok argument ∧ function argument = result := by
  change (first.ofEntries entries >>= fun function =>
    second.ofEntries entries >>= fun argument => pure (function argument)) = _ ↔ _
  simp only [bind_eq_ok_iff, pure, Except.pure, Except.ok.injEq, ← exists_and_left]

/-- A required field is found if it is there and decodes. -/
theorem ofEntries_required {name : String} {decode : Decoder α} {result : α} :
    (required name decode).ofEntries entries = .ok result ↔
      ∃ value, entries.find? name = some value ∧ decode value = .ok result := by
  cases found : entries.find? name with
  | none => simp [required, field, found]
  | some value => simp [required, field, found]

/-- An optional field that is not there is none, and otherwise it has to decode. -/
theorem ofEntries_optional {name : String} {decode : Decoder α} :
    (optional name decode).ofEntries entries =
      (entries.find? name).elim (.ok none) (Decoder.optional decode) := by
  cases found : entries.find? name with
  | none => simp [optional, field, found]
  | some value => simp [optional, field, found]

/-- A field with a default has it where it is not there, but not where it is null. -/
theorem ofEntries_withDefault {name : String} {decode : Decoder α} {default : α} :
    (withDefault name decode default).ofEntries entries =
      (entries.find? name).elim (.ok default) decode := by
  cases found : entries.find? name with
  | none => simp [withDefault, field, found]
  | some value => simp [withDefault, field, found]

/-! ### Fields by position -/

section ofItems

variable {tooShort : Nat → DecodeError} {index : Nat} {items rest : List Value}

/-- An array decodes as a record if its items are those of the fields, by position, and none is left. -/
theorem decoder_array_iff {record : Record α} {name : String} {result : α} :
    record.decoder name (.array items) = .ok result ↔
      record.ofItems (.invalidLength · (.recordItems name record.fields.length)) 0 items =
        .ok (result, []) := by
  change (record.ofItems _ 0 items >>= fun made => if made.2.isEmpty then _ else _) = _ ↔ _
  rw [bind_eq_ok_iff]
  constructor
  · rintro ⟨⟨made, left⟩, taken, ends⟩
    cases left with
    | nil =>
        cases ends
        exact taken
    | cons item left => cases ends
  · intro taken
    exact ⟨(result, []), taken, rfl⟩

theorem ofItems_done {made result : α} :
    (done made).ofItems tooShort index items = .ok (result, rest) ↔
      made = result ∧ items = rest := by
  simp [done]

/-- Two parts of a record take their items one behind the other. -/
theorem ofItems_and {first : Record (α → β)} {second : Record α} {result : β} :
    (first.and second).ofItems tooShort index items = .ok (result, rest) ↔
      ∃ function middle argument, first.ofItems tooShort index items = .ok (function, middle) ∧
        second.ofItems tooShort (index + first.fields.length) middle = .ok (argument, rest) ∧
          function argument = result := by
  change (first.ofItems tooShort index items >>= fun taken =>
    second.ofItems tooShort _ taken.2 >>= fun taken' => pure (taken.1 taken'.1, taken'.2)) = _ ↔ _
  simp only [bind_eq_ok_iff, pure, Except.pure, Except.ok.injEq, Prod.exists, Prod.mk.injEq]
  constructor
  · rintro ⟨function, middle, taken, argument, _, argumentTaken, rfl, rfl⟩
    exact ⟨function, middle, argument, taken, argumentTaken, rfl⟩
  · rintro ⟨function, middle, argument, taken, argumentTaken, rfl⟩
    exact ⟨function, middle, taken, argument, rest, argumentTaken, rfl, rfl⟩

theorem map_item_eq_ok_iff {decode : Decoder α} {item : Value} {result : α} :
    (decode item).map (·, items) = .ok (result, rest) ↔
      ∃ taken, item :: items = taken :: rest ∧ decode taken = .ok result := by
  simp only [List.cons.injEq, and_assoc, exists_eq_left']
  cases decode item with
  | error error => simp [Except.map]
  | ok made => simp [Except.map, and_comm]

theorem ofItems_required {name : String} {decode : Decoder α} {result : α} :
    (required name decode).ofItems tooShort index items = .ok (result, rest) ↔
      ∃ item, items = item :: rest ∧ decode item = .ok result := by
  cases items with
  | nil => simp [required, field]
  | cons item others => exact map_item_eq_ok_iff

/-- A field with a default takes the next item, or its default where no item is left. -/
theorem ofItems_withDefault {name : String} {decode : Decoder α} {default result : α} :
    (withDefault name decode default).ofItems tooShort index items = .ok (result, rest) ↔
      items = [] ∧ rest = [] ∧ result = default ∨
        ∃ item, items = item :: rest ∧ decode item = .ok result := by
  cases items with
  | nil => simp [withDefault, field, eq_comm, and_comm]
  | cons item others =>
      refine map_item_eq_ok_iff.trans ?_
      simp only [reduceCtorEq, false_and, false_or]

end ofItems

/-! ### Fields checked twice -/

/--
The entries that a record is made from pass the checks of its fields. Then the visit refuses nothing that
could be made.
-/
def Coherent (record : Record α) : Prop :=
  ∀ entries result, record.ofEntries entries = .ok result →
    ∀ field ∈ record.fields, ∀ value ∈ entries.find? field.name, field.check value = .ok ()

theorem Coherent.done (result : α) : (Record.done result).Coherent := by
  intro entries result made field member
  cases member

/-- A single field checks what it is made from. -/
theorem Coherent.field {name : String} {decode : Decoder α} {absent unfilled : Option α} :
    (Record.field name decode absent unfilled).Coherent := by
  intro entries result made field member value found
  rw [List.mem_singleton.1 member] at found ⊢
  have present : entries.find? name = some value := found
  have decodes : decode value = .ok result := by
    simpa only [Record.field, present] using made
  simp only [decodes, Except.map]

theorem Coherent.and {first : Record (α → β)} {second : Record α} (coherent : first.Coherent)
    (others : second.Coherent) : (first.and second).Coherent := by
  intro entries result made field member
  rcases ofEntries_and.1 made with ⟨function, argument, firstMade, secondMade, rfl⟩
  rcases List.mem_append.1 member with inFirst | inSecond
  · exact coherent entries function firstMade field inFirst
  · exact others entries argument secondMade field inSecond

/-- For an ascending object it is enough that the record can be made of what is found. -/
theorem Coherent.decoder_iff {record : Record α} (coherent : record.Coherent) {name : String}
    {result : α} (ascending : entries.Ascending) :
    record.decoder name (.object entries) = .ok result ↔ record.ofEntries entries = .ok result := by
  rw [decoder_object_iff, and_iff_right_iff_imp, visit_eq_ok_iff]
  rintro made ⟨key, value⟩ member field declared
  have named : field.name = key := by simpa using List.find?_some declared
  apply coherent entries result made field (List.mem_of_find?_eq_some declared)
  rw [named]
  exact Entries.find?_of_mem ascending member

end Record

end Json

end AlertContacts
