import AlertContacts.Proofs.Identifier
import AlertContacts.Proofs.Record
import AlertContacts.Provider.State

/-!
# Attributes in a state

What a state decodes to, and how that changes when entries are put into it. An object decodes when
each of its entries that names an attribute has a value of the attribute's type, and the required
attributes are there (`decode_object_iff`). So an entry under another key does not matter
(`decode_insert_other`), and an entry under an attribute's own key changes that attribute alone
(`decode_insert_name`, `decode_writeInto`).

Decoding a state brings the name into normal form. Names that are in normal form already are those
that no SQL form can be read from, and those that have no blank at either end and do not begin with
a double quote (`normalName_eq_self_iff`).
-/

namespace AlertContacts

open Json

namespace ContactAttributes

structure FoundIn (attributes : ContactAttributes) (entries : Entries Value) : Prop where
  name : entries.find? "name" = some (.string attributes.name)
  email : entries.find? "email" = some (.string attributes.email)
  comment : (entries.find? "comment").elim (.ok none) (Decoder.optional Decoder.string) =
    .ok attributes.comment

theorem string_eq_ok_iff {value : Value} {text : String} :
    Decoder.string value = .ok text ↔ value = .string text := by
  cases value <;> simp [Decoder.string]

/-- An optional text reads null as none and a text as itself, and nothing else. -/
theorem optional_string_eq_ok_iff {value : Value} {text : Option String} :
    Decoder.optional Decoder.string value = .ok text ↔ value = .ofOptional text := by
  cases text with
  | none => cases value <;> simp [Decoder.optional, Decoder.string, Value.ofOptional, Except.map]
  | some written =>
      cases value <;> simp [Decoder.optional, Decoder.string, Value.ofOptional, Except.map]

/-- A text that may be missing, in an object in which it may be missing or null. -/
theorem optionalString_eq_ok_iff {found : Option Value} {text : Option String} :
    found.elim (.ok none) (Decoder.optional Decoder.string) = .ok text ↔
      (found = none ∨ found = some .null) ∧ text = none ∨
        ∃ written, found = some (.string written) ∧ text = some written := by
  rcases found with _ | value
  · simp [eq_comm]
  · cases value <;> simp [Decoder.optional, Decoder.string, Except.map, eq_comm]

/-- Attributes that are read from entries are those that stand there. -/
theorem ofEntries_eq_ok_iff {entries : Entries Value} {attributes : ContactAttributes} :
    record.ofEntries entries = .ok attributes ↔ attributes.FoundIn entries := by
  rcases attributes with ⟨name, email, comment⟩
  simp only [record, Record.ofEntries_and, Record.ofEntries_required, Record.ofEntries_withDefault,
    string_eq_ok_iff]
  constructor
  · rintro ⟨_, _, ⟨_, _, ⟨_, _, made, ⟨_, nameFound, rfl⟩, rfl⟩, ⟨_, emailFound, rfl⟩, rfl⟩,
      commentFound, equal⟩
    cases made
    cases equal
    exact ⟨nameFound, emailFound, commentFound⟩
  · rintro ⟨nameFound, emailFound, commentFound⟩
    exact ⟨_, _, ⟨_, _, ⟨_, _, rfl, ⟨_, nameFound, rfl⟩, rfl⟩, ⟨_, emailFound, rfl⟩, rfl⟩,
      commentFound, rfl⟩

/-- An object decodes to what is found in it if no entry of it has a value of another type. -/
theorem decode_object_iff {entries : Entries Value} {attributes : ContactAttributes} :
    decode (.object entries) = .ok attributes ↔
      Record.visit record.fields false entries = .ok () ∧ attributes.FoundIn entries := by
  rw [← ofEntries_eq_ok_iff]
  exact Record.decoder_object_iff

/-- A comment that is not null is the one of the attributes. -/
theorem FoundIn.find?_comment_iff {attributes : ContactAttributes} {entries : Entries Value}
    {value : Value} (found : attributes.FoundIn entries) :
    (entries.find? "comment" = some value ∧ value ≠ .null) ↔
      ∃ text, attributes.comment = some text ∧ value = .string text := by
  rcases optionalString_eq_ok_iff.1 found.comment with
    ⟨absent | null, without⟩ | ⟨text, written, given⟩
  · simp [absent, without]
  · simp [null, without, eq_comm]
  · rw [written, given]
    constructor
    · rintro ⟨⟨rfl⟩, -⟩
      exact ⟨text, rfl, rfl⟩
    · rintro ⟨_, ⟨rfl⟩, rfl⟩
      exact ⟨rfl, by rintro ⟨⟩⟩

/-! ### Entries put into a state -/

def keys : List String :=
  ["name", "email", "comment"]

theorem names_fields : record.fields.map Field.name = keys := rfl

theorem check_string (text : String) :
    ∀ field ∈ record.fields, field.check (.string text) = .ok () := by
  intro field member
  change field ∈ [_, _, _] at member
  simp only [List.mem_cons, List.not_mem_nil, or_false] at member
  rcases member with rfl | rfl | rfl
  · rfl
  · rfl
  · rfl

section insert

variable {entries : Entries Value} {attributes : ContactAttributes}

/-- Putting a text under any key keeps the entries well typed. -/
theorem visit_insert_string (visited : Record.visit record.fields false entries = .ok ())
    (key text : String) :
    Record.visit record.fields false (entries.insert key (.string text)) = .ok () := by
  apply Record.visit_insert visited
  intro field found
  exact check_string text field (List.mem_of_find?_eq_some found)

/-- An entry under a key that names no attribute does not matter to decoding. -/
theorem decode_insert_other (decodes : decode (.object entries) = .ok attributes) {key : String}
    (other : key ∉ keys) (value : Value) :
    decode (.object (entries.insert key value)) = .ok attributes := by
  rw [decode_object_iff] at decodes ⊢
  rcases decodes with ⟨visited, found⟩
  refine ⟨Record.visit_insert visited ?_, ?_⟩
  · intro field named
    have member := List.mem_map_of_mem (f := Field.name) (List.mem_of_find?_eq_some named)
    have same : field.name = key := by simpa using List.find?_some named
    rw [names_fields, same] at member
    exact absurd member other
  · simp only [keys, List.mem_cons, List.not_mem_nil, or_false, not_or] at other
    rcases other with ⟨notName, notEmail, notComment⟩
    constructor
    · rw [Entries.find?_insert, if_neg notName, found.name]
    · rw [Entries.find?_insert, if_neg notEmail, found.email]
    · rw [Entries.find?_insert, if_neg notComment, found.comment]

/-- A new name changes the name that is decoded, and nothing else. -/
theorem decode_insert_name (decodes : decode (.object entries) = .ok attributes) (name : String) :
    decode (.object (entries.insert "name" (.string name))) =
      .ok { attributes with name := name } := by
  rw [decode_object_iff] at decodes ⊢
  rcases decodes with ⟨visited, found⟩
  refine ⟨visit_insert_string visited "name" name, ?_⟩
  constructor
  · rw [Entries.find?_insert, if_pos rfl]
  · rw [Entries.find?_insert, if_neg (by decide), found.email]
  · rw [Entries.find?_insert, if_neg (by decide), found.comment]

/-- Writing attributes into an object leaves what is no attribute alone. -/
theorem find?_writeInto_of_not_mem {key : String} (other : key ∉ keys) :
    (attributes.writeInto entries).find? key = entries.find? key := by
  simp only [keys, List.mem_cons, List.not_mem_nil, or_false, not_or] at other
  rcases other with ⟨notName, notEmail, notComment⟩
  rw [writeInto, Entries.find?_insert, if_neg (Ne.symm notComment), Entries.find?_insert,
    if_neg (Ne.symm notEmail), Entries.find?_insert, if_neg (Ne.symm notName)]

theorem optional_commentValue (attributes : ContactAttributes) :
    Decoder.optional Decoder.string attributes.commentValue = .ok attributes.comment :=
  optional_string_eq_ok_iff.2 rfl

/-- Attributes that are written over those of an object are the ones it decodes to. -/
theorem decode_writeInto (visited : Record.visit record.fields false entries = .ok ())
    (attributes : ContactAttributes) :
    decode (.object (attributes.writeInto entries)) = .ok attributes := by
  rw [decode_object_iff, writeInto]
  refine ⟨?_, ?_⟩
  · apply Record.visit_insert
    · apply visit_insert_string
      exact visit_insert_string visited "name" attributes.name
    · intro field named
      cases named
      simp only [optional_commentValue]
      rfl
  · constructor
    · rw [Entries.find?_insert, if_neg (by decide), Entries.find?_insert, if_neg (by decide),
        Entries.find?_insert, if_pos rfl]
    · rw [Entries.find?_insert, if_neg (by decide), Entries.find?_insert, if_pos rfl]
    · rw [Entries.find?_insert, if_pos rfl, Option.elim_some, optional_commentValue]

end insert

/-! ### Normal form -/

/--
A name that reading it as an SQL form does not change: it is no SQL form, or it has no blank at
either end and does not begin with a double quote.
-/
def IsNormalName (name : String) : Prop :=
  (∃ error, Identifier.parse name = .error error) ∨
    Text.trim name.toList = name.toList ∧ name.toList.head? ≠ some '"'

/-- Reading a name as an SQL form leaves alone the names in normal form, and only these. -/
theorem normalName_eq_self_iff {name : String} : normalName name = name ↔ IsNormalName name := by
  have trimLength := Text.length_trim_le name.toList
  rw [IsNormalName, normalName]
  cases trimmed : Text.trim name.toList with
  | nil => simp [Identifier.parse, trimmed]
  | cons char rest =>
      by_cases quote : char = '"'
      · subst quote
        cases closed : Text.closedName? rest with
        | none => simp [Identifier.parse_quoted trimmed, closed]
        | some inner =>
            cases inner with
            | nil => simp [Identifier.parse_quoted trimmed, closed]
            | cons first inner =>
                rw [Identifier.parse_of_quoted trimmed closed (by simp)]
                -- Reading takes the quotes away, so the name becomes shorter.
                have shorter := Text.length_lt_of_closedName? closed
                constructor
                · intro same
                  have same : first :: inner = name.toList := by
                    simpa using congrArg String.toList same
                  rw [trimmed, ← same, List.length_cons] at trimLength
                  omega
                · rintro (⟨error, fails⟩ | ⟨same, unquoted⟩)
                  · cases fails
                  · simp [← same] at unquoted
      · rw [Identifier.parse_of_bare trimmed (by simp) (by simpa using quote)]
        constructor
        · intro same
          have same : char :: rest = name.toList := by simpa using congrArg String.toList same
          refine .inr ⟨same, ?_⟩
          simpa [← same] using quote
        · rintro (⟨error, fails⟩ | ⟨same, -⟩)
          · cases fails
          · simp [same]

/-- A state is read as it is written, and then brought into normal form. -/
theorem ofState_eq_ok_iff {state : Value} {attributes : ContactAttributes} :
    ofState state = .ok attributes ↔ ∃ written, decode state = .ok written ∧
      written.normalized = attributes := by
  rw [ofState]
  cases decode state with
  | error error => simp
  | ok written => simp

theorem name_normalized (attributes : ContactAttributes) :
    attributes.normalized.name = normalName attributes.name := rfl

theorem filter_comment_normalized (attributes : ContactAttributes) :
    attributes.normalized.comment.filter (· ≠ "") = attributes.normalized.comment := by
  rw [normalized, Option.filter_filter]
  simp only [Bool.and_self]

theorem eq_of_fields {first second : ContactAttributes} (name : first.name = second.name)
    (email : first.email = second.email) (comment : first.comment = second.comment) :
    first = second := by
  rcases first with ⟨firstName, firstEmail, firstComment⟩
  rcases second with ⟨secondName, secondEmail, secondComment⟩
  cases name
  cases email
  cases comment
  rfl

/-- Attributes without an empty comment are in normal form if their name is. -/
theorem normalized_eq_self {attributes : ContactAttributes}
    (stable : normalName attributes.name = attributes.name)
    (nonempty : attributes.comment ≠ some "") : attributes.normalized = attributes := by
  apply eq_of_fields
  · exact stable
  · rfl
  · rw [normalized]
    cases written : attributes.comment with
    | none => rfl
    | some text =>
        rw [written] at nonempty
        simpa using nonempty

/--
A state that holds attributes in normal form decodes to them again, but for the name, which is read
once more.
-/
theorem exists_ofState_of_decode_normalized {state : Value} {written : ContactAttributes}
    (decodes : decode state = .ok written.normalized) :
    ∃ again, ofState state = .ok again ∧ again.email = written.normalized.email ∧
      again.comment = written.normalized.comment ∧
        (again.name = written.normalized.name ↔ IsNormalName written.normalized.name) := by
  refine ⟨written.normalized.normalized, ofState_eq_ok_iff.2 ⟨_, decodes, rfl⟩, rfl, ?_, ?_⟩
  · exact filter_comment_normalized written
  · rw [name_normalized written.normalized]
    exact normalName_eq_self_iff

end ContactAttributes

end AlertContacts
