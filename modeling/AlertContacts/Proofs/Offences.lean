import AlertContacts.Proofs.Schema

/-!
# What validation reports

An object can offend against a schema in three ways: a required attribute is missing, a value inside an
attribute does not fit the type of its position, or a key is not declared (`Offence`). Validation reports
one error for each offence and nothing else, and in order: by attribute, then by position, and the undeclared
keys at the end (`Schema.validate_reports_offences`). Its summary says which of the three the offence is and
where, and its detail what was expected instead. So validation reports nothing exactly when the object conforms
to the schema (`Schema.Accepts`).
-/

namespace AlertContacts

open Json

/-- Something that is wrong with an object. -/
inductive Offence where
  | missing (name : String)
  | mismatch (name : String) (misfit : AttributeType.Misfit)
  | undeclared (name : String)

namespace Offence

def name : Offence → String
  | .missing name | .mismatch name _ | .undeclared name => name

/-- The position inside the attribute. -/
def path : Offence → List PathStep
  | .mismatch _ misfit => misfit.path
  | _ => []

def isDeclared : Offence → Bool
  | .undeclared _ => false
  | _ => true

/-- Attributes come in the order of their names, each with its positions, and undeclared keys behind them. -/
def Before (first second : Offence) : Prop :=
  first.isDeclared = true ∧ second.isDeclared = false ∨
    first.isDeclared = second.isDeclared ∧
      (first.name < second.name ∨
        first.name = second.name ∧ List.Lex PathStep.Before first.path second.path)

/-- Where an offence is: under a declared attribute, and there at a position, or under a key of its own. -/
def position (offence : Offence) : Bool × String × List PathStep :=
  (offence.isDeclared, offence.name, offence.path)

/-- Offences of which one comes before the other are at different positions. -/
theorem Before.position_ne {first second : Offence} (before : first.Before second) :
    first.position ≠ second.position := by
  intro same
  simp only [position, Prod.mk.injEq] at same
  rcases same with ⟨declared, name, path⟩
  rcases before with ⟨firstDeclared, secondUndeclared⟩ | ⟨-, less | ⟨-, less⟩⟩
  · rw [declared, secondUndeclared] at firstDeclared
    cases firstDeclared
  · rw [name] at less
    exact String.lt_irrefl _ less
  · rw [path] at less
    exact List.lex_irrefl PathStep.not_before_self _ less

inductive Kind where
  | missing
  | mismatch
  | undeclared
  deriving DecidableEq

def kind : Offence → Kind
  | .missing _ => .missing
  | .mismatch _ _ => .mismatch
  | .undeclared _ => .undeclared

/-- How a summary begins; the position follows, and a quote at the end. -/
def Kind.opening : Kind → String
  | .missing => "Missing required attribute '"
  | .mismatch => "Invalid type for attribute '"
  | .undeclared => "Unsupported attribute '"

def summary (offence : Offence) : String :=
  offence.kind.opening ++ AttributeType.positionText offence.name offence.path ++ "'"

/-- What was expected at the position; for a value of the wrong type, what it is instead. -/
def detail : Offence → String
  | .missing _ => "This attribute is required and must be provided"
  | .mismatch _ misfit => "Expected " ++ misfit.expected.name ++ ", got " ++ misfit.found.kind
  | .undeclared _ => "An attribute with this name is not expected here"

/-- The first letter of a summary tells what kind of offence it is about. -/
theorem kind_eq_of_summary_eq {first second : Offence} (same : first.summary = second.summary) :
    first.kind = second.kind := by
  have letters := congrArg (fun text => text.toList.head?) same
  simp only [summary, String.toList_append] at letters
  cases firstKind : first.kind <;> cases secondKind : second.kind <;>
    simp [firstKind, secondKind, Kind.opening] at letters ⊢

def diagnostic : Offence → Diagnostic
  | .missing name => Schema.missingAttribute name
  | .mismatch name misfit => misfit.diagnostic name
  | .undeclared name => Schema.unsupportedAttribute name

theorem isError_diagnostic (offence : Offence) : offence.diagnostic.isError = true := by
  cases offence <;> rfl

/-- The path of a diagnostic is the position of its offence, under the name of the attribute or key. -/
theorem path_diagnostic (offence : Offence) :
    offence.diagnostic.path = some (AttributeType.positionText offence.name offence.path) := by
  cases offence <;> rfl

/-- The texts of a diagnostic are those of its offence. -/
theorem texts_diagnostic (offence : Offence) : offence.diagnostic.summary = offence.summary ∧
    offence.diagnostic.detail = some offence.detail := by
  cases offence <;> exact ⟨rfl, rfl⟩

end Offence

/-- Whether there is no value, or none but null. -/
def isLacking : Option Value → Bool
  | none | some .null => true
  | some _ => false

theorem isLacking_iff {value : Option Value} :
    isLacking value = true ↔ value = none ∨ value = some .null := by
  rcases value with _ | value
  · simp [isLacking]
  · cases value <;> simp [isLacking]

/-- What is wrong with the value of an attribute. Null has nothing in it that would not fit. -/
def Attribute.offences (attr : Attribute) (name : String) (value : Option Value) : List Offence :=
  if attr.flags.isComputedOnly then []
  else
    (if attr.flags.required && isLacking value then [.missing name] else []) ++
      (value.elim [] attr.type.misfits).map (.mismatch name)

namespace Schema

/-- The names of a schema, and those of the fields in its types, are in ascending order. -/
structure Ordered (schema : Schema) : Prop where
  names : schema.attributes.Ascending
  types : ∀ declared ∈ schema.attributes, declared.2.type.Ordered

/-- The ways in which an object offends against a schema. Computed attributes are left to the provider. -/
inductive Offends (schema : Schema) (entries : Entries Value) : Offence → Prop where
  | missing {name : String} {attr : Attribute} (declared : (name, attr) ∈ schema.attributes)
      (given : attr.flags.isComputedOnly = false) (required : attr.flags.required = true)
      (absent : entries.find? name = none ∨ entries.find? name = some .null) :
      Offends schema entries (.missing name)
  | mismatch {name : String} {attr : Attribute} {value : Value} {misfit : AttributeType.Misfit}
      (declared : (name, attr) ∈ schema.attributes) (given : attr.flags.isComputedOnly = false)
      (there : entries.find? name = some value)
      (reached : attr.type.Reaches value misfit.path misfit.expected misfit.found)
      (unfit : misfit.expected.admits misfit.found = false) :
      Offends schema entries (.mismatch name misfit)
  | undeclared {name : String} (there : name ∈ entries.names)
      (unknown : name ∉ schema.attributes.names) : Offends schema entries (.undeclared name)

/-- An object conforms to a schema. -/
structure Accepts (schema : Schema) (entries : Entries Value) : Prop where
  provided : ∀ declared ∈ schema.attributes, declared.2.flags.isComputedOnly = false →
    declared.2.flags.required = true → ∃ value, entries.find? declared.1 = some value ∧ value ≠ .null
  typed : ∀ declared ∈ schema.attributes, declared.2.flags.isComputedOnly = false →
    ∀ value ∈ entries.find? declared.1, declared.2.type.Fits value
  declared : ∀ name ∈ entries.names, name ∈ schema.attributes.names

def offences (schema : Schema) (entries : Entries Value) : List Offence :=
  (schema.attributes.flatMap fun declared =>
    declared.2.offences declared.1 (entries.find? declared.1)) ++
  (entries.filter fun entry => !schema.attributes.has entry.1).map fun entry => .undeclared entry.1

variable {schema : Schema} {entries : Entries Value}

/-- The check of an attribute reports its offences, one by one. -/
theorem checkAttribute_eq_map_offences (name : String) (attr : Attribute) (value : Option Value) :
    checkAttribute name attr value = (attr.offences name value).map Offence.diagnostic := by
  unfold checkAttribute Attribute.offences
  split
  · rfl
  · have mismatches (value : Value) :
        ((attr.type.misfits value).map (Offence.mismatch name)).map Offence.diagnostic =
          attr.type.check name value := by
      rw [AttributeType.check_eq_map_misfits, List.map_map]
      rfl
    rw [List.map_append]
    split
    · cases attr.flags.required <;> rfl
    · cases required : attr.flags.required <;>
        simp [isLacking, AttributeType.misfits_eq_nil_of_fits (.null _), Offence.diagnostic]
    · rename_i value present
      have given : isLacking (some value) = false := by
        rw [Bool.eq_false_iff, ne_eq, isLacking_iff]
        simpa using present
      rw [given, Bool.and_false, if_neg Bool.false_ne_true, Option.elim_some, mismatches]
      rfl

/-- Validation reports the offences of an object, one by one. -/
theorem validate_eq_map_offences :
    schema.validate (.object entries) = (schema.offences entries).map Offence.diagnostic := by
  rw [validate, offences, List.map_append, List.map_flatMap, List.map_map]
  congr 1
  apply List.flatMap_congr
  intro declared _
  exact checkAttribute_eq_map_offences _ _ _

/-- An attribute offends if it is required and not there, or where something in its value misfits. -/
theorem mem_attribute_offences_iff {name : String} {attr : Attribute} {value : Option Value}
    {offence : Offence} :
    offence ∈ attr.offences name value ↔
      attr.flags.isComputedOnly = false ∧
        (attr.flags.required = true ∧ isLacking value = true ∧ offence = .missing name ∨
          ∃ inner ∈ value, ∃ misfit ∈ attr.type.misfits inner, .mismatch name misfit = offence) := by
  have missing :
      offence ∈ (if attr.flags.required && isLacking value then [Offence.missing name] else []) ↔
        attr.flags.required = true ∧ isLacking value = true ∧ offence = .missing name := by
    cases attr.flags.required <;> cases isLacking value <;> simp
  have mismatches : offence ∈ (value.elim [] attr.type.misfits).map (Offence.mismatch name) ↔
      ∃ inner ∈ value, ∃ misfit ∈ attr.type.misfits inner, .mismatch name misfit = offence := by
    cases value <;> simp
  rw [Attribute.offences]
  cases attr.flags.isComputedOnly with
  | true => simp
  | false => rw [if_neg Bool.false_ne_true, List.mem_append, missing, mismatches, eq_self, true_and]

/-- The offences that are listed are the ways in which the object offends. -/
theorem mem_offences_iff {offence : Offence} :
    offence ∈ schema.offences entries ↔ schema.Offends entries offence := by
  rw [offences, List.mem_append, List.mem_flatMap]
  simp only [mem_attribute_offences_iff, AttributeType.mem_misfits_iff, isLacking_iff]
  constructor
  · rintro (⟨⟨name, attr⟩, declared, given,
        ⟨required, absent, rfl⟩ | ⟨value, there, misfit, fails, rfl⟩⟩ |
      undeclared)
    · exact .missing declared given required absent
    · exact .mismatch declared given there fails.1 fails.2
    · rcases List.mem_map.1 undeclared with ⟨entry, kept, rfl⟩
      rw [List.mem_filter, Bool.not_eq_true', Bool.eq_false_iff, ne_eq, Entries.has_iff_mem_names] at kept
      exact .undeclared (List.mem_map_of_mem kept.1) kept.2
  · intro offends
    cases offends with
    | missing declared given required absent =>
        exact .inl ⟨_, declared, given, .inl ⟨required, absent, rfl⟩⟩
    | mismatch declared given there reached unfit =>
        exact .inl ⟨_, declared, given, .inr ⟨_, there, _, ⟨reached, unfit⟩, rfl⟩⟩
    | undeclared there unknown =>
        rcases List.mem_map.1 there with ⟨entry, member, rfl⟩
        refine .inr (List.mem_map.2 ⟨entry, List.mem_filter.2 ⟨member, ?_⟩, rfl⟩)
        rw [Bool.not_eq_true', Bool.eq_false_iff, ne_eq, Entries.has_iff_mem_names]
        exact unknown

/-- All that is wrong with an attribute is under its name. -/
theorem name_of_mem_offences {name : String} {attr : Attribute} {value : Option Value} :
    ∀ offence ∈ attr.offences name value, offence.isDeclared = true ∧ offence.name = name := by
  intro offence member
  rcases mem_attribute_offences_iff.1 member with ⟨-, ⟨-, -, rfl⟩ | ⟨_, -, _, -, rfl⟩⟩
  · exact ⟨rfl, rfl⟩
  · exact ⟨rfl, rfl⟩

/-- What is wrong with one attribute comes in the order of the positions in its value. -/
theorem pairwise_attribute_offences {name : String} {attr : Attribute} (ordered : attr.type.Ordered)
    (value : Option Value) : (attr.offences name value).Pairwise Offence.Before := by
  rw [Attribute.offences]
  split
  · exact .nil
  · have misfits : (value.elim [] attr.type.misfits).Pairwise AttributeType.Misfit.Before := by
      cases value with
      | none => exact .nil
      | some value => exact AttributeType.pairwise_misfits ordered value
    have mismatches : ((value.elim [] attr.type.misfits).map (Offence.mismatch name)).Pairwise
        Offence.Before :=
      List.pairwise_map.2 (misfits.imp fun before => .inr ⟨rfl, .inr ⟨rfl, before⟩⟩)
    split
    · -- An attribute that is missing has nothing in it that would not fit.
      rename_i lacks
      rw [Bool.and_eq_true, isLacking_iff] at lacks
      rcases lacks with ⟨-, rfl | rfl⟩
      · exact List.pairwise_singleton _ _
      · rw [Option.elim_some, AttributeType.misfits_eq_nil_of_fits (.null _)]
        exact List.pairwise_singleton _ _
    · exact mismatches

/-- Offences are listed in their order, so no position comes twice. -/
theorem pairwise_offences (ordered : schema.Ordered) (ascending : entries.Ascending) :
    (schema.offences entries).Pairwise Offence.Before := by
  rw [offences, List.pairwise_append]
  refine ⟨?_, ?_, ?_⟩
  · rw [List.pairwise_flatMap]
    constructor
    · intro declared member
      exact pairwise_attribute_offences (ordered.types declared member) _
    · refine List.Pairwise.imp ?_ ordered.names
      intro earlier later less first member second memberAgain
      rcases name_of_mem_offences first member with ⟨firstDeclared, firstName⟩
      rcases name_of_mem_offences second memberAgain with ⟨secondDeclared, secondName⟩
      refine .inr ⟨firstDeclared.trans secondDeclared.symm, .inl ?_⟩
      rw [firstName, secondName]
      exact less
  · rw [List.pairwise_map]
    exact (ascending.filter _).imp fun less => .inr ⟨rfl, .inl less⟩
  · intro first member second memberAgain
    rcases List.mem_flatMap.1 member with ⟨declared, -, under⟩
    rcases List.mem_map.1 memberAgain with ⟨entry, -, rfl⟩
    exact .inl ⟨(name_of_mem_offences first under).1, rfl⟩

/-- An object conforms to a schema when it does not offend against it. -/
theorem accepts_iff : schema.Accepts entries ↔ schema.offences entries = [] := by
  rw [List.eq_nil_iff_forall_not_mem]
  simp only [mem_offences_iff]
  constructor
  · rintro accepts offence (⟨declared, given, required, absent⟩ |
      ⟨declared, given, there, reached, unfit⟩ | ⟨there, unknown⟩)
    · rcases accepts.provided _ declared given required with ⟨value, found, present⟩
      rcases absent with absent | absent
      · cases found.symm.trans absent
      · cases found.symm.trans absent
        exact present rfl
    · have fits := accepts.typed _ declared given _ there
      have misfit := AttributeType.mem_misfits_iff.2 ⟨reached, unfit⟩
      rw [AttributeType.misfits_eq_nil_of_fits fits] at misfit
      cases misfit
    · exact unknown (accepts.declared _ there)
  · intro clean
    constructor
    · rintro ⟨name, attr⟩ declared given required
      cases found : entries.find? name with
      | none => exact absurd (.missing declared given required (.inl found)) (clean _)
      | some value =>
          refine ⟨value, rfl, ?_⟩
          rintro rfl
          exact clean _ (.missing declared given required (.inr found))
    · rintro ⟨name, attr⟩ declared given value there
      rw [← AttributeType.misfits_eq_nil_iff, List.eq_nil_iff_forall_not_mem]
      intro misfit member
      rcases AttributeType.mem_misfits_iff.1 member with ⟨reached, unfit⟩
      exact clean _ (.mismatch declared given there reached unfit)
    · intro name there
      by_contra unknown
      exact clean _ (.undeclared there unknown)

/-- Validation finds nothing exactly if the object conforms to the schema. -/
theorem validate_eq_nil_iff_accepts :
    schema.validate (.object entries) = [] ↔ schema.Accepts entries := by
  rw [accepts_iff, validate_eq_map_offences, List.map_eq_nil_iff]

/--
Validation of an object reports its offences, one error for each and nothing else, with the path of its
position. The texts of an error say what is wrong there, and what kind of offence it is can be told from the
summary. The errors come in order: for the attributes by name and then by position, and for the undeclared keys
behind them, and no position comes twice. Nothing is reported exactly when the object conforms.
-/
theorem validate_reports_offences (ordered : schema.Ordered) (ascending : entries.Ascending) :
    ∃ offences : List Offence,
      schema.validate (.object entries) = offences.map Offence.diagnostic ∧
      (∀ offence, offence ∈ offences ↔ schema.Offends entries offence) ∧
      offences.Pairwise Offence.Before ∧ (offences.map Offence.position).Nodup ∧
      (∀ offence : Offence, offence.diagnostic.isError = true ∧
        offence.diagnostic.path = some (AttributeType.positionText offence.name offence.path) ∧
          offence.diagnostic.summary = offence.summary ∧
            offence.diagnostic.detail = some offence.detail) ∧
      (∀ first second : Offence, first.diagnostic.summary = second.diagnostic.summary →
        first.kind = second.kind) ∧
      (schema.validate (.object entries) = [] ↔ schema.Accepts entries) := by
  have inOrder := pairwise_offences ordered ascending
  refine ⟨schema.offences entries, validate_eq_map_offences, fun offence => mem_offences_iff, inOrder,
    ?_, ?_, ?_, ?_⟩
  · exact List.pairwise_map.2 (inOrder.imp Offence.Before.position_ne)
  · intro offence
    exact ⟨offence.isError_diagnostic, offence.path_diagnostic, offence.texts_diagnostic⟩
  · intro first second same
    rw [first.texts_diagnostic.1, second.texts_diagnostic.1] at same
    exact Offence.kind_eq_of_summary_eq same
  · rw [validate_eq_map_offences, List.map_eq_nil_iff, accepts_iff]

/-- A schema with a list of objects, a required number and an attribute that is computed. -/
def rosterSchema : Schema where
  attributes :=
    [("members",
       ⟨.list (.object [("name", .string), ("since", .int64)]), { optional := true }, none, false⟩),
     ("size", ⟨.int64, { required := true }, none, false⟩),
     ("token", Attribute.computedString)]

/-- A roster without a size, with a wrong name, a member that is no object, and a key too many. -/
def wrongRoster : Entries Value :=
  [("members", .array [.object [("name", .boolean true), ("since", .string "May")], .null, .string "Ann"]),
   ("owner", .string "Ann"), ("size", .null), ("token", .boolean false)]

theorem validate_reports_offences_nested :
    rosterSchema.Ordered ∧ wrongRoster.Ascending ∧
      ∃ offences : List Offence,
        rosterSchema.validate (.object wrongRoster) = offences.map Offence.diagnostic ∧
        offences.Pairwise Offence.Before ∧ ¬rosterSchema.Accepts wrongRoster ∧
        (offences.map fun offence => offence.diagnostic.path) =
          [some "members[0].name", some "members[0].since", some "members[2]", some "size",
            some "owner"] ∧
        offences.map Offence.diagnostic =
          [⟨.error, "Invalid type for attribute 'members[0].name'",
              some "Expected string, got bool", some "members[0].name"⟩,
            ⟨.error, "Invalid type for attribute 'members[0].since'",
              some "Expected int64, got string", some "members[0].since"⟩,
            ⟨.error, "Invalid type for attribute 'members[2]'",
              some "Expected object, got string", some "members[2]"⟩,
            ⟨.error, "Missing required attribute 'size'",
              some "This attribute is required and must be provided", some "size"⟩,
            ⟨.error, "Unsupported attribute 'owner'",
              some "An attribute with this name is not expected here", some "owner"⟩] := by
  have ordered : rosterSchema.Ordered := by
    refine ⟨by decide, ?_⟩
    intro declared member
    change declared ∈ [_, _, _] at member
    simp only [List.mem_cons, List.not_mem_nil, or_false] at member
    rcases member with rfl | rfl | rfl
    · exact ⟨by decide, trivial, trivial, trivial⟩
    · trivial
    · trivial
  have ascending : wrongRoster.Ascending := by decide
  rcases validate_reports_offences ordered ascending with
    ⟨offences, reports, -, inOrder, -, -, -, clean⟩
  refine ⟨ordered, ascending, offences, reports, inOrder, ?_, ?_, ?_⟩
  · rw [← clean]
    rintro ⟨⟩
  · have paths := congrArg (List.map Diagnostic.path) reports
    rw [List.map_map] at paths
    exact paths.symm
  · rw [← reports]
    decide

end Schema

end AlertContacts
