import AlertContacts.Schema.Validation
import Mathlib.Data.List.Basic

/-!
# Values that do not fit their types

A type is walked along a value (`AttributeType.Reaches`): through a list to each item, and through an object
to each declared field that is there. Where the walk meets a value that is of another kind than the type at
that position, the value does not fit. Null fits everywhere.

The check of a type reports what does not fit (`AttributeType.check_eq_map_misfits`): one error for each
position that the walk reaches and where the kind is wrong (`AttributeType.mem_misfits_iff`), in the order of
the positions (`AttributeType.pairwise_misfits`), and none exactly if the value conforms to the type with all
that it contains (`AttributeType.check_eq_nil_iff_fits`).
-/

namespace AlertContacts

open Json

namespace Json

/-- A step from a value to one that it contains: to an item of an array, or to a field of an object. -/
inductive PathStep where
  | item (index : Nat)
  | field (name : String)
  deriving DecidableEq

/-- Items come in the order of their indices, and fields in the order of their names. -/
def PathStep.Before : PathStep → PathStep → Prop
  | .item first, .item second => first < second
  | .field first, .field second => first < second
  | _, _ => False

/-- No step comes before itself. -/
theorem PathStep.not_before_self (step : PathStep) : ¬step.Before step := by
  cases step with
  | item index => exact Nat.lt_irrefl index
  | field name => exact String.lt_irrefl name

end Json

/-! ### Types along values -/

namespace AttributeType

/-- An induction on types in which the types of all fields of an object are known to have the property. -/
theorem byParts {motive : AttributeType → Prop} (string : motive .string) (int64 : motive .int64)
    (bool : motive .bool) (list : ∀ item, motive item → motive (.list item))
    (object : ∀ fields, (∀ field ∈ fields, motive field.2) → motive (.object fields))
    (type : AttributeType) : motive type :=
  @AttributeType.rec motive (fun fields => ∀ field ∈ fields, motive field.2)
    (fun field => motive field.2) string int64 bool list object (List.forall_mem_nil _)
    (fun _ _ first rest => List.forall_mem_cons.2 ⟨first, rest⟩) (fun _ _ holds => holds) type

/-- Whether a value is of the kind of a type, whatever it contains. Null is of every kind. -/
def admits : AttributeType → Value → Bool
  | _, .null => true
  | .string, .string _ => true
  | .int64, .number number => number.isInteger
  | .bool, .boolean _ => true
  | .list _, .array _ => true
  | .object _, .object _ => true
  | _, _ => false

/-- Walking a type along a value leads to a type and a value inside them. -/
inductive Reaches : AttributeType → Value → List PathStep → AttributeType → Value → Prop where
  | here (type : AttributeType) (value : Value) : Reaches type value [] type value
  | item {item type : AttributeType} {items : List Value} {index : Nat} {value found : Value}
      {path : List PathStep} (there : items[index]? = some value)
      (further : Reaches item value path type found) :
      Reaches (.list item) (.array items) (.item index :: path) type found
  | field {fields : List (String × AttributeType)} {fieldType type : AttributeType}
      {entries : Entries Value} {name : String} {value found : Value} {path : List PathStep}
      (declared : (name, fieldType) ∈ fields) (there : entries.find? name = some value)
      (further : Reaches fieldType value path type found) :
      Reaches (.object fields) (.object entries) (.field name :: path) type found

/-- A value conforms to a type with all that it contains; what is null or not there is no matter. -/
inductive Fits : AttributeType → Value → Prop where
  | null (type : AttributeType) : Fits type .null
  | string (text : String) : Fits .string (.string text)
  | int64 {number : Number} (whole : number.isInteger = true) : Fits .int64 (.number number)
  | bool (value : Bool) : Fits .bool (.boolean value)
  | list {item : AttributeType} {items : List Value} (each : ∀ value ∈ items, Fits item value) :
      Fits (.list item) (.array items)
  | object {fields : List (String × AttributeType)} {entries : Entries Value}
      (each : ∀ field ∈ fields, ∀ value ∈ entries.find? field.1, Fits field.2 value) :
      Fits (.object fields) (.object entries)

/-- A value that does not fit, with its position and the type that is declared there. -/
structure Misfit where
  path : List PathStep
  expected : AttributeType
  found : Value

def Misfit.under (step : PathStep) (misfit : Misfit) : Misfit :=
  { misfit with path := step :: misfit.path }

mutual

/-- The values inside a value that do not fit, in the order of their positions. -/
def misfits (type : AttributeType) (value : Value) : List Misfit :=
  match type, value with
  | .list item, .array items =>
    (items.mapIdx fun index value => (misfits item value).map (Misfit.under (.item index))).flatten
  | .object fields, .object entries => fieldMisfits fields entries
  | type, value => if type.admits value then [] else [⟨[], type, value⟩]

def fieldMisfits (fields : List (String × AttributeType)) (entries : Entries Value) : List Misfit :=
  match fields with
  | [] => []
  | (name, fieldType) :: rest =>
    (match entries.find? name with
      | none => []
      | some value => (misfits fieldType value).map (Misfit.under (.field name))) ++
    fieldMisfits rest entries

end

/-- The path of a position inside an attribute, as diagnostics write it. -/
def positionText (path : String) (steps : List PathStep) : String :=
  steps.foldl (fun path step =>
    match step with
    | .item index => itemPath path index
    | .field name => fieldPath path name) path

def Misfit.diagnostic (path : String) (misfit : Misfit) : Diagnostic :=
  typeMismatch (positionText path misfit.path) misfit.expected misfit.found

section parts

variable (item : AttributeType) (items : List Value) (fields : List (String × AttributeType))
  (entries : Entries Value) (path : String)

theorem check_list : (list item).check path (.array items) =
    items.zipIdx.flatMap fun entry => item.check (itemPath path entry.2) entry.1 := by
  rw [check, List.mapIdx_eq_zipIdx_map]
  rfl

theorem misfits_list : (list item).misfits (.array items) =
    items.zipIdx.flatMap fun entry => (item.misfits entry.1).map (Misfit.under (.item entry.2)) := by
  rw [misfits, List.mapIdx_eq_zipIdx_map]
  rfl

theorem check_object : (object fields).check path (.object entries) =
    fields.flatMap fun field =>
      (entries.find? field.1).elim [] (field.2.check (fieldPath path field.1)) := by
  rw [check]
  induction fields with
  | nil => rfl
  | cons field rest ih =>
      rw [checkFields, List.flatMap_cons, ih]
      cases entries.find? field.1 <;> rfl

theorem misfits_object : (object fields).misfits (.object entries) =
    fields.flatMap fun field => (entries.find? field.1).elim [] fun value =>
      (field.2.misfits value).map (Misfit.under (.field field.1)) := by
  rw [misfits]
  induction fields with
  | nil => rfl
  | cons field rest ih =>
      rw [fieldMisfits, List.flatMap_cons, ih]
      cases entries.find? field.1 <;> rfl

end parts

/-- A check reports what does not fit. -/
theorem check_eq_map_misfits (type : AttributeType) (path : String) (value : Value) :
    type.check path value = (type.misfits value).map (Misfit.diagnostic path) := by
  induction type using byParts generalizing path value with
  | string => cases value <;> rfl
  | bool => cases value <;> rfl
  | int64 =>
      cases value with
      | number number => cases number <;> rfl
      | _ => rfl
  | list item ih =>
      cases value with
      | array items =>
          rw [check_list, misfits_list, List.map_flatMap]
          apply List.flatMap_congr
          intro entry _
          rw [ih, List.map_map]
          rfl
      | _ => rfl
  | object fields ih =>
      cases value with
      | object entries =>
          rw [check_object, misfits_object, List.map_flatMap]
          apply List.flatMap_congr
          intro field member
          cases Entries.find? field.1 entries with
          | none => rfl
          | some value =>
              rw [Option.elim_some, Option.elim_some, ih field member, List.map_map]
              rfl
      | _ => rfl

/-- What is found one step further down is what has that step at the front of its path. -/
theorem mem_map_under_iff {step : PathStep} {found : List Misfit} {misfit : Misfit} :
    misfit ∈ found.map (Misfit.under step) ↔
      ∃ rest, misfit.path = step :: rest ∧ { misfit with path := rest } ∈ found := by
  rcases misfit with ⟨path, expected, value⟩
  simp only [List.mem_map, Misfit.under, Misfit.mk.injEq]
  constructor
  · rintro ⟨inner, member, rfl, rfl, rfl⟩
    exact ⟨inner.path, rfl, member⟩
  · rintro ⟨rest, rfl, member⟩
    exact ⟨_, member, rfl, rfl, rfl⟩

section leaf

variable {type : AttributeType} {value : Value}
  (notList : ∀ item items, type = .list item → value = .array items → False)
  (notObject : ∀ fields entries, type = .object fields → value = .object entries → False)

include notList notObject

/-- Where the walk ends, the value itself is all that may not fit. -/
theorem misfits_leaf :
    type.misfits value = if type.admits value then [] else [⟨[], type, value⟩] := by
  rw [misfits]
  · exact notList
  · exact notObject

theorem mem_misfits_leaf_iff {misfit : Misfit} :
    misfit ∈ type.misfits value ↔
      type.Reaches value misfit.path misfit.expected misfit.found ∧
        misfit.expected.admits misfit.found = false := by
  rcases misfit with ⟨path, expected, found⟩
  rw [misfits_leaf notList notObject]
  constructor
  · intro member
    split at member
    · cases member
    · rename_i unfit
      cases List.mem_singleton.1 member
      exact ⟨.here type value, by simpa using unfit⟩
  · rintro ⟨reached, unfit⟩
    cases reached with
    | here => simp [unfit]
    | item _ _ => exact absurd rfl (notList _ _ rfl)
    | field _ _ _ => exact absurd rfl (notObject _ _ rfl)

end leaf

/-- What does not fit is what the walk reaches and what is not of the kind of its type. -/
theorem mem_misfits_iff {type : AttributeType} {value : Value} {misfit : Misfit} :
    misfit ∈ type.misfits value ↔
      type.Reaches value misfit.path misfit.expected misfit.found ∧
        misfit.expected.admits misfit.found = false := by
  induction type using byParts generalizing value misfit with
  | string => exact mem_misfits_leaf_iff (by rintro _ _ ⟨⟩) (by rintro _ _ ⟨⟩)
  | int64 => exact mem_misfits_leaf_iff (by rintro _ _ ⟨⟩) (by rintro _ _ ⟨⟩)
  | bool => exact mem_misfits_leaf_iff (by rintro _ _ ⟨⟩) (by rintro _ _ ⟨⟩)
  | list item ih =>
      cases value with
      | array items =>
          rcases misfit with ⟨path, expected, found⟩
          rw [misfits_list, List.mem_flatMap]
          constructor
          · rintro ⟨⟨value, index⟩, entry, member⟩
            rcases mem_map_under_iff.1 member with ⟨rest, rfl, inner⟩
            rcases ih.1 inner with ⟨reached, unfit⟩
            exact ⟨.item (List.mem_zipIdx_iff_getElem?.1 entry) reached, unfit⟩
          · rintro ⟨reached, unfit⟩
            cases reached with
            | here => cases unfit
            | item there further =>
                exact ⟨(_, _), List.mem_zipIdx_iff_getElem?.2 there,
                  mem_map_under_iff.2 ⟨_, rfl, ih.2 ⟨further, unfit⟩⟩⟩
      | _ => exact mem_misfits_leaf_iff (by rintro _ _ _ ⟨⟩) (by rintro _ _ ⟨⟩)
  | object fields ih =>
      cases value with
      | object entries =>
          rcases misfit with ⟨path, expected, found⟩
          rw [misfits_object, List.mem_flatMap]
          constructor
          · rintro ⟨⟨name, fieldType⟩, declared, member⟩
            cases there : Entries.find? name entries with
            | none => simp [there] at member
            | some value =>
                rw [there] at member
                rcases mem_map_under_iff.1 member with ⟨rest, rfl, inner⟩
                rcases (ih _ declared).1 inner with ⟨reached, unfit⟩
                exact ⟨.field declared there reached, unfit⟩
          · rintro ⟨reached, unfit⟩
            cases reached with
            | here => cases unfit
            | field declared there further =>
                refine ⟨(_, _), declared, ?_⟩
                rw [there]
                exact mem_map_under_iff.2 ⟨_, rfl, (ih _ declared).2 ⟨further, unfit⟩⟩
      | _ => exact mem_misfits_leaf_iff (by rintro _ _ ⟨⟩) (by rintro _ _ _ ⟨⟩)

/-! ### The order of positions -/

def Misfit.Before (first second : Misfit) : Prop :=
  List.Lex PathStep.Before first.path second.path

/-- A step in front of all paths keeps their order. -/
theorem pairwise_map_under {found : List Misfit} (ordered : found.Pairwise Misfit.Before)
    (step : PathStep) : (found.map (Misfit.under step)).Pairwise Misfit.Before :=
  List.pairwise_map.2 (ordered.imp List.Lex.cons)

/-- What is under an earlier step comes before what is under a later one. -/
theorem before_of_mem_map_under {step later : PathStep} (before : step.Before later)
    {found others : List Misfit} : ∀ first ∈ found.map (Misfit.under step),
      ∀ second ∈ others.map (Misfit.under later), first.Before second := by
  intro first member second memberAgain
  rcases List.mem_map.1 member with ⟨_, -, rfl⟩
  rcases List.mem_map.1 memberAgain with ⟨_, -, rfl⟩
  exact .rel before

theorem orderedFields_iff {fields : List (String × AttributeType)} :
    OrderedFields fields ↔ ∀ field ∈ fields, field.2.Ordered := by
  induction fields with
  | nil => simp [OrderedFields]
  | cons field rest ih => rw [OrderedFields, List.forall_mem_cons, ih]

theorem pairwise_zipIdx (items : List Value) :
    items.zipIdx.Pairwise fun first second => first.2 < second.2 := by
  rw [← List.pairwise_map (f := Prod.snd) (R := (· < ·)), List.zipIdx_map_snd]
  exact List.pairwise_lt_range'

/-- What does not fit comes in the order of the positions. -/
theorem pairwise_misfits {type : AttributeType} (ordered : type.Ordered) (value : Value) :
    (type.misfits value).Pairwise Misfit.Before := by
  have leaf {type : AttributeType} {value : Value}
      (notList : ∀ item items, type = .list item → value = .array items → False)
      (notObject : ∀ fields entries, type = .object fields → value = .object entries → False) :
      (type.misfits value).Pairwise Misfit.Before := by
    rw [misfits_leaf notList notObject]
    split
    · exact .nil
    · exact List.pairwise_singleton _ _
  induction type using byParts generalizing value with
  | string => exact leaf (by rintro _ _ ⟨⟩) (by rintro _ _ ⟨⟩)
  | int64 => exact leaf (by rintro _ _ ⟨⟩) (by rintro _ _ ⟨⟩)
  | bool => exact leaf (by rintro _ _ ⟨⟩) (by rintro _ _ ⟨⟩)
  | list item ih =>
      cases value with
      | array items =>
          rw [misfits_list, List.pairwise_flatMap]
          constructor
          · intro entry _
            exact pairwise_map_under (ih ordered entry.1) _
          · exact (pairwise_zipIdx items).imp fun before => before_of_mem_map_under before
      | _ => exact leaf (by rintro _ _ _ ⟨⟩) (by rintro _ _ ⟨⟩)
  | object fields ih =>
      cases value with
      | object entries =>
          rcases ordered with ⟨ascending, each⟩
          rw [misfits_object, List.pairwise_flatMap]
          constructor
          · intro field member
            cases Entries.find? field.1 entries with
            | none => exact .nil
            | some value =>
                exact pairwise_map_under (ih field member (orderedFields_iff.1 each field member) value) _
          · refine List.Pairwise.imp ?_ ascending
            intro first second before
            cases Entries.find? first.1 entries with
            | none => exact List.forall_mem_nil _
            | some value =>
                cases Entries.find? second.1 entries with
                | none => exact fun _ _ => List.forall_mem_nil _
                | some later =>
                    have step : (PathStep.field first.1).Before (.field second.1) := before
                    exact before_of_mem_map_under step
      | _ => exact leaf (by rintro _ _ ⟨⟩) (by rintro _ _ _ ⟨⟩)

/-! ### Conforming values -/

/-- Nothing misfits in a value that conforms to its type. -/
theorem misfits_eq_nil_of_fits {type : AttributeType} {value : Value} (fits : type.Fits value) :
    type.misfits value = [] := by
  induction fits with
  | null type => cases type <;> rfl
  | string text => rfl
  | int64 whole => simp [misfits, admits, whole]
  | bool value => rfl
  | list _ ih =>
      rw [misfits_list, List.flatMap_eq_nil_iff]
      rintro ⟨value, index⟩ entry
      rw [ih value (List.mem_of_getElem? (List.mem_zipIdx_iff_getElem?.1 entry)), List.map_nil]
  | object _ ih =>
      rw [misfits_object, List.flatMap_eq_nil_iff]
      intro field member
      cases there : Entries.find? field.1 _ with
      | none => rfl
      | some value => rw [Option.elim_some, ih field member value there, List.map_nil]

/-- A value in which nothing misfits conforms to its type. -/
theorem fits_of_misfits_eq_nil {type : AttributeType} {value : Value} (nothing : type.misfits value = []) :
    type.Fits value := by
  induction type using byParts generalizing value with
  | string =>
      cases value with
      | null => exact .null _
      | string text => exact .string text
      | _ => cases nothing
  | int64 =>
      cases value with
      | null => exact .null _
      | number number =>
          cases number with
          | float _ => cases nothing
          | natural _ => exact .int64 rfl
          | negative _ => exact .int64 rfl
      | _ => cases nothing
  | bool =>
      cases value with
      | null => exact .null _
      | boolean value => exact .bool value
      | _ => cases nothing
  | list item ih =>
      cases value with
      | null => exact .null _
      | array items =>
          rw [misfits_list, List.flatMap_eq_nil_iff] at nothing
          refine .list fun value member => ih ?_
          rcases List.mem_iff_getElem?.1 member with ⟨index, there⟩
          exact List.map_eq_nil_iff.1 (nothing (value, index) (List.mem_zipIdx_iff_getElem?.2 there))
      | _ => cases nothing
  | object fields ih =>
      cases value with
      | null => exact .null _
      | object entries =>
          rw [misfits_object, List.flatMap_eq_nil_iff] at nothing
          refine .object fun field member value there => ih field member ?_
          have none := nothing field member
          rw [Option.mem_def.1 there] at none
          exact List.map_eq_nil_iff.1 none
      | _ => cases nothing

/-- A value conforms to a type when all that it contains fits. -/
theorem misfits_eq_nil_iff {type : AttributeType} {value : Value} :
    type.misfits value = [] ↔ type.Fits value :=
  ⟨fits_of_misfits_eq_nil, misfits_eq_nil_of_fits⟩

/-- A check finds nothing exactly if the value conforms with all that it contains. -/
theorem check_eq_nil_iff_fits {type : AttributeType} {path : String} {value : Value} :
    type.check path value = [] ↔ type.Fits value := by
  rw [check_eq_map_misfits, List.map_eq_nil_iff, misfits_eq_nil_iff]

/-- A check reports errors, and no warnings. -/
theorem isError_of_mem_check (type : AttributeType) (path : String) (value : Value) :
    ∀ diagnostic ∈ type.check path value, diagnostic.isError = true := by
  rw [check_eq_map_misfits, List.forall_mem_map]
  exact fun _ _ => rfl

end AttributeType

end AlertContacts
