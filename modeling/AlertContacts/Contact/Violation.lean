/-!
# Structural rules

Before a statement is rendered its options are checked against structural rules: names must not be
empty, some fields exclude each other, and some groups need a member. A `Violation` is one broken
rule; a check reports all of them, in the order in which the rules are checked.
-/

namespace AlertContacts

def exactlyOne (flags : List Bool) : Bool :=
  flags.count true = 1

def anySet (flags : List Bool) : Bool :=
  flags.any id

/-- Whether there are flags and all of them are set. -/
def everySet (flags : List Bool) : Bool :=
  !flags.isEmpty && flags.all id

inductive Violation where
  | invalidIdentifier (options field : String)
  | conflictingFields (options : String) (fields : List String)
  | exactlyOneOf (options : String) (fields : List String)
  | atLeastOneOf (options : String) (fields : List String)
  deriving DecidableEq, Repr

def Violation.message : Violation → String
  | .invalidIdentifier options field =>
    "invalid object identifier for " ++ options ++ "." ++ field
  | .conflictingFields options fields =>
    options ++ " fields: [" ++ ", ".intercalate fields ++
      "] are incompatible and cannot be set at the same time"
  | .exactlyOneOf options fields =>
    "exactly one of " ++ options ++ " fields [" ++ ", ".intercalate fields ++ "] must be set"
  | .atLeastOneOf options fields =>
    "at least one of the fields [" ++ ", ".intercalate fields ++ "] of " ++ options ++
      " must be set"

/-- The wording of several violations, one on each line. -/
def Violation.messages (violations : List Violation) : String :=
  "\n".intercalate (violations.map message)

def Violation.unless (rule : Bool) (violation : Violation) : List Violation :=
  if rule then [] else [violation]

@[simp]
theorem Violation.unless_eq_nil_iff {rule : Bool} {violation : Violation} :
    Violation.unless rule violation = [] ↔ rule = true := by
  cases rule <;> simp [Violation.unless]

end AlertContacts
