import AlertContacts.Identifier

/-!
# Clauses

A statement is an ordered list of clauses. A clause is present or absent: present clauses are
written in the order of the list with single spaces between them, absent clauses leave no trace. A
group holds clauses of its own, written behind a keyword with the group's separator between them; a
present group whose clauses are all absent is its keyword alone.
-/

namespace AlertContacts

/-- A filter on names. `%` and `_` are wildcards, so it may match more than its own text. -/
structure Like where
  pattern : String
  deriving DecidableEq, Repr, Inhabited

inductive Clause where
  | fixed (sql : String)
  | keyword (sql : String) (present : Bool)
  /-- `SQL = 'value'`, written when there is a value. -/
  | parameter (sql : String) (value : Option String)
  /-- An identifier behind an optional keyword, written when there is an identifier. -/
  | identifier (sql : Option String) (value : Option Identifier)
  | group (sql : String) (clauses : Option (List Clause)) (separator : String)
  | like (filter : Option Like)
  deriving Repr, Inhabited

def quoteString (value : String) : String :=
  String.ofList (Text.literal value.toList)

namespace Clause

def name (identifier : Identifier) : Clause :=
  .identifier none (some identifier)

mutual

def render? : Clause → Option String
  | .fixed sql => some sql
  | .keyword sql present => if present then some sql else none
  | .parameter sql value => value.map fun text => sql ++ " = " ++ quoteString text
  | .identifier sql value => value.map fun identifier =>
      match sql with
      | none => identifier.sql
      | some sql => sql ++ " " ++ identifier.sql
  | .group _ none _ => none
  | .group sql (some clauses) separator =>
    match renderPresent clauses with
    | [] => some sql
    | parts => some (sql ++ " " ++ separator.intercalate parts)
  | .like filter => filter.map fun like => "LIKE " ++ quoteString like.pattern

def renderPresent : List Clause → List String
  | [] => []
  | clause :: rest =>
    match render? clause with
    | none => renderPresent rest
    | some text => text :: renderPresent rest

end

def render (clauses : List Clause) : String :=
  " ".intercalate (renderPresent clauses)

/-- The present clauses are those that have a text. -/
theorem renderPresent_eq (clauses : List Clause) :
    renderPresent clauses = clauses.filterMap render? := by
  induction clauses with
  | nil => rfl
  | cons clause rest ih =>
    rw [renderPresent, List.filterMap_cons, ih]
    cases clause.render? <;> rfl

end Clause

end AlertContacts
