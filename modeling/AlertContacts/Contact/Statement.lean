import AlertContacts.Contact.Violation
import AlertContacts.Sql.Clause

/-!
# Statements

The five statements on notification contacts and the options of each.

```text
CREATE [OR REPLACE] NOTIFICATION CONTACT [IF NOT EXISTS] <name> EMAIL = '<email>' [COMMENT = '<comment>']
ALTER NOTIFICATION CONTACT [IF EXISTS] <name> { SET ... | UNSET ... | RENAME TO <new_name> }
DROP NOTIFICATION CONTACT [IF EXISTS] <name>
SHOW NOTIFICATION CONTACTS [LIKE '<pattern>']
DESCRIBE NOTIFICATION CONTACT <name>
```

The options of a statement list its clauses in the order of the grammar, and the structural rules
they break. The rules make the difference: options that break none render to a statement of the
grammar, while an empty `SET` or two actions at once would render as well.
-/

namespace AlertContacts

def objectKeyword : String := "NOTIFICATION CONTACT"

structure CreateContact where
  name : Identifier
  email : String
  orReplace : Bool := false
  ifNotExists : Bool := false
  comment : Option String := none
  deriving DecidableEq, Repr

structure SetProperties where
  email : Option String := none
  comment : Option String := none
  deriving DecidableEq, Repr

structure UnsetProperties where
  comment : Bool := false
  deriving DecidableEq, Repr

/-- The options of `ALTER`, which takes exactly one of set, unset and rename. -/
structure AlterContact where
  name : Identifier
  ifExists : Bool := false
  set : Option SetProperties := none
  unset : Option UnsetProperties := none
  renameTo : Option Identifier := none
  deriving DecidableEq, Repr

structure DropContact where
  name : Identifier
  ifExists : Bool := false
  deriving DecidableEq, Repr

structure ShowContacts where
  like : Option Like := none
  deriving DecidableEq, Repr

structure DescribeContact where
  name : Identifier
  deriving DecidableEq, Repr

namespace CreateContact

def clauses (create : CreateContact) : List Clause :=
  [.fixed "CREATE", .keyword "OR REPLACE" create.orReplace, .fixed objectKeyword,
   .keyword "IF NOT EXISTS" create.ifNotExists, .name create.name,
   .parameter "EMAIL" (some create.email), .parameter "COMMENT" create.comment]

def violations (create : CreateContact) : List Violation :=
  Violation.unless create.name.isValid (.invalidIdentifier "CreateContactOptions" "name") ++
  Violation.unless (!everySet [create.ifNotExists, create.orReplace])
    (.conflictingFields "CreateContactOptions" ["IfNotExists", "OrReplace"])

end CreateContact

namespace SetProperties

def clauses (set : SetProperties) : List Clause :=
  [.parameter "EMAIL" set.email, .parameter "COMMENT" set.comment]

def violations (set : SetProperties) : List Violation :=
  Violation.unless (anySet [set.email.isSome, set.comment.isSome])
    (.atLeastOneOf "AlterContactOptions.Set" ["Email", "Comment"])

end SetProperties

namespace UnsetProperties

def clauses (unset : UnsetProperties) : List Clause :=
  [.keyword "COMMENT" unset.comment]

def violations (unset : UnsetProperties) : List Violation :=
  Violation.unless (anySet [unset.comment]) (.atLeastOneOf "AlterContactOptions.Unset" ["Comment"])

end UnsetProperties

namespace AlterContact

def clauses (alter : AlterContact) : List Clause :=
  [.fixed "ALTER", .fixed objectKeyword, .keyword "IF EXISTS" alter.ifExists, .name alter.name,
   .group "SET" (alter.set.map SetProperties.clauses) " ",
   .group "UNSET" (alter.unset.map UnsetProperties.clauses) ", ",
   .identifier (some "RENAME TO") alter.renameTo]

def violations (alter : AlterContact) : List Violation :=
  Violation.unless alter.name.isValid (.invalidIdentifier "AlterContactOptions" "name") ++
  Violation.unless (exactlyOne [alter.set.isSome, alter.unset.isSome, alter.renameTo.isSome])
    (.exactlyOneOf "AlterContactOptions" ["Set", "Unset", "RenameTo"]) ++
  (alter.renameTo.elim [] fun target =>
    Violation.unless target.isValid (.invalidIdentifier "AlterContactOptions" "RenameTo")) ++
  alter.set.elim [] SetProperties.violations ++
  alter.unset.elim [] UnsetProperties.violations

end AlterContact

namespace DropContact

def clauses (drop : DropContact) : List Clause :=
  [.fixed "DROP", .fixed objectKeyword, .keyword "IF EXISTS" drop.ifExists, .name drop.name]

def violations (drop : DropContact) : List Violation :=
  Violation.unless drop.name.isValid (.invalidIdentifier "DropContactOptions" "name")

end DropContact

namespace ShowContacts

def clauses (listing : ShowContacts) : List Clause :=
  [.fixed "SHOW", .fixed "NOTIFICATION CONTACTS", .like listing.like]

end ShowContacts

namespace DescribeContact

def clauses (describe : DescribeContact) : List Clause :=
  [.fixed "DESCRIBE", .fixed objectKeyword, .name describe.name]

def violations (describe : DescribeContact) : List Violation :=
  Violation.unless describe.name.isValid (.invalidIdentifier "DescribeContactOptions" "name")

end DescribeContact

inductive Statement where
  | create (options : CreateContact)
  | alter (options : AlterContact)
  | drop (options : DropContact)
  | list (options : ShowContacts)
  | describe (options : DescribeContact)
  deriving DecidableEq, Repr

namespace Statement

def clauses : Statement → List Clause
  | .create options => options.clauses
  | .alter options => options.clauses
  | .drop options => options.clauses
  | .list options => options.clauses
  | .describe options => options.clauses

/-- The rules that a statement breaks, in the order they are checked. -/
def violations : Statement → List Violation
  | .create options => options.violations
  | .alter options => options.violations
  | .drop options => options.violations
  | .list _ => []
  | .describe options => options.violations

/-- The text of a statement, whether or not it breaks a rule. -/
def sql (statement : Statement) : String :=
  Clause.render statement.clauses

end Statement

end AlertContacts
