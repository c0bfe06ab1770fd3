import AlertContacts.Proofs.Identifier
import AlertContacts.Service.Error
import Mathlib.Data.List.Forall2

/-!
# The grammar of statements

The sentences of the five statements on notification contacts, as sequences of symbols:

```text
CREATE [OR REPLACE] NOTIFICATION CONTACT [IF NOT EXISTS] <name> EMAIL = '<email>' [COMMENT = '<comment>']
ALTER NOTIFICATION CONTACT [IF EXISTS] <name> { SET ... | UNSET ... | RENAME TO <new_name> }
DROP NOTIFICATION CONTACT [IF EXISTS] <name>
SHOW NOTIFICATION CONTACTS [LIKE '<pattern>']
DESCRIBE NOTIFICATION CONTACT <name>
```

A symbol is a keyword, the sign `=`, a name or a text that the user supplied. The text of a statement
is the text of its symbols with single spaces between them (`Statement.sql_eq`), and every symbol is
read as one lexeme (`Symbol.standsAlone`). So the lexer finds the sentence again, and a name or a
text never reaches beyond its own lexeme, whatever characters it has
(`Statement.sql_reads_as_sentence`).
-/

namespace AlertContacts

open Sql

inductive Keyword where
  | create | alter | drop | «show» | describe
  | or | replace | notification | contact | contacts | «if» | not | «exists»
  | email | comment | set | unset | rename | to | like
  deriving DecidableEq, Repr

def Keyword.text : Keyword → String
  | .create => "CREATE"
  | .alter => "ALTER"
  | .drop => "DROP"
  | .show => "SHOW"
  | .describe => "DESCRIBE"
  | .or => "OR"
  | .replace => "REPLACE"
  | .notification => "NOTIFICATION"
  | .contact => "CONTACT"
  | .contacts => "CONTACTS"
  | .if => "IF"
  | .not => "NOT"
  | .exists => "EXISTS"
  | .email => "EMAIL"
  | .comment => "COMMENT"
  | .set => "SET"
  | .unset => "UNSET"
  | .rename => "RENAME"
  | .to => "TO"
  | .like => "LIKE"

inductive Symbol where
  | keyword (word : Keyword)
  | equals
  | name (identifier : Identifier)
  | literal (content : String)
  deriving DecidableEq, Repr

namespace Symbol

def text : Symbol → String
  | .keyword word => word.text
  | .equals => "="
  | .name identifier => identifier.sql
  | .literal content => quoteString content

/--
Whether a lexeme is a symbol: it has the symbol's text, and it is read as that keyword or sign, as a
name that resolves to exactly the bare name, or as a literal with exactly the given content.
-/
def IsReadAs (symbol : Symbol) (lexeme : Lexeme) : Prop :=
  lexeme.text = symbol.text.toList ∧
    match symbol with
    | .keyword word => lexeme.token = .word word.text.toList
    | .equals => lexeme.token = .equals
    | .name identifier => lexeme.token.name? = some identifier.name.toList
    | .literal content => lexeme.token = .literal content.toList

end Symbol

/-! ### Sentences -/

def keywordsIf (present : Bool) (keywords : List Keyword) : List Symbol :=
  if present then keywords.map .keyword else []

def assignment (keyword : Keyword) : Option String → List Symbol
  | none => []
  | some value => [.keyword keyword, .equals, .literal value]

def contactObject : List Symbol :=
  [.keyword .notification, .keyword .contact]

def CreateContact.sentence (create : CreateContact) : List Symbol :=
  List.flatten
    [[.keyword .create], keywordsIf create.orReplace [.or, .replace], contactObject,
     keywordsIf create.ifNotExists [.if, .not, .exists], [.name create.name],
     assignment .email (some create.email), assignment .comment create.comment]

def SetProperties.sentence (set : SetProperties) : List Symbol :=
  .keyword .set :: (assignment .email set.email ++ assignment .comment set.comment)

def UnsetProperties.sentence (unset : UnsetProperties) : List Symbol :=
  .keyword .unset :: keywordsIf unset.comment [.comment]

def AlterContact.action (alter : AlterContact) : List Symbol :=
  match alter.set, alter.unset, alter.renameTo with
  | some set, none, none => set.sentence
  | none, some unset, none => unset.sentence
  | none, none, some target => [.keyword .rename, .keyword .to, .name target]
  | _, _, _ => []

def AlterContact.sentence (alter : AlterContact) : List Symbol :=
  List.flatten
    [[.keyword .alter], contactObject, keywordsIf alter.ifExists [.if, .exists], [.name alter.name],
     alter.action]

def DropContact.sentence (drop : DropContact) : List Symbol :=
  List.flatten
    [[.keyword .drop], contactObject, keywordsIf drop.ifExists [.if, .exists], [.name drop.name]]

def ShowContacts.sentence (listing : ShowContacts) : List Symbol :=
  List.flatten
    [[.keyword .show], [.keyword .notification, .keyword .contacts],
     listing.like.elim [] fun filter => [.keyword .like, .literal filter.pattern]]

def DescribeContact.sentence (describe : DescribeContact) : List Symbol :=
  List.flatten [[.keyword .describe], contactObject, [.name describe.name]]

/-- The sentence of the grammar that a statement asks for. -/
def Statement.sentence : Statement → List Symbol
  | .create options => options.sentence
  | .alter options => options.sentence
  | .drop options => options.sentence
  | .list options => options.sentence
  | .describe options => options.sentence

/-! ### Symbols as lexemes -/

theorem Keyword.isWord_text (keyword : Keyword) : IsWord keyword.text.toList := by
  cases keyword <;> decide

namespace Symbol

def token : Symbol → Token
  | .keyword word => .word word.text.toList
  | .equals => .equals
  | .name identifier =>
    if Identifier.isBare identifier.name.toList then .word identifier.name.toList
    else .quoted identifier.name.toList
  | .literal content => .literal content.toList

def lexeme (symbol : Symbol) : Lexeme :=
  ⟨symbol.text.toList, symbol.token⟩

/-- Every symbol is read as the lexeme that belongs to it. -/
theorem isReadAs_lexeme (symbol : Symbol) : symbol.IsReadAs symbol.lexeme := by
  refine ⟨rfl, ?_⟩
  cases symbol with
  | keyword word => rfl
  | equals => rfl
  | literal content => rfl
  | name identifier =>
      simp only [lexeme, token]
      split
      · rename_i bare
        -- A bare name has no small letter, so it is the same in upper case.
        have upper : identifier.name.toList.map Char.toUpper = identifier.name.toList := by
          conv_rhs => rw [← List.map_id identifier.name.toList]
          apply List.map_congr_left
          intro char member
          exact Identifier.toUpper_of_continuesBare
            (Identifier.continuesBare_of_isBare bare member)
        rw [Token.name?, upper]
      · rfl

/-- The lexeme of a symbol stands alone, whatever characters the symbol has. -/
theorem standsAlone (symbol : Symbol) : symbol.lexeme.StandsAlone := by
  cases symbol with
  | keyword word => exact standsAlone_word word.isWord_text
  | equals => exact standsAlone_equals
  | literal content =>
      have written : lexeme (.literal content) =
          ⟨Text.literal content.toList, .literal content.toList⟩ := by
        simp [lexeme, text, token, quoteString]
      rw [written]
      exact standsAlone_literal content.toList
  | name identifier =>
      by_cases bare : Identifier.isBare identifier.name.toList = true
      · have written : lexeme (.name identifier) =
            ⟨identifier.name.toList, .word identifier.name.toList⟩ := by
          simp [lexeme, text, token, Identifier.sql, Identifier.sqlChars, bare]
        rw [written]
        exact standsAlone_word (Identifier.isWord_of_isBare bare)
      · have written : lexeme (.name identifier) =
            ⟨Text.quotedName identifier.name.toList, .quoted identifier.name.toList⟩ := by
          simp [lexeme, text, token, Identifier.sql, Identifier.sqlChars, bare]
        rw [written]
        exact standsAlone_quotedName identifier.name.toList

end Symbol

/-! ### Statements as sentences -/

def sentenceText (symbols : List Symbol) : String :=
  " ".intercalate (symbols.map Symbol.text)

theorem sentenceText_singleton (symbol : Symbol) : sentenceText [symbol] = symbol.text := by
  rw [sentenceText, List.map_singleton, String.intercalate_singleton]

theorem sentenceText_cons_cons (first second : Symbol) (others : List Symbol) :
    sentenceText (first :: second :: others) =
      first.text ++ " " ++ sentenceText (second :: others) := by
  rw [sentenceText, List.map_cons, List.map_cons, String.intercalate_cons_cons, sentenceText,
    List.map_cons]

/-- Two sentences that are not empty are written with one space between them. -/
theorem sentenceText_append {first second : List Symbol} (firstNonempty : first ≠ [])
    (secondNonempty : second ≠ []) :
    sentenceText (first ++ second) = sentenceText first ++ " " ++ sentenceText second := by
  rw [sentenceText, List.map_append]
  apply String.intercalate_append_of_ne_nil
  · simpa using firstNonempty
  · simpa using secondNonempty

namespace Clause

/-- A clause spells some symbols: it is present if there are any, and has their text. -/
def Spells (clause : Clause) (symbols : List Symbol) : Prop :=
  clause.render? = if symbols = [] then none else some (sentenceText symbols)

/-- Clauses that spell some symbols each spell them together; absent clauses add no space. -/
theorem renderPresent_of_spells {clauses : List Clause} {parts : List (List Symbol)}
    (spells : List.Forall₂ Spells clauses parts) :
    (renderPresent clauses = [] ↔ parts.flatten = []) ∧
      " ".intercalate (renderPresent clauses) = sentenceText parts.flatten := by
  induction spells with
  | nil => simp [renderPresent, sentenceText]
  | @cons clause symbols clauses parts first others ih =>
      rcases ih with ⟨sameEmpty, sameText⟩
      rw [Spells] at first
      by_cases absent : symbols = []
      · rw [if_pos absent] at first
        rw [renderPresent, first, absent, List.flatten_cons, List.nil_append]
        exact ⟨sameEmpty, sameText⟩
      · rw [if_neg absent] at first
        rw [renderPresent, first]
        refine ⟨by simp [absent], ?_⟩
        -- Both sides put a separator behind this text only if some text follows.
        by_cases last : parts.flatten = []
        · simp [sameEmpty.2 last, last]
        · have more := fun none => last (sameEmpty.1 none)
          rw [String.intercalate_cons_of_ne_nil more, sameText, List.flatten_cons,
            sentenceText_append absent last]

/-- A statement whose clauses spell its symbols has the text of its sentence. -/
theorem render_of_spells {clauses : List Clause} {parts : List (List Symbol)}
    (spells : List.Forall₂ Spells clauses parts) : render clauses = sentenceText parts.flatten :=
  (renderPresent_of_spells spells).2

theorem spells_fixed {sql : String} {symbols : List Symbol} (nonempty : symbols ≠ [])
    (text : sql = sentenceText symbols) : (Clause.fixed sql).Spells symbols := by
  rw [Spells, if_neg nonempty, render?, text]

theorem spells_keyword {sql : String} {keywords : List Keyword} (nonempty : keywords ≠ [])
    (text : sql = sentenceText (keywords.map .keyword)) (present : Bool) :
    (Clause.keyword sql present).Spells (keywordsIf present keywords) := by
  cases present with
  | false => rfl
  | true => simp [Spells, render?, keywordsIf, nonempty, text]

theorem spells_name (identifier : Identifier) :
    (Clause.name identifier).Spells [.name identifier] := by
  rw [Spells, if_neg (by simp), sentenceText_singleton]
  rfl

theorem spells_parameter (keyword : Keyword) (value : Option String) :
    (Clause.parameter keyword.text value).Spells (assignment keyword value) := by
  cases value with
  | none => rfl
  | some value =>
      have sign : " = " = " " ++ "=" ++ " " := by decide
      rw [Spells, assignment, if_neg (by simp), sentenceText_cons_cons, sentenceText_cons_cons,
        sentenceText_singleton, render?, sign]
      simp only [Option.map_some, Symbol.text, String.append_assoc]

theorem spells_like (filter : Option Like) :
    (Clause.like filter).Spells
      (filter.elim [] fun filter => [.keyword .like, .literal filter.pattern]) := by
  cases filter with
  | none => rfl
  | some filter =>
      have word : "LIKE " = "LIKE" ++ " " := by decide
      rw [Spells, Option.elim_some, if_neg (by simp), sentenceText_cons_cons,
        sentenceText_singleton, render?, word]
      rfl

theorem spells_renameTo (target : Option Identifier) :
    (Clause.identifier (some "RENAME TO") target).Spells
      (target.elim [] fun target => [.keyword .rename, .keyword .to, .name target]) := by
  cases target with
  | none => rfl
  | some target =>
      have words : "RENAME TO" = "RENAME" ++ " " ++ "TO" := by decide
      rw [Spells, Option.elim_some, if_neg (by simp), sentenceText_cons_cons,
        sentenceText_cons_cons, sentenceText_singleton, render?, words]
      simp only [Option.map_some, Symbol.text, Keyword.text, String.append_assoc]

/-- A group spells its keyword in front of what its clauses spell. -/
theorem spells_group (keyword : Keyword) {clauses : List Clause} {parts : List (List Symbol)}
    (spells : List.Forall₂ Spells clauses parts) :
    (Clause.group keyword.text (some clauses) " ").Spells (.keyword keyword :: parts.flatten) := by
  rcases renderPresent_of_spells spells with ⟨sameEmpty, sameText⟩
  rw [Spells, if_neg (by simp), render?]
  by_cases empty : parts.flatten = []
  · rw [sameEmpty.2 empty, empty, sentenceText_singleton]
    rfl
  · rw [← List.singleton_append, sentenceText_append (by simp) empty, ← sameText,
      sentenceText_singleton]
    cases present : renderPresent clauses with
    | nil => exact absurd (sameEmpty.1 present) empty
    | cons text texts => rfl

theorem spells_set (set : Option SetProperties) :
    (Clause.group "SET" (set.map SetProperties.clauses) " ").Spells
      (set.elim [] SetProperties.sentence) := by
  cases set with
  | none => rfl
  | some set =>
      have group : (Clause.group "SET" (some set.clauses) " ").Spells
          (.keyword .set :: [assignment .email set.email, assignment .comment set.comment].flatten) :=
        spells_group .set (.cons (spells_parameter .email set.email)
          (.cons (spells_parameter .comment set.comment) .nil))
      simpa [SetProperties.sentence] using group

/-- The separator of a group with one clause is never written. -/
theorem spells_unset (unset : Option UnsetProperties) :
    (Clause.group "UNSET" (unset.map UnsetProperties.clauses) ", ").Spells
      (unset.elim [] UnsetProperties.sentence) := by
  rcases unset with _ | ⟨⟨_ | _⟩⟩
  · rfl
  · rfl
  · rfl

end Clause

open Clause

theorem CreateContact.render_clauses (create : CreateContact) :
    Clause.render create.clauses = sentenceText create.sentence := by
  apply render_of_spells
  refine .cons (spells_fixed (by simp) (by decide)) ?_
  refine .cons (spells_keyword (by simp) (by decide) _) ?_
  refine .cons (spells_fixed (by simp [contactObject]) (by decide)) ?_
  refine .cons (spells_keyword (by simp) (by decide) _) ?_
  refine .cons (spells_name _) ?_
  refine .cons (spells_parameter .email _) ?_
  exact .cons (spells_parameter .comment _) .nil

namespace AlterContact

/-- Of the three alternatives only the one that the options take has symbols. -/
theorem action_eq {alter : AlterContact} (valid : alter.violations = []) :
    alter.action =
      alter.set.elim [] SetProperties.sentence ++ alter.unset.elim [] UnsetProperties.sentence ++
        alter.renameTo.elim [] fun target => [.keyword .rename, .keyword .to, .name target] := by
  have one : exactlyOne [alter.set.isSome, alter.unset.isSome, alter.renameTo.isSome] = true := by
    simp only [violations, List.append_eq_nil_iff, Violation.unless_eq_nil_iff] at valid
    exact valid.1.1.1.2
  rcases alter with ⟨name, ifExists, _ | set, _ | unset, _ | target⟩ <;>
    simp [exactlyOne] at one <;> simp [action]

/-- An alteration that breaks no rule is written as its sentence. -/
theorem render_clauses {alter : AlterContact} (valid : alter.violations = []) :
    Clause.render alter.clauses = sentenceText alter.sentence := by
  have parts : alter.sentence = List.flatten
      [[.keyword .alter], contactObject, keywordsIf alter.ifExists [.if, .exists],
       [.name alter.name], alter.set.elim [] SetProperties.sentence,
       alter.unset.elim [] UnsetProperties.sentence,
       alter.renameTo.elim [] fun target => [.keyword .rename, .keyword .to, .name target]] := by
    simp [sentence, action_eq valid]
  rw [parts]
  apply render_of_spells
  refine .cons (spells_fixed (by simp) (by decide)) ?_
  refine .cons (spells_fixed (by simp [contactObject]) (by decide)) ?_
  refine .cons (spells_keyword (by simp) (by decide) _) ?_
  refine .cons (spells_name _) ?_
  refine .cons (spells_set _) ?_
  refine .cons (spells_unset _) ?_
  exact .cons (spells_renameTo _) .nil

end AlterContact

theorem DropContact.render_clauses (drop : DropContact) :
    Clause.render drop.clauses = sentenceText drop.sentence := by
  apply render_of_spells
  refine .cons (spells_fixed (by simp) (by decide)) ?_
  refine .cons (spells_fixed (by simp [contactObject]) (by decide)) ?_
  refine .cons (spells_keyword (by simp) (by decide) _) ?_
  exact .cons (spells_name _) .nil

theorem ShowContacts.render_clauses (listing : ShowContacts) :
    Clause.render listing.clauses = sentenceText listing.sentence := by
  apply render_of_spells
  refine .cons (spells_fixed (by simp) (by decide)) ?_
  refine .cons (spells_fixed (by simp) (by decide)) ?_
  exact .cons (spells_like _) .nil

theorem DescribeContact.render_clauses (describe : DescribeContact) :
    Clause.render describe.clauses = sentenceText describe.sentence := by
  apply render_of_spells
  refine .cons (spells_fixed (by simp) (by decide)) ?_
  refine .cons (spells_fixed (by simp [contactObject]) (by decide)) ?_
  exact .cons (spells_name _) .nil

namespace Statement

/-- The text of a statement that breaks no rule is that of its sentence. -/
theorem sql_eq {statement : Statement} (valid : statement.violations = []) :
    statement.sql = sentenceText statement.sentence := by
  cases statement with
  | create options => exact options.render_clauses
  | alter options => exact options.render_clauses valid
  | drop options => exact options.render_clauses
  | list options => exact options.render_clauses
  | describe options => exact options.render_clauses

/-- A statement that breaks no rule passes the check in front of its text. -/
theorem checkedSql_of_valid {statement : Statement} (valid : statement.violations = []) :
    statement.checkedSql = .ok statement.sql := by
  rw [checkedSql, valid]
  rfl

/-- The text of a statement is that of its lexemes, with single spaces between them. -/
theorem toList_sql {statement : Statement} (valid : statement.violations = []) :
    statement.sql.toList =
      [' '].intercalate ((statement.sentence.map Symbol.lexeme).map Lexeme.text) := by
  have space : " ".toList = [' '] := by decide
  rw [sql_eq valid, sentenceText, String.toList_intercalate, space, List.map_map, List.map_map]
  rfl

/-- The lexer finds the lexemes of the sentence in the text of a statement, and nothing else. -/
theorem lex_sql {statement : Statement} (valid : statement.violations = []) :
    lex statement.sql.toList = some (statement.sentence.map Symbol.lexeme) := by
  rw [toList_sql valid]
  apply lex_intercalate
  intro lexeme member
  rcases List.mem_map.1 member with ⟨symbol, -, rfl⟩
  exact symbol.standsAlone

/-- Statements that differ in a lexeme differ in their text. -/
theorem sql_ne_of_lexeme_ne {first second : Statement} (firstValid : first.violations = [])
    (secondValid : second.violations = []) (index : Nat)
    (different : (first.sentence.map Symbol.lexeme)[index]? ≠
      (second.sentence.map Symbol.lexeme)[index]?) : first.sql ≠ second.sql := by
  intro same
  have firstLexed := lex_sql firstValid
  rw [same, lex_sql secondValid, Option.some.injEq] at firstLexed
  exact different (by rw [firstLexed])

/--
The text of every statement that breaks no rule is read without error, lexeme by lexeme, as the
sentence of the grammar that the statement asks for. Between the lexemes there are single spaces and
nothing else, so every character of a name or of a text is inside its own lexeme.
-/
theorem sql_reads_as_sentence (statement : Statement) (valid : statement.violations = []) :
    ∃ sql lexemes, renderGiven (some statement) = .ok sql ∧ lex sql.toList = some lexemes ∧
      List.Forall₂ Symbol.IsReadAs statement.sentence lexemes ∧
      sql.toList = [' '].intercalate (lexemes.map Lexeme.text) := by
  refine ⟨statement.sql, statement.sentence.map Symbol.lexeme, checkedSql_of_valid valid,
    lex_sql valid, ?_, toList_sql valid⟩
  rw [List.forall₂_map_right_iff, List.forall₂_same]
  intro symbol _
  exact symbol.isReadAs_lexeme

theorem sql_reads_as_sentence_hostile :
    let statement : Statement := .create
      { name := ⟨"OPS\" EMAIL = 'x"⟩, email := "it's \\' COMMENT = '", comment := some "\\" }
    statement.violations = [] ∧
      ∃ sql lexemes, renderGiven (some statement) = .ok sql ∧ lex sql.toList = some lexemes ∧
        List.Forall₂ Symbol.IsReadAs statement.sentence lexemes ∧
        sql.toList = [' '].intercalate (lexemes.map Lexeme.text) :=
  ⟨by decide, sql_reads_as_sentence _ (by decide)⟩

end Statement

end AlertContacts
