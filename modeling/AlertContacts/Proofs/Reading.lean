import AlertContacts.Proofs.Grammar

/-!
# Reading names and statements back

A platform learns what is asked of it from the text of a statement alone. `Identifier.resolve?` is the
name that a text stands for under the rules of SQL, and `Statement.ofSql?` is the statement that a text
writes: it reads the lexemes of the text from left to right, along the grammar.

A word may be a keyword or a name, so an optional clause in front of a name is taken only if its
keywords are there one behind the other. That decides rightly, because a name is never followed by the
second keyword of such a clause: `DROP NOTIFICATION CONTACT IF` drops the contact `IF`, and `IF EXISTS`
is the clause. So a statement that breaks no rule is read back as it was meant (`Statement.ofSql?_sql`),
and no two of them have the same text (`Statement.sql_eq_sql_iff`).
-/

namespace AlertContacts

open Sql

/-! ### Names -/

namespace Identifier

/-- The name that an SQL form stands for: its only lexeme, in upper case unless it is quoted. -/
def resolve? (text : String) : Option String := do
  match ← lex text.toList with
  | [lexeme] => lexeme.token.name?.map String.ofList
  | _ => none

/-- The SQL form of a name is one lexeme. -/
theorem lex_sql (identifier : Identifier) :
    lex identifier.sql.toList = some [Symbol.lexeme (.name identifier)] := by
  have alone : ∀ lexeme ∈ [Symbol.lexeme (.name identifier)], lexeme.StandsAlone := by
    intro lexeme member
    rw [List.mem_singleton.1 member]
    exact Symbol.standsAlone _
  have lexed := lex_intercalate alone
  rw [List.map_singleton, List.intercalate_singleton] at lexed
  exact lexed

theorem name?_token (identifier : Identifier) :
    (Symbol.token (.name identifier)).name? = some identifier.name.toList :=
  (Symbol.isReadAs_lexeme (.name identifier)).2

/-- Under the rules of SQL the form of a name stands for exactly that name. -/
theorem resolve?_sql (identifier : Identifier) : resolve? identifier.sql = some identifier.name := by
  rw [resolve?, lex_sql]
  simp [Symbol.lexeme, name?_token]

/-- No two names have the same SQL form. -/
theorem sql_injective : Function.Injective sql := by
  intro first second same
  have resolved := resolve?_sql first
  rw [same, resolve?_sql second, Option.some.injEq] at resolved
  rcases first with ⟨name⟩
  cases resolved
  rfl

/--
The SQL form of a name is read back as the name, by the provider and under the rules of SQL, and no
other name has the same form. Only the empty name has a form that the provider refuses to read.
-/
theorem sql_reads_back :
    (∀ identifier : Identifier, parse identifier.sql =
        if identifier.name = "" then .error .empty else .ok identifier) ∧
      Function.Injective sql ∧
        ∀ identifier : Identifier, resolve? identifier.sql = some identifier.name := by
  refine ⟨?_, sql_injective, resolve?_sql⟩
  intro identifier
  split
  · rename_i empty
    rcases identifier with ⟨name⟩
    cases empty
    rfl
  · rename_i nonempty
    exact parse_sql nonempty

end Identifier

/-! ### Reading along the grammar -/

def Keyword.all : List Keyword :=
  [.create, .alter, .drop, .show, .describe, .or, .replace, .notification, .contact, .contacts, .if,
   .not, .exists, .email, .comment, .set, .unset, .rename, .to, .like]

namespace Sql

/-- The keyword that a word is, in whatever case it is written. -/
def Token.keyword? : Token → Option Keyword
  | .word text => Keyword.all.find? fun keyword => keyword.text.toList = text.map Char.toUpper
  | _ => none

def Token.literal? : Token → Option (List Char)
  | .literal content => some content
  | _ => none

/-- Reads something from the first tokens of a statement, and leaves the others. -/
abbrev Reader := StateT (List Token) Option

namespace Reader

variable {α : Type}

def token (meaning? : Token → Option α) : Reader α
  | [] => none
  | token :: rest => (meaning? token).map (·, rest)

def equals : Reader Unit :=
  token fun token => if token = .equals then some () else none

def keyword (word : Keyword) : Reader Unit :=
  token fun token => if token.keyword? = some word then some () else none

def keywords : List Keyword → Reader Unit
  | [] => pure ()
  | word :: words => do
    keyword word
    keywords words

def name : Reader Identifier :=
  token fun token => token.name?.map fun name => ⟨String.ofList name⟩

def literal : Reader String :=
  token fun token => token.literal?.map String.ofList

def parameter (word : Keyword) : Reader String := do
  keyword word
  equals
  literal

/-- Whether keywords are there one behind the other, which are then taken. -/
def present (words : List Keyword) : Reader Bool :=
  Option.isSome <$> optional (keywords words)

end Reader

end Sql

open Reader

def contactWords : List Keyword :=
  [.notification, .contact]

def CreateContact.reader : Reader CreateContact := do
  keyword .create
  let orReplace ← present [.or, .replace]
  keywords contactWords
  let ifNotExists ← present [.if, .not, .exists]
  let name ← Reader.name
  let email ← parameter .email
  let comment ← optional (parameter .comment)
  return { name, email, orReplace, ifNotExists, comment }

def SetProperties.reader : Reader SetProperties := do
  keyword .set
  let email ← optional (parameter .email)
  let comment ← optional (parameter .comment)
  return { email, comment }

def UnsetProperties.reader : Reader UnsetProperties := do
  keyword .unset
  let comment ← present [.comment]
  return { comment }

def Identifier.targetReader : Reader Identifier := do
  keyword .rename
  keyword .to
  Reader.name

/-- What is asked for behind the name of a contact: to set, to unset or to rename. -/
def AlterContact.actionReader (name : Identifier) (ifExists : Bool) : Reader AlterContact :=
  (fun set => { name, ifExists, set := some set }) <$> SetProperties.reader <|>
    (fun unset => { name, ifExists, unset := some unset }) <$> UnsetProperties.reader <|>
      (fun target => { name, ifExists, renameTo := some target }) <$> Identifier.targetReader

def AlterContact.reader : Reader AlterContact := do
  keyword .alter
  keywords contactWords
  let ifExists ← present [.if, .exists]
  let name ← Reader.name
  actionReader name ifExists

def DropContact.reader : Reader DropContact := do
  keyword .drop
  keywords contactWords
  let ifExists ← present [.if, .exists]
  let name ← Reader.name
  return { name, ifExists }

def Like.reader : Reader Like := do
  keyword .like
  let pattern ← literal
  return { pattern }

def ShowContacts.reader : Reader ShowContacts := do
  keyword .show
  keywords [.notification, .contacts]
  let like ← optional Like.reader
  return { like }

def DescribeContact.reader : Reader DescribeContact := do
  keyword .describe
  keywords contactWords
  let name ← Reader.name
  return { name }

namespace Statement

def reader : Reader Statement :=
  .create <$> CreateContact.reader <|> .alter <$> AlterContact.reader <|>
    .drop <$> DropContact.reader <|> .list <$> ShowContacts.reader <|>
      .describe <$> DescribeContact.reader

/-- The statement that a text writes, if it writes one and nothing else. -/
def ofSql? (sql : String) : Option Statement := do
  let lexemes ← lex sql.toList
  match ← reader.run (lexemes.map Lexeme.token) with
  | (statement, []) => some statement
  | _ => none

end Statement

/-! ### What the readers take -/

namespace Sql

theorem Token.keyword?_keyword (word : Keyword) :
    (Symbol.token (.keyword word)).keyword? = some word := by
  cases word <;> decide

namespace Reader

variable {α β : Type} {symbols : List Symbol} {others : List (List Symbol)} {value : α}
  {tokens rest : List Token} {word : Keyword} {words : List Keyword}

/-- A reader takes some symbols for a value, and leaves what comes behind them. -/
def Takes (reader : Reader α) (symbols : List Symbol) (value : α) (rest : List Token) : Prop :=
  reader.run (symbols.map Symbol.token ++ rest) = some (value, rest)

def Refuses (reader : Reader α) (tokens : List Token) : Prop :=
  reader.run tokens = none

section Takes

variable {first second reader : Reader α} {next : α → Reader β} {result : β}

theorem takes_pure (value : α) (rest : List Token) :
    (pure value : Reader α).Takes [].flatten value rest := rfl

/-- A reader that goes on behind another one takes what both of them take, one behind the other. -/
theorem Takes.bind (takes : first.Takes symbols value (others.flatten.map Symbol.token ++ rest))
    (continues : (next value).Takes others.flatten result rest) :
    (first >>= next).Takes (symbols :: others).flatten result rest := by
  rw [Takes] at takes continues
  rw [Takes, List.flatten_cons, List.map_append, List.append_assoc, StateT.run_bind, takes]
  exact continues

theorem Takes.map (takes : reader.Takes symbols value rest) (function : α → β) :
    (function <$> reader).Takes symbols (function value) rest := by
  rw [Takes] at takes
  rw [Takes, StateT.run_map, takes]
  rfl

/-- The first of two readers takes what it can, whatever the second would. -/
theorem Takes.orElse (takes : first.Takes symbols value rest) :
    (first <|> second).Takes symbols value rest := by
  rw [Takes] at takes
  change (first.run _ <|> second.run _) = _
  rw [takes]
  rfl

/-- Where the first of two readers refuses, the second one takes what it can. -/
theorem Takes.behind_refused (takes : second.Takes symbols value rest)
    (refused : first.Refuses (symbols.map Symbol.token ++ rest)) :
    (first <|> second).Takes symbols value rest := by
  rw [Refuses] at refused
  change (first.run _ <|> second.run _) = _
  rw [refused]
  exact takes

theorem Refuses.bind (refused : first.Refuses tokens) : (first >>= next).Refuses tokens := by
  rw [Refuses] at refused
  rw [Refuses, StateT.run_bind, refused]
  rfl

theorem Refuses.map (refused : first.Refuses tokens) (function : α → β) :
    (function <$> first).Refuses tokens := by
  rw [Refuses] at refused
  rw [Refuses, StateT.run_map, refused]
  rfl

/-- An optional part that is there is taken. -/
theorem Takes.optional (takes : reader.Takes symbols value rest) :
    (optional reader).Takes symbols (some value) rest :=
  (takes.map some).orElse

/-- An optional part that is not there is left out, and nothing is taken for it. -/
theorem Refuses.optional (refused : reader.Refuses rest) :
    (optional reader).Takes [] none rest :=
  Takes.behind_refused (takes_pure none rest) (refused.map some)

end Takes

/-! ### Tokens and keywords -/

theorem takes_keyword (word : Keyword) (rest : List Token) :
    (keyword word).Takes [.keyword word] () rest := by
  simp [Takes, keyword, token, StateT.run, Token.keyword?_keyword]

theorem takes_equals (rest : List Token) : equals.Takes [.equals] () rest := rfl

theorem takes_name (identifier : Identifier) (rest : List Token) :
    name.Takes [.name identifier] identifier rest := by
  simp [Takes, name, token, StateT.run, Identifier.name?_token]

theorem takes_literal (content : String) (rest : List Token) :
    literal.Takes [.literal content] content rest := by
  simp [Takes, literal, token, StateT.run, Token.literal?, Symbol.token]

theorem takes_keywords (words : List Keyword) (rest : List Token) :
    (keywords words).Takes (words.map .keyword) () rest := by
  induction words with
  | nil => rfl
  | cons word words ih =>
      have others : (keywords words).Takes [words.map .keyword].flatten () rest := by
        simpa using ih
      have all : (keywords (word :: words)).Takes [[.keyword word], words.map .keyword].flatten ()
          rest := (takes_keyword word _).bind others
      simpa using all

/-- A keyword is refused where something else comes next. -/
theorem refuses_keyword (behind : ∀ token ∈ tokens.head?, token.keyword? ≠ some word) :
    (keyword word).Refuses tokens := by
  cases tokens with
  | nil => rfl
  | cons token rest => simp [Refuses, keyword, Reader.token, StateT.run, behind token rfl]

/-- The second of two keywords tells them from a name that has the text of the first. -/
theorem refuses_keywords_of_second {first second : Keyword} {token : Token}
    (behind : ∀ next ∈ tokens.head?, next.keyword? ≠ some second) :
    (keywords (first :: second :: words)).Refuses (token :: tokens) := by
  by_cases same : token.keyword? = some first
  · have taken : (keyword first).run (token :: tokens) = some ((), tokens) := by
      simp [keyword, Reader.token, StateT.run, same]
    have refused : (keywords (second :: words)).Refuses tokens := (refuses_keyword behind).bind
    rw [Refuses, keywords, StateT.run_bind, taken]
    exact refused
  · apply Refuses.bind
    apply refuses_keyword
    simpa using same

/-- An optional clause is taken for whether it is there, as long as nothing looks like it where it is not. -/
theorem takes_present {flag : Bool} (absent : flag = false → (keywords words).Refuses rest) :
    (present words).Takes (keywordsIf flag words) flag rest := by
  cases flag with
  | true => exact (takes_keywords words rest).optional.map Option.isSome
  | false => exact (absent rfl).optional.map Option.isSome

theorem takes_parameter (word : Keyword) (value : String) (rest : List Token) :
    (parameter word).Takes (assignment word (some value)) value rest := by
  have taken : (parameter word).Takes [[.keyword word], [.equals], [.literal value]].flatten value
      rest := by
    refine (takes_keyword word _).bind ?_
    refine (takes_equals _).bind ?_
    exact takes_literal value rest
  exact taken

/-- A parameter that may be missing is taken, as long as its keyword does not follow for another reason. -/
theorem takes_optional_parameter {value : Option String}
    (behind : ∀ token ∈ rest.head?, token.keyword? ≠ some word) :
    (optional (parameter word)).Takes (assignment word value) value rest := by
  cases value with
  | none => exact (refuses_keyword behind).bind.optional
  | some value => exact (takes_parameter word value rest).optional

end Reader

end Sql

/-! ### What is read -/

section takes

variable {α β : Type} {rest : List Token}

theorem keyword?_ne_of_keyword {word other : Keyword} (different : word ≠ other) :
    ∀ token ∈ (Symbol.token (.keyword word) :: rest).head?, token.keyword? ≠ some other := by
  intro token first
  rw [List.head?_cons, Option.mem_some] at first
  rw [← first, Token.keyword?_keyword]
  simpa using different

/-- A reader of something that begins with a keyword leaves what begins with another one. -/
theorem refuses_other {word other : Keyword} {next : Unit → Reader α} (function : α → β)
    (different : word ≠ other) :
    (function <$> (keyword other >>= next)).Refuses (Symbol.token (.keyword word) :: rest) := by
  apply Refuses.map
  apply Refuses.bind
  exact refuses_keyword (keyword?_ne_of_keyword different)

theorem CreateContact.takes_reader (create : CreateContact) :
    CreateContact.reader.Takes create.sentence create [] := by
  refine (takes_keyword _ _).bind ?_
  refine (takes_present ?_).bind ?_
  · intro _
    exact (refuses_keyword (keyword?_ne_of_keyword (by decide))).bind
  refine (takes_keywords contactWords _).bind ?_
  refine (takes_present ?_).bind ?_
  · intro _
    exact refuses_keywords_of_second (keyword?_ne_of_keyword (by decide))
  refine (takes_name _ _).bind ?_
  refine (takes_parameter _ _ _).bind ?_
  refine (takes_optional_parameter ?_).bind ?_
  · simp
  exact takes_pure _ _

theorem DropContact.takes_reader (drop : DropContact) :
    DropContact.reader.Takes drop.sentence drop [] := by
  refine (takes_keyword _ _).bind ?_
  refine (takes_keywords contactWords _).bind ?_
  refine (takes_present ?_).bind ?_
  · intro _
    exact refuses_keywords_of_second (by simp)
  refine (takes_name _ _).bind ?_
  exact takes_pure _ _

theorem Like.takes_reader (filter : Like) :
    Like.reader.Takes [.keyword .like, .literal filter.pattern] filter rest := by
  have taken : Like.reader.Takes [[.keyword .like], [.literal filter.pattern]].flatten filter
      rest := by
    refine (takes_keyword _ _).bind ?_
    refine (takes_literal _ _).bind ?_
    exact takes_pure _ _
  exact taken

theorem takes_optional_like (filter : Option Like) :
    (optional Like.reader).Takes
      (filter.elim [] fun filter => [.keyword .like, .literal filter.pattern]) filter [] := by
  cases filter with
  | none => rfl
  | some filter => exact filter.takes_reader.optional

theorem ShowContacts.takes_reader (listing : ShowContacts) :
    ShowContacts.reader.Takes listing.sentence listing [] := by
  refine (takes_keyword _ _).bind ?_
  refine (takes_keywords [.notification, .contacts] _).bind ?_
  refine (takes_optional_like listing.like).bind ?_
  exact takes_pure _ _

theorem DescribeContact.takes_reader (describe : DescribeContact) :
    DescribeContact.reader.Takes describe.sentence describe [] := by
  refine (takes_keyword _ _).bind ?_
  refine (takes_keywords contactWords _).bind ?_
  refine (takes_name _ _).bind ?_
  exact takes_pure _ _

theorem SetProperties.takes_reader (set : SetProperties) :
    SetProperties.reader.Takes set.sentence set [] := by
  have parts : set.sentence = List.flatten
      [[.keyword .set], assignment .email set.email, assignment .comment set.comment] := by
    simp [sentence]
  rw [parts]
  refine (takes_keyword _ _).bind ?_
  refine (takes_optional_parameter ?_).bind ?_
  · cases set.comment with
    | none => simp [assignment]
    | some comment => exact keyword?_ne_of_keyword (by decide)
  refine (takes_optional_parameter ?_).bind ?_
  · simp
  exact takes_pure _ _

theorem UnsetProperties.takes_reader (unset : UnsetProperties) :
    UnsetProperties.reader.Takes unset.sentence unset [] := by
  have parts : unset.sentence = List.flatten
      [[.keyword .unset], keywordsIf unset.comment [.comment]] := by
    simp [sentence]
  rw [parts]
  refine (takes_keyword _ _).bind ?_
  refine (takes_present ?_).bind ?_
  · intro _
    rfl
  exact takes_pure _ _

theorem Identifier.takes_targetReader (target : Identifier) :
    targetReader.Takes [.keyword .rename, .keyword .to, .name target] target [] := by
  have taken : targetReader.Takes [[.keyword .rename], [.keyword .to], [.name target]].flatten
      target [] := by
    refine (takes_keyword _ _).bind ?_
    refine (takes_keyword _ _).bind ?_
    exact takes_name target []
  exact taken

namespace AlterContact

/-- An alteration that breaks no rule sets, unsets or renames, and does only one of these. -/
theorem cases_of_valid {alter : AlterContact} (valid : alter.violations = []) :
    (∃ set, alter = { name := alter.name, ifExists := alter.ifExists, set := some set }) ∨
      (∃ unset, alter = { name := alter.name, ifExists := alter.ifExists, unset := some unset }) ∨
        ∃ target,
          alter = { name := alter.name, ifExists := alter.ifExists, renameTo := some target } := by
  have one : exactlyOne [alter.set.isSome, alter.unset.isSome, alter.renameTo.isSome] = true := by
    simp only [violations, List.append_eq_nil_iff, Violation.unless_eq_nil_iff] at valid
    exact valid.1.1.1.2
  rcases alter with ⟨name, ifExists, _ | set, _ | unset, _ | target⟩ <;> simp [exactlyOne] at one
  · exact .inr (.inr ⟨target, rfl⟩)
  · exact .inr (.inl ⟨unset, rfl⟩)
  · exact .inl ⟨set, rfl⟩

/-- The first keyword of the action tells which of the three it is. -/
theorem takes_actionReader {alter : AlterContact} (valid : alter.violations = []) :
    (actionReader alter.name alter.ifExists).Takes [alter.action].flatten alter [] := by
  rw [List.flatten_singleton]
  rcases cases_of_valid valid with ⟨set, equal⟩ | ⟨unset, equal⟩ | ⟨target, equal⟩
  · rw [equal]
    exact (set.takes_reader.map _).orElse
  · rw [equal]
    refine Takes.behind_refused ?_ (refuses_other _ (by decide))
    exact (unset.takes_reader.map _).orElse
  · rw [equal]
    refine Takes.behind_refused ?_ (refuses_other _ (by decide))
    refine Takes.behind_refused ?_ (refuses_other _ (by decide))
    exact target.takes_targetReader.map _

/-- No action begins with the second keyword of the clause in front of the name. -/
theorem keyword?_action_ne {alter : AlterContact} (valid : alter.violations = []) :
    ∀ token ∈ (alter.action.map Symbol.token).head?, token.keyword? ≠ some .exists := by
  rcases cases_of_valid valid with ⟨set, equal⟩ | ⟨unset, equal⟩ | ⟨target, equal⟩
  · rw [equal]
    exact keyword?_ne_of_keyword (by decide)
  · rw [equal]
    exact keyword?_ne_of_keyword (by decide)
  · rw [equal]
    exact keyword?_ne_of_keyword (by decide)

/-- An alteration that breaks no rule is read from its sentence. -/
theorem takes_reader {alter : AlterContact} (valid : alter.violations = []) :
    reader.Takes alter.sentence alter [] := by
  refine (takes_keyword _ _).bind ?_
  refine (takes_keywords contactWords _).bind ?_
  refine (takes_present ?_).bind ?_
  · intro _
    apply refuses_keywords_of_second
    simpa using keyword?_action_ne valid
  refine (takes_name _ _).bind ?_
  exact takes_actionReader valid

end AlterContact

end takes

namespace Statement

/-- Every statement that breaks no rule is read from its sentence, and nothing is left of it. -/
theorem takes_reader {statement : Statement} (valid : statement.violations = []) :
    reader.Takes statement.sentence statement [] := by
  cases statement with
  | create options => exact (options.takes_reader.map _).orElse
  | alter options =>
      refine Takes.behind_refused ?_ (refuses_other _ (by decide))
      exact ((AlterContact.takes_reader valid).map _).orElse
  | drop options =>
      refine Takes.behind_refused ?_ (refuses_other _ (by decide))
      refine Takes.behind_refused ?_ (refuses_other _ (by decide))
      exact (options.takes_reader.map _).orElse
  | list options =>
      refine Takes.behind_refused ?_ (refuses_other _ (by decide))
      refine Takes.behind_refused ?_ (refuses_other _ (by decide))
      refine Takes.behind_refused ?_ (refuses_other _ (by decide))
      exact (options.takes_reader.map _).orElse
  | describe options =>
      refine Takes.behind_refused ?_ (refuses_other _ (by decide))
      refine Takes.behind_refused ?_ (refuses_other _ (by decide))
      refine Takes.behind_refused ?_ (refuses_other _ (by decide))
      refine Takes.behind_refused ?_ (refuses_other _ (by decide))
      exact options.takes_reader.map _

/-- The text of a statement that breaks no rule is read back as the statement. -/
theorem ofSql?_sql {statement : Statement} (valid : statement.violations = []) :
    ofSql? statement.sql = some statement := by
  have taken := takes_reader valid
  rw [Takes, List.append_nil] at taken
  rw [ofSql?, lex_sql valid, Option.bind_eq_bind, Option.bind_some, List.map_map]
  change (reader.run (statement.sentence.map Symbol.token) >>= _) = _
  rw [taken]
  rfl

/-- Two statements that break no rule have one text only if they are the same in every option. -/
theorem sql_eq_sql_iff {first second : Statement} (firstValid : first.violations = [])
    (secondValid : second.violations = []) : first.sql = second.sql ↔ first = second := by
  constructor
  · intro same
    have read := ofSql?_sql firstValid
    rw [same, ofSql?_sql secondValid, Option.some.injEq] at read
    exact read.symm
  · rintro rfl
    rfl

theorem sql_eq_sql_iff_names_like_keywords :
    let first : Statement := .alter
      { name := ⟨"EXISTS"⟩, ifExists := true, renameTo := some ⟨"IF"⟩ }
    let second : Statement := .alter { name := ⟨"IF"⟩, renameTo := some ⟨"EXISTS"⟩ }
    first.violations = [] ∧ second.violations = [] ∧ (first.sql = second.sql ↔ first = second) :=
  ⟨by decide, by decide, sql_eq_sql_iff (by decide) (by decide)⟩

end Statement

end AlertContacts
