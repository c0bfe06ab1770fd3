import AlertContacts.Proofs.Quotation
import AlertContacts.Text.Blank

/-!
# Lexemes of a statement

How the platform cuts the text of a statement into lexemes. Blanks separate lexemes and are not part
of them. A lexeme is a word, the sign `=`, a quoted name or a literal:

* a word is a run of letters, digits, `_` and `$`;
* in a quoted name a double quote is written twice;
* in a literal a single quote is written twice, and a backslash stands for the character behind it.

Any other character outside of quotes is an error, and so is a quote that is never closed. A word that
is read as a name counts in upper case, a quoted name counts as it is.

Between quotes the lexer takes what the grammar of quoted texts has (`untilQuote_eq_some_iff`). So it
undoes both ways of quoting, whatever stands between the quotes and whatever follows the closing one:
`read_quotedName` and `read_literal`. Texts that read as one lexeme each can then be put
together with single spaces between them, and `lex_intercalate` gives back exactly these lexemes.
-/

namespace AlertContacts.Sql

inductive Token where
  | word (text : List Char)
  | equals
  | quoted (name : List Char)
  | literal (content : List Char)
  deriving DecidableEq, Repr

structure Lexeme where
  text : List Char
  token : Token
  deriving DecidableEq, Repr

def Token.name? : Token → Option (List Char)
  | .word text => some (text.map Char.toUpper)
  | .quoted name => some name
  | _ => none

def isWordChar (char : Char) : Bool :=
  char.isAlphanum || char = '_' || char = '$'

def prepend (char : Char) (found : List Char × List Char) : List Char × List Char :=
  (char :: found.1, found.2)

/--
The text between quotes, read from behind the opening quote, and what follows the closing quote. A
quote that is written twice and a character behind the escape character belong to the text.
-/
def untilQuote (quote : Char) (escape : Option Char) : List Char → Option (List Char × List Char)
  | [] => none
  | [char] => if char = quote then some ([], []) else none
  | char :: next :: rest =>
    if escape = some char then (untilQuote quote escape rest).map (prepend next)
    else if char = quote then
      if next = quote then (untilQuote quote escape rest).map (prepend quote)
      else some ([], next :: rest)
    else (untilQuote quote escape (next :: rest)).map (prepend char)

/-- The token that a text begins with, and what follows it. -/
def read : List Char → Option (Token × List Char)
  | [] => none
  | char :: rest =>
    if char = '=' then some (.equals, rest)
    else if char = '"' then (untilQuote '"' none rest).map (Prod.map .quoted id)
    else if char = '\'' then (untilQuote '\'' (some '\\') rest).map (Prod.map .literal id)
    else if isWordChar char then
      some (.word (char :: rest.takeWhile isWordChar), rest.dropWhile isWordChar)
    else none

theorem exists_of_map_prepend {char : Char} {reads : Option (List Char × List Char)}
    {text rest : List Char} (prepended : reads.map (prepend char) = some (text, rest)) :
    ∃ tail, text = char :: tail ∧ reads = some (tail, rest) := by
  rcases Option.map_eq_some_iff.1 prepended with ⟨⟨tail, behind⟩, found, equal⟩
  have textEq : char :: tail = text := congrArg Prod.fst equal
  have restEq : behind = rest := congrArg Prod.snd equal
  subst restEq
  exact ⟨tail, textEq.symm, found⟩

/-- Reading up to a closing quote takes the quote at least. -/
theorem length_lt_of_untilQuote {quote : Char} {escape : Option Char} {input body rest : List Char}
    (reads : untilQuote quote escape input = some (body, rest)) : rest.length < input.length := by
  fun_induction untilQuote quote escape input generalizing body with
  | case1 => simp at reads
  | case2 => grind
  | case3 => simp at reads
  | case4 char next behind _ ih =>
      rcases exists_of_map_prepend reads with ⟨tail, -, reads⟩
      have shorter := ih reads
      simp only [List.length_cons]
      omega
  | case5 behind _ ih =>
      rcases exists_of_map_prepend reads with ⟨tail, -, reads⟩
      have shorter := ih reads
      simp only [List.length_cons]
      omega
  | case6 next behind =>
      cases reads
      simp
  | case7 char next behind _ _ ih =>
      rcases exists_of_map_prepend reads with ⟨tail, -, reads⟩
      have shorter := ih reads
      simp only [List.length_cons] at shorter ⊢
      omega

/-- Every token takes a character at least, so cutting a text into lexemes comes to an end. -/
theorem length_lt_of_read {input rest : List Char} {token : Token}
    (reads : read input = some (token, rest)) : rest.length < input.length := by
  fun_cases read input with
  | case1 => simp [read] at reads
  | case2 behind =>
      simp only [read, if_true, Option.some.injEq, Prod.mk.injEq] at reads
      simp [reads.2]
  | case3 behind =>
      simp only [read, Char.reduceEq, if_false, if_true] at reads
      rcases Option.map_eq_some_iff.1 reads with ⟨⟨body, after⟩, found, equal⟩
      cases equal
      have shorter := length_lt_of_untilQuote found
      simp only [id, List.length_cons]
      omega
  | case4 behind =>
      simp only [read, Char.reduceEq, if_false, if_true] at reads
      rcases Option.map_eq_some_iff.1 reads with ⟨⟨body, after⟩, found, equal⟩
      cases equal
      have shorter := length_lt_of_untilQuote found
      simp only [id, List.length_cons]
      omega
  | case5 char behind notEquals notDouble notSingle wordChar =>
      simp only [read, if_neg notEquals, if_neg notDouble, if_neg notSingle, if_pos wordChar,
        Option.some.injEq, Prod.mk.injEq] at reads
      have dropped : (behind.dropWhile isWordChar).length ≤ behind.length :=
        (List.dropWhile_sublist isWordChar).length_le
      rw [reads.2] at dropped
      simp only [List.length_cons]
      omega
  | case6 char behind notEquals notDouble notSingle notWord =>
      simp [read, notEquals, notDouble, notSingle, notWord] at reads

def lex : List Char → Option (List Lexeme)
  | [] => some []
  | char :: others =>
    if Text.isBlank char then lex others
    else
      match _reads : read (char :: others) with
      | none => none
      | some (token, rest) =>
        (lex rest).map (⟨(char :: others).take ((char :: others).length - rest.length), token⟩ :: ·)
termination_by input => input.length
decreasing_by
  · simp
  · exact length_lt_of_read _reads

/-! ### Between quotes -/

section untilQuote

variable {quote char : Char} {escape : Option Char} {rest : List Char}

/-- A quote with no second one behind it closes the text. -/
theorem untilQuote_closed (unescaped : escape ≠ some quote) (behind : rest.head? ≠ some quote) :
    untilQuote quote escape (quote :: rest) = some ([], rest) := by
  cases rest with
  | nil => simp [untilQuote]
  | cons next rest =>
      have notQuote : next ≠ quote := by simpa using behind
      simp [untilQuote, unescaped, notQuote]

theorem untilQuote_doubled (unescaped : escape ≠ some quote) :
    untilQuote quote escape (quote :: quote :: rest) =
      (untilQuote quote escape rest).map (prepend quote) := by
  simp [untilQuote, unescaped]

theorem untilQuote_escaped (sign : Char) :
    untilQuote quote (some sign) (sign :: char :: rest) =
      (untilQuote quote (some sign) rest).map (prepend char) := by
  simp [untilQuote]

theorem untilQuote_plain (unescaped : escape ≠ some char) (notQuote : char ≠ quote) :
    untilQuote quote escape (char :: rest) =
      (untilQuote quote escape rest).map (prepend char) := by
  cases rest with
  | nil => simp [untilQuote, notQuote]
  | cons next rest => simp [untilQuote, unescaped, notQuote]

end untilQuote

/--
Reading up to the closing quote takes the bodies of the grammar and no others, and the quote that it stops at is
the first one that can close the text: no second quote is behind it.
-/
theorem untilQuote_eq_some_iff {quote : Char} {escape : Option Char} (unescaped : escape ≠ some quote)
    {input text rest : List Char} :
    untilQuote quote escape input = some (text, rest) ↔
      ∃ body, input = body ++ quote :: rest ∧ Text.Enclosed quote escape body text ∧
        rest.head? ≠ some quote := by
  constructor
  · intro reads
    fun_induction untilQuote quote escape input generalizing text with
    | case1 => cases reads
    | case2 =>
        cases reads
        exact ⟨[], rfl, .nil, by simp⟩
    | case3 => cases reads
    | case4 char next behind isEscape ih =>
        rcases exists_of_map_prepend reads with ⟨tail, rfl, found⟩
        rcases ih found with ⟨body, rfl, enclosed, single⟩
        exact ⟨char :: next :: body, rfl, .escaped next isEscape enclosed, single⟩
    | case5 behind _ ih =>
        rcases exists_of_map_prepend reads with ⟨tail, rfl, found⟩
        rcases ih found with ⟨body, rfl, enclosed, single⟩
        exact ⟨quote :: quote :: body, rfl, .pair enclosed, single⟩
    | case6 next behind notQuote =>
        cases reads
        exact ⟨[], rfl, .nil, by simpa using notQuote⟩
    | case7 char next behind notEscape notQuote ih =>
        rcases exists_of_map_prepend reads with ⟨tail, rfl, found⟩
        rcases ih found with ⟨body, split, enclosed, single⟩
        exact ⟨char :: body, by rw [split]; rfl, .plain notEscape notQuote enclosed, single⟩
  · rintro ⟨body, rfl, enclosed, single⟩
    induction enclosed with
    | nil => exact untilQuote_closed unescaped single
    | plain notEscape notQuote _ ih =>
        rw [List.cons_append, untilQuote_plain notEscape notQuote, ih]
        rfl
    | pair _ ih =>
        rw [List.cons_append, List.cons_append, untilQuote_doubled unescaped, ih]
        rfl
    | escaped char isEscape _ ih =>
        subst isEscape
        rw [List.cons_append, List.cons_append, untilQuote_escaped, ih]
        rfl

/-- A text with its quotes doubled is read up to the quote behind it. -/
theorem untilQuote_doubleQuotes (name : List Char) {rest : List Char}
    (behind : rest.head? ≠ some '"') :
    untilQuote '"' none (Text.doubleQuotes name ++ '"' :: rest) = some (name, rest) := by
  have enclosed : Text.Enclosed '"' none (Text.doubleQuotes name) name := by
    rw [Text.doubleQuotes_eq_doubled]
    exact Text.enclosed_doubled '"' name
  exact (untilQuote_eq_some_iff (by decide)).2 ⟨_, rfl, enclosed, behind⟩

/-- A text that is escaped character by character is read up to the quote behind it. -/
theorem untilQuote_literalChar (content : List Char) {rest : List Char}
    (behind : rest.head? ≠ some '\'') :
    untilQuote '\'' (some '\\') (content.flatMap Text.literalChar ++ '\'' :: rest) =
      some (content, rest) := by
  have enclosed : Text.Enclosed '\'' (some '\\') (content.flatMap Text.literalChar) content := by
    rw [Text.flatMap_literalChar]
    exact Text.enclosed_doubled_doubled (by decide) content
  exact (untilQuote_eq_some_iff (by decide)).2 ⟨_, rfl, enclosed, behind⟩

/-- A quoted name is read as one token, whatever characters it has. -/
theorem read_quotedName (name : List Char) {rest : List Char} (behind : rest.head? ≠ some '"') :
    read (Text.quotedName name ++ rest) = some (.quoted name, rest) := by
  have body := untilQuote_doubleQuotes name behind
  rw [Text.quotedName, List.cons_append, List.append_assoc, List.singleton_append]
  simp [read, body]

/-- A literal is read as one token, whatever it says. -/
theorem read_literal (content : List Char) {rest : List Char} (behind : rest.head? ≠ some '\'') :
    read (Text.literal content ++ rest) = some (.literal content, rest) := by
  have body := untilQuote_literalChar content behind
  rw [Text.literal, List.cons_append, List.append_assoc, List.singleton_append]
  simp [read, body]

theorem read_equals (rest : List Char) : read ('=' :: rest) = some (.equals, rest) := by
  simp [read]

def IsWord (text : List Char) : Prop :=
  text ≠ [] ∧ text.all isWordChar = true

instance (text : List Char) : Decidable (IsWord text) :=
  inferInstanceAs (Decidable (_ ∧ _))

theorem isWordChar_eq (char : Char) : isWordChar char =
    (char.isUpper || char.isLower || char.isDigit || char = '_' || char = '$') := rfl

theorem toNat_of_isUpper {char : Char} (upper : char.isUpper = true) :
    65 ≤ char.toNat ∧ char.toNat ≤ 90 := by
  change decide (65 ≤ char.toNat ∧ char.toNat ≤ 90) = true at upper
  simpa using upper

theorem toNat_of_isLower {char : Char} (lower : char.isLower = true) :
    97 ≤ char.toNat ∧ char.toNat ≤ 122 := by
  change (decide (97 ≤ char.toNat) && decide (char.toNat ≤ 122)) = true at lower
  simpa using lower

theorem toNat_of_isDigit {char : Char} (digit : char.isDigit = true) :
    48 ≤ char.toNat ∧ char.toNat ≤ 57 :=
  Char.isDigit_iff_toNat.1 digit

theorem isBlank_eq_false_of_isWordChar {char : Char} (wordChar : isWordChar char = true) :
    Text.isBlank char = false := by
  -- No blank has a code point between those of `$` and `z`, where all word characters are.
  have visible : 36 ≤ char.toNat ∧ char.toNat ≤ 122 := by
    simp only [isWordChar_eq, Bool.or_eq_true, decide_eq_true_eq] at wordChar
    rcases wordChar with (((upper | lower) | digit) | rfl) | rfl
    · have range := toNat_of_isUpper upper
      omega
    · have range := toNat_of_isLower lower
      omega
    · have range := toNat_of_isDigit digit
      omega
    · decide
    · decide
  simp only [Text.isBlank, Text.blankRanges, List.any_cons, List.any_nil, Bool.or_false,
    Bool.or_eq_false_iff, Bool.and_eq_false_imp, decide_eq_true_eq, decide_eq_false_iff_not,
    Nat.not_le]
  omega

/-- A word is read as far as it goes. -/
theorem read_word {word rest : List Char} (isWord : IsWord word)
    (behind : ∀ char ∈ rest.head?, isWordChar char = false) :
    read (word ++ rest) = some (.word word, rest) := by
  rcases isWord with ⟨nonempty, wordChars⟩
  cases word with
  | nil => exact absurd rfl nonempty
  | cons char others =>
      rw [List.all_cons, Bool.and_eq_true] at wordChars
      rcases wordChars with ⟨first, remaining⟩
      have notEquals : char ≠ '=' := by rintro rfl; exact absurd first (by decide)
      have notDouble : char ≠ '"' := by rintro rfl; exact absurd first (by decide)
      have notSingle : char ≠ '\'' := by rintro rfl; exact absurd first (by decide)
      have inside : ∀ other ∈ others, isWordChar other = true := by
        simpa [List.all_eq_true] using remaining
      have stopsTaking : rest.takeWhile isWordChar = [] := by
        cases rest with
        | nil => rfl
        | cons next rest => simp [behind next rfl]
      have stopsDropping : rest.dropWhile isWordChar = rest := by
        cases rest with
        | nil => rfl
        | cons next rest => simp [behind next rfl]
      rw [List.cons_append]
      simp only [read, if_neg notEquals, if_neg notDouble, if_neg notSingle, if_pos first]
      rw [List.takeWhile_append_of_pos inside, List.dropWhile_append_of_pos inside, stopsTaking,
        stopsDropping, List.append_nil]

/-! ### From one lexeme to many -/

theorem lex_blank {char : Char} (blank : Text.isBlank char = true) (rest : List Char) :
    lex (char :: rest) = lex rest := by
  rw [lex, if_pos blank]

/-- A stretch that is read as one token is the first lexeme, and the others follow. -/
theorem lex_append {char : Char} {others rest : List Char} {token : Token}
    (solid : Text.isBlank char = false)
    (reads : read (char :: others ++ rest) = some (token, rest)) :
    lex (char :: others ++ rest) = (lex rest).map (⟨char :: others, token⟩ :: ·) := by
  rw [List.cons_append] at reads ⊢
  rw [lex, solid, if_neg (by simp)]
  split
  · rename_i fails
    rw [reads] at fails
    cases fails
  · rename_i found
    rw [reads] at found
    cases found
    have taken : (char :: (others ++ rest)).take ((char :: (others ++ rest)).length - rest.length) =
        char :: others := by
      rw [← List.cons_append, List.length_append, Nat.add_sub_cancel, List.take_left]
    rw [taken]

/--
A lexeme stands alone when its text begins with no blank and is read as its token, at the end of a
statement and in front of a space.
-/
def Lexeme.StandsAlone (lexeme : Lexeme) : Prop :=
  (∃ char others, lexeme.text = char :: others ∧ Text.isBlank char = false) ∧
    ∀ rest : List Char, (∀ char ∈ rest.head?, char = ' ') →
      read (lexeme.text ++ rest) = some (lexeme.token, rest)

theorem standsAlone_word {word : List Char} (isWord : IsWord word) :
    Lexeme.StandsAlone ⟨word, .word word⟩ := by
  refine ⟨?_, ?_⟩
  · cases word with
    | nil => exact absurd rfl isWord.1
    | cons char others =>
        have wordChars := isWord.2
        rw [List.all_cons, Bool.and_eq_true] at wordChars
        exact ⟨char, others, rfl, isBlank_eq_false_of_isWordChar wordChars.1⟩
  · intro rest space
    apply read_word isWord
    intro char head
    rw [space char head]
    decide

theorem standsAlone_equals : Lexeme.StandsAlone ⟨['='], .equals⟩ := by
  refine ⟨⟨'=', [], rfl, by decide⟩, ?_⟩
  intro rest _
  exact read_equals rest

theorem standsAlone_quotedName (name : List Char) :
    Lexeme.StandsAlone ⟨Text.quotedName name, .quoted name⟩ := by
  refine ⟨⟨'"', _, rfl, by decide⟩, ?_⟩
  intro rest space
  apply read_quotedName
  intro quote
  exact absurd (space '"' quote) (by decide)

theorem standsAlone_literal (content : List Char) :
    Lexeme.StandsAlone ⟨Text.literal content, .literal content⟩ := by
  refine ⟨⟨'\'', _, rfl, by decide⟩, ?_⟩
  intro rest space
  apply read_literal
  intro quote
  exact absurd (space '\'' quote) (by decide)

/-- A lexeme that stands alone is the first one of a text in which a blank or nothing is behind it. -/
theorem Lexeme.StandsAlone.lex_append {lexeme : Lexeme} (alone : lexeme.StandsAlone)
    {rest : List Char} (behind : ∀ char ∈ rest.head?, char = ' ') :
    lex (lexeme.text ++ rest) = (lex rest).map (lexeme :: ·) := by
  rcases lexeme with ⟨text, token⟩
  rcases alone with ⟨⟨char, others, rfl, solid⟩, reads⟩
  exact Sql.lex_append solid (reads rest behind)

/-- Lexemes that stand alone are found again when they are written with single spaces between. -/
theorem lex_intercalate {lexemes : List Lexeme}
    (alone : ∀ lexeme ∈ lexemes, lexeme.StandsAlone) :
    lex ([' '].intercalate (lexemes.map Lexeme.text)) = some lexemes := by
  induction lexemes with
  | nil => simp [lex]
  | cons lexeme lexemes ih =>
      have first := alone lexeme (List.mem_cons_self ..)
      have others := ih fun other member => alone other (List.mem_cons_of_mem _ member)
      -- The separator follows every lexeme but the last.
      cases lexemes with
      | nil =>
          have nothing : ∀ char ∈ ([] : List Char).head?, char = ' ' := by simp
          simpa [lex] using first.lex_append nothing
      | cons next lexemes =>
          have blank : Text.isBlank ' ' = true := by decide
          rw [List.map_cons, List.map_cons, List.intercalate_cons_cons, List.append_assoc,
            List.singleton_append, first.lex_append (by simp), lex_blank blank, ← List.map_cons,
            others]
          rfl

end AlertContacts.Sql
