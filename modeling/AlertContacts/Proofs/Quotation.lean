import AlertContacts.Text.Quoted

/-!
# Texts between quotes

Names and literals are written between quotes by one grammar (`Text.Enclosed`). The quote is written twice, an
escape sign stands for the character behind it, where there is such a sign, and every other character stands for
itself.

A text is brought into this form by doubling signs (`Text.doubled`): the quote for a name, the escape sign and
then the quote for a literal. The second doubling goes over what the first one has written, and yet each sign
ends up in front of a copy of itself and nothing else, because neither doubling writes the sign of the other.
-/

namespace AlertContacts.Text

/-! ### Doubled signs -/

/-- A text in which one sign is written twice wherever it stands. -/
def doubled (sign : Char) : List Char → List Char
  | [] => []
  | char :: rest => if char = sign then sign :: sign :: doubled sign rest else char :: doubled sign rest

section doubled

variable {sign char : Char}

theorem doubled_cons_self (rest : List Char) :
    doubled sign (sign :: rest) = sign :: sign :: doubled sign rest := by
  rw [doubled, if_pos rfl]

theorem doubled_cons_of_ne (differ : char ≠ sign) (rest : List Char) :
    doubled sign (char :: rest) = char :: doubled sign rest := by
  rw [doubled, if_neg differ]

end doubled

theorem doubleQuotes_eq_doubled (text : List Char) : doubleQuotes text = doubled '"' text := by
  induction text with
  | nil => rfl
  | cons char text ih =>
      by_cases quote : char = '"'
      · rw [doubleQuotes, if_pos quote, quote, doubled_cons_self, ih]
      · rw [doubleQuotes, if_neg quote, doubled_cons_of_ne quote, ih]

/-- Escaping the characters one by one comes to doubling the backslashes and then the quotes. -/
theorem flatMap_literalChar (text : List Char) :
    text.flatMap literalChar = doubled '\'' (doubled '\\' text) := by
  have differ : '\\' ≠ '\'' := by decide
  induction text with
  | nil => rfl
  | cons char text ih =>
      rw [List.flatMap_cons, literalChar, ih]
      by_cases backslash : char = '\\'
      · subst backslash
        rw [if_pos rfl, doubled_cons_self, doubled_cons_of_ne differ, doubled_cons_of_ne differ]
        rfl
      · rw [if_neg backslash, doubled_cons_of_ne backslash]
        by_cases quote : char = '\''
        · subst quote
          rw [if_pos rfl, doubled_cons_self]
          rfl
        · rw [if_neg quote, doubled_cons_of_ne quote]
          rfl

/-! ### The grammar between two quotes -/

/-- What stands between two quotes, and the text that it writes. -/
inductive Enclosed (quote : Char) (escape : Option Char) : List Char → List Char → Prop where
  | nil : Enclosed quote escape [] []
  | plain {char : Char} {body text : List Char} (notEscape : escape ≠ some char)
      (notQuote : char ≠ quote) (rest : Enclosed quote escape body text) :
      Enclosed quote escape (char :: body) (char :: text)
  | pair {body text : List Char} (rest : Enclosed quote escape body text) :
      Enclosed quote escape (quote :: quote :: body) (quote :: text)
  | escaped {sign : Char} (char : Char) {body text : List Char} (isEscape : escape = some sign)
      (rest : Enclosed quote escape body text) :
      Enclosed quote escape (sign :: char :: body) (char :: text)

/-- A text is written between quotes by doubling the quotes in it. -/
theorem enclosed_doubled (quote : Char) (text : List Char) :
    Enclosed quote none (doubled quote text) text := by
  induction text with
  | nil => exact .nil
  | cons char text ih =>
      by_cases isQuote : char = quote
      · subst isQuote
        rw [doubled_cons_self]
        exact .pair ih
      · rw [doubled_cons_of_ne isQuote]
        exact .plain (by simp) isQuote ih

/-- Without an escape sign there is one way to write a text. -/
theorem enclosed_iff_doubled {quote : Char} {body text : List Char} :
    Enclosed quote none body text ↔ body = doubled quote text := by
  constructor
  · intro enclosed
    induction enclosed with
    | nil => rfl
    | plain _ notQuote _ ih => rw [doubled_cons_of_ne notQuote, ih]
    | pair _ ih => rw [doubled_cons_self, ih]
    | escaped _ isEscape _ _ => cases isEscape
  · rintro rfl
    exact enclosed_doubled quote text

/-- The empty text is written by the empty body alone. -/
theorem Enclosed.eq_nil_iff {quote : Char} {escape : Option Char} {body text : List Char}
    (enclosed : Enclosed quote escape body text) : body = [] ↔ text = [] := by
  cases enclosed with
  | nil => simp
  | plain _ _ _ => simp
  | pair _ => simp
  | escaped _ _ _ => simp

/--
Doubling the escape sign and then the quote writes the text, because neither doubling touches the
other's signs.
-/
theorem enclosed_doubled_doubled {quote sign : Char} (differ : sign ≠ quote) (text : List Char) :
    Enclosed quote (some sign) (doubled quote (doubled sign text)) text := by
  induction text with
  | nil => exact .nil
  | cons char text ih =>
      by_cases isSign : char = sign
      · -- Both copies of the sign pass the second doubling, and the first one escapes the other.
        subst isSign
        rw [doubled_cons_self, doubled_cons_of_ne differ, doubled_cons_of_ne differ]
        exact .escaped _ rfl ih
      · rw [doubled_cons_of_ne isSign]
        by_cases isQuote : char = quote
        · subst isQuote
          rw [doubled_cons_self]
          exact .pair ih
        · rw [doubled_cons_of_ne isQuote]
          exact .plain (by simpa using Ne.symm isSign) isQuote ih

end AlertContacts.Text
