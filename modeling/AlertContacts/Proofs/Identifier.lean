import AlertContacts.Identifier
import AlertContacts.Proofs.Lexer
import Mathlib.Tactic.Tauto

/-!
# Names and their SQL forms

A bare name is a word that reads the same in upper case, so the lexer takes it whole, and it has no
blank and no quote that reading it as an identifier would change. A quoted name begins and ends with
a quote, so trimming does not touch it. Either way `Identifier.parse` gives back the name that was
written (`Identifier.parse_sql`).
-/

namespace AlertContacts

open Sql

namespace Text

theorem replacePairs_cons (replacement : List Char) {char : Char} (notQuote : char ≠ '"')
    (rest : List Char) :
    replacePairs replacement (char :: rest) = char :: replacePairs replacement rest := by
  rw [replacePairs]
  rintro tail rfl
  exact absurd rfl notQuote

/-- Where no quote is left when the pairs are taken out, halving the pairs can be undone. -/
theorem doubleQuotes_replacePairs {inner : List Char} (paired : '"' ∉ replacePairs [] inner) :
    doubleQuotes (replacePairs ['"'] inner) = inner := by
  fun_induction replacePairs [] inner with
  | case1 => rfl
  | case2 rest ih =>
      rw [replacePairs, List.singleton_append, doubleQuotes, if_pos rfl, ih paired]
  | case3 char rest _ ih =>
      rw [List.mem_cons, not_or] at paired
      have notQuote : char ≠ '"' := Ne.symm paired.1
      rw [replacePairs_cons _ notQuote, doubleQuotes, if_neg notQuote, ih paired.2]

/-- Replacing pairs of quotes in a text with doubled quotes replaces the quotes that were there before. -/
theorem replacePairs_doubleQuotes (replacement name : List Char) :
    replacePairs replacement (doubleQuotes name) =
      name.flatMap fun char => if char = '"' then replacement else [char] := by
  induction name with
  | nil => rfl
  | cons char name ih =>
      rw [doubleQuotes, List.flatMap_cons]
      by_cases quote : char = '"'
      · rw [if_pos quote, if_pos quote, replacePairs, ih]
      · rw [if_neg quote, if_neg quote, replacePairs_cons _ quote, ih]
        rfl

/-- What is read as the text of a quoted name is the text with its quotes doubled, and a last quote. -/
theorem closedName?_eq_some_iff {quoted name : List Char} :
    closedName? quoted = some name ↔ quoted = doubleQuotes name ++ ['"'] := by
  rw [closedName?, Option.ite_none_right_eq_some, Option.some.injEq]
  constructor
  · rintro ⟨⟨last, paired⟩, rfl⟩
    rcases List.getLast?_eq_some_iff.1 last with ⟨inner, rfl⟩
    rw [List.dropLast_concat] at paired ⊢
    rw [doubleQuotes_replacePairs paired]
  · rintro rfl
    have single : (fun char => if char = '"' then ['"'] else [char]) = fun char => [char] := by
      funext char
      split
      · rename_i quote
        rw [quote]
      · rfl
    rw [List.dropLast_concat, replacePairs_doubleQuotes, replacePairs_doubleQuotes, single,
      List.flatMap_singleton']
    refine ⟨⟨List.getLast?_concat, ?_⟩, rfl⟩
    simp [List.mem_flatMap]

theorem length_le_doubleQuotes (name : List Char) : name.length ≤ (doubleQuotes name).length := by
  induction name with
  | nil => exact Nat.le_refl _
  | cons char name ih =>
      rw [doubleQuotes]
      split <;> simp only [List.length_cons] <;> omega

/-- A closing quote takes a character of its own. -/
theorem length_lt_of_closedName? {quoted name : List Char}
    (closed : closedName? quoted = some name) : name.length < quoted.length := by
  have longer := length_le_doubleQuotes name
  rw [closedName?_eq_some_iff.1 closed, List.length_append, List.length_singleton]
  omega

theorem trimStart_eq_self {text : List Char} (solid : ∀ char ∈ text.head?, isBlank char = false) :
    trimStart text = text := by
  cases text with
  | nil => rfl
  | cons char text => simp [trimStart, solid char rfl]

/-- A text without a blank at either end is trimmed already. -/
theorem trim_eq_self {text : List Char} (first : ∀ char ∈ text.head?, isBlank char = false)
    (last : ∀ char ∈ text.getLast?, isBlank char = false) : trim text = text := by
  have solid : ∀ char ∈ text.reverse.head?, isBlank char = false := by
    simpa using last
  rw [trim, trimStart_eq_self first, trimStart_eq_self solid, List.reverse_reverse]

theorem length_trim_le (text : List Char) : (trim text).length ≤ text.length := by
  have start (text : List Char) : (trimStart text).length ≤ text.length :=
    (List.dropWhile_sublist isBlank).length_le
  calc (trim text).length = (trimStart (trimStart text).reverse).length := by
        rw [trim, List.length_reverse]
    _ ≤ (trimStart text).reverse.length := start _
    _ = (trimStart text).length := List.length_reverse
    _ ≤ text.length := start _

end Text

namespace Identifier

theorem isWordChar_of_continuesBare {char : Char} (bare : continuesBare char = true) :
    isWordChar char = true := by
  simp only [continuesBare, Bool.or_eq_true] at bare
  simp only [isWordChar_eq, Bool.or_eq_true]
  tauto

theorem continuesBare_of_startsBare {char : Char} (bare : startsBare char = true) :
    continuesBare char = true := by
  simp only [startsBare, Bool.or_eq_true] at bare
  simp only [continuesBare, Bool.or_eq_true]
  tauto

/-- Characters of bare names read the same in upper case. -/
theorem toUpper_of_continuesBare {char : Char} (bare : continuesBare char = true) :
    char.toUpper = char := by
  have notLower : ¬('a'.val ≤ char.val ∧ char.val ≤ 'z'.val) := by
    rintro ⟨lower, -⟩
    change 97 ≤ char.toNat at lower
    simp only [continuesBare, Bool.or_eq_true, decide_eq_true_eq] at bare
    rcases bare with ((upper | digit) | rfl) | rfl
    · have range := toNat_of_isUpper upper
      omega
    · have range := toNat_of_isDigit digit
      omega
    · exact absurd lower (by decide)
    · exact absurd lower (by decide)
  exact dif_neg notLower

theorem continuesBare_of_isBare {name : List Char} (bare : isBare name = true) :
    ∀ {char : Char}, char ∈ name → continuesBare char = true := by
  intro char member
  cases name with
  | nil => simp at member
  | cons first rest =>
      rw [isBare, Bool.and_eq_true, List.all_eq_true] at bare
      rcases List.mem_cons.1 member with rfl | member
      · exact continuesBare_of_startsBare bare.1
      · exact bare.2 char member

/-- A bare name is a word for the lexer. -/
theorem isWord_of_isBare {name : List Char} (bare : isBare name = true) : IsWord name := by
  refine ⟨?_, ?_⟩
  · rintro rfl
    simp [isBare] at bare
  · rw [List.all_eq_true]
    intro char member
    exact isWordChar_of_continuesBare (continuesBare_of_isBare bare member)

/-! ### Reading an SQL form -/

/-- An input that begins with a quote is read by what closes the quote. -/
theorem parse_quoted {input : String} {quoted : List Char}
    (trimmed : Text.trim input.toList = '"' :: quoted) : parse input =
      match Text.closedName? quoted with
      | none => .error (.unterminatedQuote (String.ofList ('"' :: quoted)))
      | some [] => .error .empty
      | some name => .ok ⟨String.ofList name⟩ := by
  rw [parse, trimmed]
  rfl

/-- A quoted text that is closed and not empty is read as the name that it quotes. -/
theorem parse_of_quoted {input : String} {quoted : List Char}
    (trimmed : Text.trim input.toList = '"' :: quoted) {name : List Char}
    (closed : Text.closedName? quoted = some name) (nonempty : name ≠ []) :
    parse input = .ok ⟨String.ofList name⟩ := by
  rw [parse_quoted trimmed, closed]
  cases name with
  | nil => exact absurd rfl nonempty
  | cons char name => rfl

/-- A text without a quote in front is read as a name as it stands. -/
theorem parse_of_bare {input : String} {bare : List Char}
    (trimmed : Text.trim input.toList = bare) (nonempty : bare ≠ [])
    (unquoted : bare.head? ≠ some '"') : parse input = .ok ⟨String.ofList bare⟩ := by
  rw [parse, trimmed]
  split
  · exact absurd rfl nonempty
  · simp at unquoted
  · rfl

theorem isBlank_of_continuesBare {char : Char} (bare : continuesBare char = true) :
    Text.isBlank char = false :=
  isBlank_eq_false_of_isWordChar (isWordChar_of_continuesBare bare)

/-- Trimming does not touch the SQL form of a name. -/
theorem trim_sqlChars (name : List Char) : Text.trim (sqlChars name) = sqlChars name := by
  rw [sqlChars]
  split
  · rename_i bare
    apply Text.trim_eq_self
    · intro char first
      exact isBlank_of_continuesBare (continuesBare_of_isBare bare (List.mem_of_mem_head? first))
    · intro char last
      exact isBlank_of_continuesBare (continuesBare_of_isBare bare (List.mem_of_getLast? last))
  · apply Text.trim_eq_self
    · intro char first
      rw [Text.quotedName, List.head?_cons, Option.mem_some] at first
      exact first ▸ Text.isBlank_doubleQuote
    · intro char last
      rw [Text.quotedName, ← List.cons_append, List.getLast?_concat, Option.mem_some] at last
      exact last ▸ Text.isBlank_doubleQuote

/-- The SQL form of an identifier is read back as the identifier. -/
theorem parse_sql {identifier : Identifier} (nonempty : identifier.name ≠ "") :
    parse identifier.sql = .ok identifier := by
  have someName : identifier.name.toList ≠ [] := by simpa using nonempty
  have trimmed : Text.trim identifier.sql.toList = sqlChars identifier.name.toList := by
    rw [sql, String.toList_ofList, trim_sqlChars]
  rw [sqlChars] at trimmed
  split at trimmed
  · rename_i bare
    have unquoted : identifier.name.toList.head? ≠ some '"' := by
      intro quote
      have continues := continuesBare_of_isBare bare (List.mem_of_mem_head? quote)
      exact absurd continues (by decide)
    rw [parse_of_bare trimmed someName unquoted, String.ofList_toList]
  · rw [parse_of_quoted trimmed (Text.closedName?_eq_some_iff.2 rfl) someName, String.ofList_toList]

end Identifier

end AlertContacts
