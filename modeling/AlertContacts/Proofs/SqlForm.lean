import AlertContacts.Proofs.Identifier

/-!
# Texts that are SQL forms

Which texts are read as an identifier, and as which one. The blanks at the ends of a text do not count
(`Text.TrimsTo`). What is left is taken as it is, unless it begins with a double quote. Then it has to be a
quoted name from end to end: between the first and the last quote there are characters other than the quote
and pairs of quotes, each of which stands for one quote (`Text.Enclosed` without an escape sign).

Reading does not scan a quoted name. It takes a quote away at either end, looks for a quote that is left
when all pairs are taken out, and halves the pairs. That this comes to the same
(`Identifier.parse_follows_grammar`) rests on the pairs being found from left to right: where the quotes come
in runs, the pairs that are taken out are those of the grammar.
-/

namespace AlertContacts

namespace Text

/-! ### Trimmed texts -/

/-- A text is what another one is without the blanks at its ends. -/
structure TrimsTo (whole text : List Char) : Prop where
  parts : ∃ before after, whole = before ++ text ++ after ∧
    (∀ char ∈ before, isBlank char = true) ∧ ∀ char ∈ after, isBlank char = true
  first : ∀ char ∈ text.head?, isBlank char = false
  last : ∀ char ∈ text.getLast?, isBlank char = false

/-- What trimming takes from the front is blank. -/
theorem exists_trimStart (text : List Char) :
    ∃ before, text = before ++ trimStart text ∧ ∀ char ∈ before, isBlank char = true := by
  refine ⟨text.takeWhile isBlank, List.takeWhile_append_dropWhile.symm, ?_⟩
  exact List.all_eq_true.1 (List.all_takeWhile ..)

theorem isBlank_of_mem_head?_trimStart (text : List Char) :
    ∀ char ∈ (trimStart text).head?, isBlank char = false := by
  intro char first
  have solid := List.head?_dropWhile_not isBlank text
  rw [trimStart, Option.mem_def] at first
  rwa [first] at solid

/-- Trimming takes the blanks at both ends, and nothing else. -/
theorem trimsTo_trim (whole : List Char) : TrimsTo whole (trim whole) := by
  rcases exists_trimStart whole with ⟨before, split, beforeBlank⟩
  rcases exists_trimStart (trimStart whole).reverse with ⟨after, splitBack, afterBlank⟩
  -- What is taken off at the end was in front of the reversed text.
  have started : trimStart whole = trim whole ++ after.reverse := by
    rw [trim, ← List.reverse_append, ← splitBack, List.reverse_reverse]
  refine ⟨⟨before, after.reverse, ?_, beforeBlank, ?_⟩, ?_, ?_⟩
  · rw [List.append_assoc, ← started, ← split]
  · intro char member
    exact afterBlank char (List.mem_reverse.1 member)
  · intro char first
    apply isBlank_of_mem_head?_trimStart whole
    rw [started, List.head?_append, Option.mem_def.1 first]
    rfl
  · intro char last
    rw [trim, List.getLast?_reverse] at last
    exact isBlank_of_mem_head?_trimStart _ char last

/-- A quoted name is closed exactly when the grammar has its body, and then it writes what is read. -/
theorem closedName?_eq_some_iff_enclosed {quoted name : List Char} :
    closedName? quoted = some name ↔
      ∃ body, quoted = body ++ ['"'] ∧ Enclosed '"' none body name := by
  simp only [closedName?_eq_some_iff, enclosed_iff_doubled, doubleQuotes_eq_doubled, exists_eq_right]

end Text

namespace Identifier

open Text

/-! ### Quoted names -/

section quoted

variable {input : String} {quoted : List Char} (trimmed : trim input.toList = '"' :: quoted)

include trimmed

/-- A text behind a quote is read as a name if the quote is closed and there is something inside. -/
theorem parse_eq_ok_iff_of_quoted {name : String} :
    parse input = .ok ⟨name⟩ ↔ closedName? quoted = some name.toList ∧ name.toList ≠ [] := by
  rw [parse_quoted trimmed]
  rcases closedName? quoted with _ | _ | ⟨first, text⟩
  · simp
  · constructor
    · rintro ⟨⟩
    · rintro ⟨same, nonempty⟩
      exact absurd (Option.some.inj same).symm nonempty
  · simp only [Except.ok.injEq, mk.injEq, Option.some.injEq]
    constructor
    · rintro rfl
      simp
    · rintro ⟨same, -⟩
      rw [same, String.ofList_toList]

/-- A quoted text is refused as empty if there is nothing between its quotes. -/
theorem parse_eq_empty_iff_of_quoted : parse input = .error .empty ↔ closedName? quoted = some [] := by
  rw [parse_quoted trimmed]
  rcases closedName? quoted with _ | _ | ⟨first, text⟩ <;> simp

/-- A quoted text is refused for a quote without an end if nothing closes it. -/
theorem parse_eq_unterminatedQuote_iff_of_quoted :
    parse input = .error (.unterminatedQuote (String.ofList ('"' :: quoted))) ↔
      closedName? quoted = none := by
  rw [parse_quoted trimmed]
  rcases closedName? quoted with _ | _ | ⟨first, text⟩ <;> simp

/-- A quoted name that needs its quotes is the SQL form of what it is read as. -/
theorem sql_of_quoted {identifier : Identifier} (parsed : parse input = .ok identifier)
    (quotes : isBare identifier.name.toList = false) : identifier.sql = String.ofList ('"' :: quoted) := by
  rcases (parse_eq_ok_iff_of_quoted trimmed).1 parsed with ⟨closed, -⟩
  rw [sql, sqlChars, quotes, closedName?_eq_some_iff.1 closed]
  rfl

end quoted

/--
A text is read by what it is without the blanks at its ends. If that does not begin with a double quote, it
is the name itself, or missing. If it does, it is read exactly when it is a quoted name with something
between its quotes, as the name that this writes; it is empty exactly when it is two quotes, and in every
other case it is a quote without an end. A quoted name that needs quotes is the SQL form of its identifier.
-/
theorem parse_follows_grammar (input : String) :
    ∃ text, TrimsTo input.toList text ∧
      (text.head? ≠ some '"' →
        parse input = if text = [] then .error .empty else .ok ⟨String.ofList text⟩) ∧
      (text.head? = some '"' →
        (∀ name, parse input = .ok ⟨name⟩ ↔
          ∃ body, body ≠ [] ∧ text = '"' :: (body ++ ['"']) ∧ Enclosed '"' none body name.toList) ∧
        (parse input = .error .empty ↔ text = ['"', '"']) ∧
        (parse input = .error (.unterminatedQuote (String.ofList text)) ↔
          ¬∃ body name, text = '"' :: (body ++ ['"']) ∧ Enclosed '"' none body name) ∧
        ∀ identifier, parse input = .ok identifier → isBare identifier.name.toList = false →
          identifier.sql = String.ofList text) := by
  refine ⟨trim input.toList, trimsTo_trim input.toList, ?_, ?_⟩
  · intro unquoted
    split
    · rename_i blank
      rw [parse, blank]
    · rename_i present
      exact parse_of_bare rfl present unquoted
  · intro quote
    rcases List.head?_eq_some_iff.1 quote with ⟨quoted, trimmed⟩
    rw [trimmed]
    refine ⟨?_, ?_, ?_, fun identifier => sql_of_quoted trimmed⟩
    · intro name
      rw [parse_eq_ok_iff_of_quoted trimmed, closedName?_eq_some_iff_enclosed]
      constructor
      · rintro ⟨⟨body, rfl, written⟩, nonempty⟩
        exact ⟨body, fun empty => nonempty (written.eq_nil_iff.1 empty), rfl, written⟩
      · rintro ⟨body, nonempty, same, written⟩
        refine ⟨⟨body, (List.cons.inj same).2, written⟩, ?_⟩
        exact fun empty => nonempty (written.eq_nil_iff.2 empty)
    · rw [parse_eq_empty_iff_of_quoted trimmed, closedName?_eq_some_iff]
      simp [doubleQuotes]
    · rw [parse_eq_unterminatedQuote_iff_of_quoted trimmed, Option.eq_none_iff_forall_ne_some]
      simp only [ne_eq, closedName?_eq_some_iff_enclosed, List.cons.injEq, true_and]
      constructor
      · rintro never ⟨body, name, same, written⟩
        exact never name ⟨body, same, written⟩
      · rintro never name ⟨body, same, written⟩
        exact never ⟨body, name, same, written⟩

/-- In a run of quotes the delimiters overlap with the pairs: three do not make a name, and four do. -/
example : parse " \"\"\"\t" = .error (.unterminatedQuote "\"\"\"") ∧ parse "\"\"\"\"" = .ok ⟨"\""⟩ :=
  ⟨rfl, rfl⟩

end Identifier

end AlertContacts
