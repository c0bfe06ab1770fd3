import AlertContacts.Proofs.Lexer
import AlertContacts.Sql.Clause

/-!
# Where a literal ends

A literal has no length in front of it. Whoever reads a statement finds the end of a literal by the quotes alone,
and had it ended anywhere else, a part of the text would be read as SQL. It ends where it was written to end as
long as no single quote is right behind it (`Sql.read_quoteString_iff`). Then the literal and what is behind it
can be told apart, so neither of them can make up for a difference in the other
(`quoteString_delimits_itself`). With a quote behind it the literal goes on, and two literals in a row are a
single one (`quoteString_append_quoteString`).
-/

namespace AlertContacts

namespace Sql

/--
A text begins with a literal if the body of one stands between its first quote and a quote that is
single.
-/
theorem read_eq_literal_iff {input content rest : List Char} :
    read input = some (.literal content, rest) ↔
      ∃ body, input = '\'' :: (body ++ '\'' :: rest) ∧
        Text.Enclosed '\'' (some '\\') body content ∧ rest.head? ≠ some '\'' := by
  have unescaped : some '\\' ≠ some '\'' := by decide
  constructor
  · intro reads
    fun_cases read input with
    | case1 => simp [read] at reads
    | case2 behind => simp [read] at reads
    | case3 behind => simp [read] at reads
    | case4 behind =>
        simp only [read, Char.reduceEq, if_false, if_true] at reads
        rcases Option.map_eq_some_iff.1 reads with ⟨⟨text, after⟩, found, equal⟩
        cases equal
        rcases (untilQuote_eq_some_iff unescaped).1 found with ⟨body, rfl, enclosed, single⟩
        exact ⟨body, rfl, enclosed, single⟩
    | case5 char behind notEquals notDouble notSingle wordChar =>
        simp [read, notEquals, notDouble, notSingle, wordChar] at reads
    | case6 char behind notEquals notDouble notSingle notWord =>
        simp [read, notEquals, notDouble, notSingle, notWord] at reads
  · rintro ⟨body, rfl, enclosed, single⟩
    have found := (untilQuote_eq_some_iff unescaped).2 ⟨body, rfl, enclosed, single⟩
    simp [read, found]

end Sql

theorem toList_quoteString_append (value behind : String) :
    (quoteString value ++ behind).toList = Text.literal value.toList ++ behind.toList := by
  rw [quoteString, String.toList_append, String.toList_ofList]

/-- Reading stops at the last quote of a literal exactly if no quote is right behind it. -/
theorem Sql.read_quoteString_iff {value behind : String} :
    read (quoteString value ++ behind).toList = some (.literal value.toList, behind.toList) ↔
      behind.toList.head? ≠ some '\'' := by
  constructor
  · intro reads
    rcases read_eq_literal_iff.1 reads with ⟨-, -, -, single⟩
    exact single
  · intro single
    rw [toList_quoteString_append]
    exact read_literal value.toList single

/-- The quotes that two literals in a row meet with are read as one quote of the text. -/
theorem quoteString_append_quoteString (first second : String) :
    quoteString first ++ quoteString second = quoteString (first ++ "'" ++ second) := by
  have quote : "'".toList.flatMap Text.literalChar = ['\'', '\''] := by decide
  simp only [quoteString, ← String.ofList_append, String.toList_append, Text.literal,
    List.flatMap_append, quote, List.cons_append, List.nil_append, List.append_assoc]

example : quoteString "it" ++ quoteString "s" = "'it''s'" := by decide

/--
A literal and what is behind it are found again in their text, whatever the literal says and whatever is behind it
other than a single quote. Two of them have the same text only if they agree in both parts, and reading from the
opening quote stops behind the literal with what it says.
-/
theorem quoteString_delimits_itself {value other behind after : String}
    (single : behind.toList.head? ≠ some '\'') (otherSingle : after.toList.head? ≠ some '\'') :
    (quoteString value ++ behind = quoteString other ++ after ↔ value = other ∧ behind = after) ∧
      Sql.read (quoteString value ++ behind).toList =
        some (.literal value.toList, behind.toList) := by
  have reads : Sql.read (quoteString value ++ behind).toList =
      some (.literal value.toList, behind.toList) := Sql.read_quoteString_iff.2 single
  have otherReads : Sql.read (quoteString other ++ after).toList =
      some (.literal other.toList, after.toList) := Sql.read_quoteString_iff.2 otherSingle
  refine ⟨⟨?_, ?_⟩, reads⟩
  · intro same
    rw [same, otherReads, Option.some.injEq, Prod.mk.injEq, Sql.Token.literal.injEq] at reads
    rcases reads with ⟨content, rest⟩
    exact ⟨(String.toList_inj.1 content).symm, (String.toList_inj.1 rest).symm⟩
  · rintro ⟨rfl, rfl⟩
    rfl

theorem quoteString_delimits_itself_trailing_backslash :
    let value := "C:\\"
    let other := "C:\\'"
    let behind := " COMMENT = 'x'"
    let after := "\\' COMMENT = 'x'"
    behind.toList.head? ≠ some '\'' ∧ after.toList.head? ≠ some '\'' ∧
      (quoteString value ++ behind = quoteString other ++ after ↔ value = other ∧ behind = after) ∧
      Sql.read (quoteString value ++ behind).toList =
        some (.literal value.toList, behind.toList) :=
  ⟨by decide, by decide, quoteString_delimits_itself (by decide) (by decide)⟩

end AlertContacts
