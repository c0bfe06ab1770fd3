import AlertContacts.Sql.Clause
import Mathlib.Logic.Relation

/-!
# Absent clauses

A clause is absent when there is nothing to write: a keyword that is not wanted, a parameter, an identifier or
a filter without a value, a group that is not given (`Clause.IsAbsent`). A group that is given is present even
if all of its clauses are absent.

Absent clauses may be put in and taken out, in a list of clauses and in the groups inside it at any depth, and
the statement stays the same. No other clause can. Behind each other, two lists with something to write are
written with one space between them (`Clause.absent_clauses_leave_no_trace`).
-/

namespace AlertContacts.Clause

inductive IsAbsent : Clause → Prop where
  | keyword (sql : String) : IsAbsent (.keyword sql false)
  | parameter (sql : String) : IsAbsent (.parameter sql none)
  | identifier (sql : Option String) : IsAbsent (.identifier sql none)
  | group (sql separator : String) : IsAbsent (.group sql none separator)
  | like : IsAbsent (.like none)

theorem render?_eq_none_iff {clause : Clause} : clause.render? = none ↔ clause.IsAbsent := by
  constructor
  · intro unwritten
    cases clause with
    | fixed sql => simp [render?] at unwritten
    | keyword sql present =>
        cases present with
        | false => exact .keyword sql
        | true => simp [render?] at unwritten
    | parameter sql value =>
        cases value with
        | none => exact .parameter sql
        | some text => simp [render?] at unwritten
    | identifier sql value =>
        cases value with
        | none => exact .identifier sql
        | some identifier => simp [render?] at unwritten
    | group sql clauses separator =>
        cases clauses with
        | none => exact .group sql separator
        | some clauses =>
            rw [render?] at unwritten
            split at unwritten <;> cases unwritten
    | like filter =>
        cases filter with
        | none => exact .like
        | some filter => simp [render?] at unwritten
  · intro absent
    cases absent <;> simp [render?]

/-- One absent clause more, in a list of clauses or in a group of it, at any depth. -/
inductive AddsAbsent : List Clause → List Clause → Prop where
  | here (before after : List Clause) {clause : Clause} (absent : clause.IsAbsent) :
      AddsAbsent (before ++ after) (before ++ clause :: after)
  | inside (before after : List Clause) (sql separator : String) {inner more : List Clause}
      (adds : AddsAbsent inner more) :
      AddsAbsent (before ++ .group sql (some inner) separator :: after)
        (before ++ .group sql (some more) separator :: after)

theorem renderPresent_append (first second : List Clause) :
    renderPresent (first ++ second) = renderPresent first ++ renderPresent second := by
  simp only [renderPresent_eq, List.filterMap_append]

/-- Clauses give no text at all exactly if each of them is absent. -/
theorem renderPresent_eq_nil_iff {clauses : List Clause} :
    renderPresent clauses = [] ↔ ∀ clause ∈ clauses, clause.IsAbsent := by
  simp only [renderPresent_eq, List.filterMap_eq_nil_iff, render?_eq_none_iff]

/-- The texts are the same, so a group that they are joined in has the same text too. -/
theorem AddsAbsent.renderPresent_eq {clauses others : List Clause} (adds : AddsAbsent clauses others) :
    renderPresent clauses = renderPresent others := by
  induction adds with
  | here before after absent =>
      have unwritten := render?_eq_none_iff.2 absent
      rw [renderPresent_append, renderPresent_append]
      simp [renderPresent, unwritten]
  | inside before after sql separator _ ih =>
      rw [renderPresent_append, renderPresent_append]
      simp [renderPresent, render?, ih]

/-- However many are put in and taken out. -/
theorem renderPresent_eq_of_eqvGen {clauses others : List Clause}
    (alike : Relation.EqvGen AddsAbsent clauses others) :
    renderPresent clauses = renderPresent others := by
  induction alike with
  | rel _ _ adds => exact adds.renderPresent_eq
  | refl _ => rfl
  | symm _ _ _ ih => exact ih.symm
  | trans _ _ _ _ _ first second => exact first.trans second

/-- Two lists that both have something to write are written with one space between them. -/
theorem render_append {first second : List Clause} (firstPresent : ∃ clause ∈ first, ¬clause.IsAbsent)
    (secondPresent : ∃ clause ∈ second, ¬clause.IsAbsent) :
    render (first ++ second) = render first ++ " " ++ render second := by
  rw [render, renderPresent_append]
  apply String.intercalate_append_of_ne_nil
  · intro none
    rcases firstPresent with ⟨clause, member, present⟩
    exact present (renderPresent_eq_nil_iff.1 none clause member)
  · intro none
    rcases secondPresent with ⟨clause, member, present⟩
    exact present (renderPresent_eq_nil_iff.1 none clause member)

/-- A clause that makes no difference in front of another one is absent: it would add a space at least. -/
theorem isAbsent_of_render_eq {clause : Clause}
    (unseen : render ([] ++ clause :: [.fixed ""]) = render ([] ++ [.fixed ""])) :
    clause.IsAbsent := by
  apply Classical.byContradiction
  intro present
  have written : render ([clause] ++ [.fixed ""]) = render [clause] ++ " " ++ render [.fixed ""] := by
    apply render_append
    · exact ⟨clause, List.mem_singleton_self clause, present⟩
    · refine ⟨.fixed "", List.mem_singleton_self _, ?_⟩
      rintro ⟨⟩
  have same := congrArg String.length (written.symm.trans unseen)
  simp [render, renderPresent, render?] at same

/--
Absent clauses can be put in and taken out at any position and depth, and the text stays the same; of no
other clause is this true. Two lists of clauses that each have a present one are written behind each other,
with one space between them.
-/
theorem absent_clauses_leave_no_trace :
    (∀ clauses others : List Clause, Relation.EqvGen AddsAbsent clauses others →
      render clauses = render others) ∧
    (∀ clause : Clause, clause.IsAbsent ↔
      ∀ before after, render (before ++ clause :: after) = render (before ++ after)) ∧
    ∀ first second : List Clause, (∃ clause ∈ first, ¬clause.IsAbsent) →
      (∃ clause ∈ second, ¬clause.IsAbsent) →
      render (first ++ second) = render first ++ " " ++ render second := by
  refine ⟨?_, ?_, ?_⟩
  · intro clauses others alike
    rw [render, render, renderPresent_eq_of_eqvGen alike]
  · intro clause
    constructor
    · intro absent before after
      rw [render, render, (AddsAbsent.here before after absent).renderPresent_eq]
    · intro unseen
      exact isAbsent_of_render_eq (unseen [] [.fixed ""])
  · intro first second firstPresent secondPresent
    exact render_append firstPresent secondPresent

/-- An assignment with an empty group inside its group. -/
def emptyInner : List Clause :=
  [.fixed "ALTER", .group "SET" (some [.parameter "EMAIL" (some "a@b.c"), .group "WITH" (some []) ", "]) " "]

/-- The same with a filter that is not given, and a keyword that is not wanted in the inner group. -/
def paddedInner : List Clause :=
  [.fixed "ALTER", .like none,
    .group "SET"
      (some [.parameter "EMAIL" (some "a@b.c"), .group "WITH" (some [.keyword "TERSE" false]) ", "]) " "]

theorem absent_clauses_leave_no_trace_nested :
    Relation.EqvGen AddsAbsent emptyInner paddedInner ∧
      render paddedInner = "ALTER SET EMAIL = 'a@b.c' WITH" ∧
      render (paddedInner ++ [.like none, .keyword "NOW" true]) =
        "ALTER SET EMAIL = 'a@b.c' WITH NOW" := by
  have group : AddsAbsent [.parameter "EMAIL" (some "a@b.c"), .group "WITH" (some []) ", "]
      [.parameter "EMAIL" (some "a@b.c"), .group "WITH" (some [.keyword "TERSE" false]) ", "] :=
    .inside [_] [] "WITH" ", " (.here [] [] (.keyword "TERSE"))
  have alike : Relation.EqvGen AddsAbsent emptyInner paddedInner :=
    .trans _ _ _ (.rel _ _ (.inside [.fixed "ALTER"] [] "SET" " " group))
      (.rel _ _ (.here [.fixed "ALTER"] _ .like))
  rcases absent_clauses_leave_no_trace with ⟨same, -, joined⟩
  have padded : render paddedInner = "ALTER SET EMAIL = 'a@b.c' WITH" :=
    (same _ _ alike).symm.trans (by decide +kernel)
  refine ⟨alike, padded, ?_⟩
  rw [joined, padded]
  · decide +kernel
  · refine ⟨.fixed "ALTER", List.mem_cons_self .., ?_⟩
    rintro ⟨⟩
  · refine ⟨.keyword "NOW" true, by simp, ?_⟩
    rintro ⟨⟩

end AlertContacts.Clause
