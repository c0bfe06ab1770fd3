/-!
# Entries ordered by key

Objects, rows and schemas map names to values, and every answer lists them by ascending name. The
map is kept as that list: `insert` puts an entry at its place and replaces an entry of the same
name, `find?` looks a name up, and `Ascending` states the order that `insert` and `ofList` keep.
Names are compared by their code points, which is also the order of their UTF-8 bytes.
-/

namespace AlertContacts

abbrev Entries (α : Type) := List (String × α)

namespace Entries

variable {α β : Type}

/-- Every name comes before the names behind it, so no name occurs twice. -/
def Ascending (entries : Entries α) : Prop :=
  entries.Pairwise fun earlier later => earlier.1 < later.1

instance (entries : Entries α) : Decidable entries.Ascending :=
  inferInstanceAs (Decidable (entries.Pairwise fun earlier later => earlier.1 < later.1))

def find? (name : String) : Entries α → Option α
  | [] => none
  | (key, value) :: rest => if key = name then some value else find? name rest

def has (entries : Entries α) (name : String) : Bool :=
  (find? name entries).isSome

def names (entries : Entries α) : List String :=
  entries.map Prod.fst

/-- The entries with a value put under a name, in place of the one that was there. -/
def insert (name : String) (value : α) : Entries α → Entries α
  | [] => [(name, value)]
  | (key, previous) :: rest =>
    if key = name then (name, value) :: rest
    else if name < key then (name, value) :: (key, previous) :: rest
    else (key, previous) :: insert name value rest

/-- The map of a list of entries; of entries with one name the last counts. -/
def ofList (entries : List (String × α)) : Entries α :=
  entries.foldl (fun built entry => insert entry.1 entry.2 built) []

@[simp]
theorem find?_nil (name : String) : find? name ([] : Entries α) = none := rfl

theorem find?_insert (name other : String) (value : α) (entries : Entries α) :
    find? other (insert name value entries) =
      if name = other then some value else find? other entries := by
  fun_induction insert name value entries <;> grind [find?]

theorem mem_insert {name : String} {value : α} {entries : Entries α} {entry : String × α} :
    entry ∈ insert name value entries → entry = (name, value) ∨ entry ∈ entries := by
  fun_induction insert name value entries <;> grind

theorem ascending_insert {entries : Entries α} (ascending : entries.Ascending) (name : String)
    (value : α) : (insert name value entries).Ascending := by
  fun_induction insert name value entries with
  | case1 => exact List.pairwise_singleton _ _
  | case2 => exact List.pairwise_cons.2 (List.pairwise_cons.1 ascending)
  | case3 key previous rest _ less =>
    have restLess := (List.pairwise_cons.1 ascending).1
    refine List.pairwise_cons.2 ⟨fun entry member => ?_, ascending⟩
    rcases List.mem_cons.1 member with rfl | member
    · exact less
    · exact String.lt_trans less (restLess entry member)
  | case4 key previous rest different notLess ih =>
    obtain ⟨restLess, restAscending⟩ := List.pairwise_cons.1 ascending
    refine List.pairwise_cons.2 ⟨fun entry member => ?_, ih restAscending⟩
    rcases mem_insert member with rfl | member
    · exact Std.lt_of_le_of_ne (String.not_lt.1 notLess) different
    · exact restLess entry member

theorem ascending_ofList (entries : List (String × α)) : (ofList entries).Ascending := by
  suffices keeps : ∀ built : Entries α, built.Ascending →
      Ascending (entries.foldl (fun built entry => insert entry.1 entry.2 built) built) from
    keeps [] List.Pairwise.nil
  induction entries with
  | nil => exact fun _ ascending => ascending
  | cons entry rest ih =>
    exact fun built ascending => ih _ (ascending_insert ascending entry.1 entry.2)

section lookup

variable {entries : Entries α} {name : String} {value : α}

theorem mem_of_find?_eq_some (found : find? name entries = some value) : (name, value) ∈ entries := by
  induction entries with
  | nil => cases found
  | cons entry rest ih =>
      rcases entry with ⟨key, first⟩
      rw [find?] at found
      split at found
      · rename_i same
        cases same
        cases found
        exact List.mem_cons_self ..
      · exact List.mem_cons_of_mem _ (ih found)

theorem find?_of_mem (ascending : entries.Ascending) (member : (name, value) ∈ entries) :
    find? name entries = some value := by
  induction entries with
  | nil => cases member
  | cons entry rest ih =>
      rcases entry with ⟨key, first⟩
      rcases List.pairwise_cons.1 ascending with ⟨before, restAscending⟩
      rcases List.mem_cons.1 member with same | member
      · cases same
        rw [find?, if_pos rfl]
      · have different : key ≠ name := String.ne_of_lt (before _ member)
        rw [find?, if_neg different, ih restAscending member]

end lookup

theorem mem_ofList {entries : List (String × α)} {entry : String × α}
    (member : entry ∈ ofList entries) : entry ∈ entries := by
  suffices collected : ∀ built : Entries α,
      entry ∈ entries.foldl (fun built entry => insert entry.1 entry.2 built) built →
        entry ∈ built ∨ entry ∈ entries by
    simpa using collected [] member
  clear member
  induction entries with
  | nil => exact fun built member => .inl member
  | cons first rest ih =>
    intro built member
    rcases ih _ member with inserted | member
    · rcases mem_insert inserted with rfl | member
      · exact .inr (List.mem_cons_self ..)
      · exact .inl member
    · exact .inr (List.mem_cons_of_mem _ member)

theorem exists_find?_of_mem_names {entries : Entries α} {name : String}
    (member : name ∈ entries.names) : ∃ value, entries.find? name = some value := by
  induction entries with
  | nil => cases member
  | cons entry rest ih =>
      rcases entry with ⟨key, value⟩
      by_cases same : key = name
      · exact ⟨value, by simp [find?, same]⟩
      · simp only [names, List.map_cons, List.mem_cons] at member
        rcases member with rfl | member
        · exact absurd rfl same
        · simpa [find?, same] using ih member

theorem has_iff_mem_names {entries : Entries α} {name : String} :
    entries.has name = true ↔ name ∈ entries.names := by
  rw [has, Option.isSome_iff_exists]
  constructor
  · rintro ⟨value, found⟩
    exact List.mem_map_of_mem (mem_of_find?_eq_some found)
  · exact exists_find?_of_mem_names

/-- Entries of one name only: there is no room for two of them. -/
theorem eq_nil_or_singleton {entries : Entries α} {name : String} (ascending : entries.Ascending)
    (only : ∀ entry ∈ entries, entry.1 = name) :
    entries = [] ∨ ∃ value, entries = [(name, value)] := by
  cases entries with
  | nil => exact .inl rfl
  | cons first rest =>
      rcases first with ⟨key, value⟩
      have named : key = name := only _ (List.mem_cons_self ..)
      cases rest with
      | nil => exact .inr ⟨value, by rw [named]⟩
      | cons second rest =>
          have later := (List.pairwise_cons.1 ascending).1 second (List.mem_cons_self ..)
          have same := only second (List.mem_cons_of_mem _ (List.mem_cons_self ..))
          rw [named, same] at later
          exact absurd later (String.lt_irrefl name)

/-- Entries under a name that are left out anyway may be put in or not. -/
theorem filter_insert {entries : Entries α} {name : String} {value : α} {keep : String × α → Bool}
    (dropped : ∀ value, keep (name, value) = false) :
    (entries.insert name value).filter keep = entries.filter keep := by
  fun_induction insert name value entries with
  | case1 => simp [dropped]
  | case2 => simp [dropped]
  | case3 => simp [dropped]
  | case4 _ _ _ _ _ ih => simp [List.filter_cons, ih]

/-! ### Names of a map -/

/-- Which names a map has depends on the names alone. -/
theorem names_insert_congr {first : Entries α} {second : Entries β}
    (same : first.names = second.names) (name : String) (value : α) (other : β) :
    (first.insert name value).names = (second.insert name other).names := by
  induction first generalizing second with
  | nil =>
      cases second with
      | nil => rfl
      | cons entry rest => cases same
  | cons entry rest ih =>
      cases second with
      | nil => cases same
      | cons otherEntry otherRest =>
          rcases entry with ⟨key, first⟩
          rcases otherEntry with ⟨otherKey, second⟩
          simp only [names, List.map_cons, List.cons.injEq] at same
          rcases same with ⟨rfl, same⟩
          simp only [insert]
          split
          · simp [names, same]
          · split
            · simp [names, same]
            · simpa [names] using ih same

theorem names_ofList_congr {first : List (String × α)} {second : List (String × β)}
    (same : first.map Prod.fst = second.map Prod.fst) :
    (ofList first).names = (ofList second).names := by
  suffices builds : ∀ (built : Entries α) (other : Entries β), built.names = other.names →
      (first.foldl (fun built entry => insert entry.1 entry.2 built) built).names =
        (second.foldl (fun built entry => insert entry.1 entry.2 built) other).names from
    builds [] [] rfl
  induction first generalizing second with
  | nil =>
      cases second with
      | nil => exact fun _ _ same => same
      | cons entry rest => cases same
  | cons entry rest ih =>
      cases second with
      | nil => cases same
      | cons otherEntry otherRest =>
          rcases List.cons.inj same with ⟨name, same⟩
          intro built other sameBuilt
          apply ih same
          simp only [name]
          exact names_insert_congr sameBuilt _ _ _

end Entries

end AlertContacts
