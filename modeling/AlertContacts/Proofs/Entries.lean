import AlertContacts.Entries
import Mathlib.Data.List.Sort

/-!
# Maps compared

An ascending list of entries is determined by what is found under each name. So two maps that agree on some
names have the same entries under these names, in the same order (`Entries.filter_eq_of_agreeOn`).
-/

namespace AlertContacts.Entries

variable {α : Type} {entries first second : Entries α}

/-! ### Entries without a name -/

def erase (name : String) (entries : Entries α) : Entries α :=
  entries.filter (·.1 != name)

theorem ascending_erase (ascending : entries.Ascending) (name : String) :
    (erase name entries).Ascending :=
  ascending.filter _

theorem find?_erase (name other : String) (entries : Entries α) :
    find? other (erase name entries) = if name = other then none else find? other entries := by
  rw [erase]
  induction entries with
  | nil => simp
  | cons entry rest ih => grind [find?]

/-! ### Maps that agree -/

/-- The same is found under some names. -/
def AgreeOn (names : String → Prop) (first second : Entries α) : Prop :=
  ∀ name, names name → find? name first = find? name second

/-- Two ascending maps that agree on some names have the same entries under them. -/
theorem filter_eq_of_agreeOn (firstAscending : first.Ascending) (secondAscending : second.Ascending)
    (keep : String → Bool) (agree : first.AgreeOn (fun name => keep name = true) second) :
    first.filter (fun entry => keep entry.1) = second.filter fun entry => keep entry.1 := by
  have irreflexive : Std.Irrefl fun earlier later : String × α => earlier.1 < later.1 :=
    ⟨fun entry => String.lt_irrefl entry.1⟩
  have antisymmetric : Std.Antisymm fun earlier later : String × α => earlier.1 < later.1 :=
    ⟨fun earlier later less greater => absurd greater (String.lt_asymm less)⟩
  -- An ascending list is determined by its members, and these are what is found under their names.
  apply List.Pairwise.eq_of_mem_iff (firstAscending.filter _) (secondAscending.filter _)
  rintro ⟨name, value⟩
  rw [List.mem_filter, List.mem_filter]
  apply and_congr_left
  intro kept
  constructor
  · intro member
    apply mem_of_find?_eq_some
    rw [← agree name kept, find?_of_mem firstAscending member]
  · intro member
    apply mem_of_find?_eq_some
    rw [agree name kept, find?_of_mem secondAscending member]

/-- An ascending map is determined by what is found in it. -/
theorem eq_of_find?_eq (firstAscending : first.Ascending) (secondAscending : second.Ascending)
    (same : ∀ name, find? name first = find? name second) : first = second := by
  have kept := filter_eq_of_agreeOn firstAscending secondAscending (fun _ => true)
    fun name _ => same name
  simpa using kept

end AlertContacts.Entries
