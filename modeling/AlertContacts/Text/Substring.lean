/-!
# Texts inside texts

Whether a text occurs inside another one, at any position.
-/

namespace AlertContacts.Text

/-- Whether `part` occurs in a text as a run of consecutive characters. -/
def occursIn (part : List Char) : List Char → Bool
  | [] => part.isEmpty
  | char :: rest => part.isPrefixOf (char :: rest) || occursIn part rest

def contains (whole part : String) : Bool :=
  occursIn part.toList whole.toList

theorem occursIn_iff {part whole : List Char} : occursIn part whole = true ↔ part <:+: whole := by
  induction whole with
  | nil => simp [occursIn]
  | cons char rest ih =>
    rw [occursIn, Bool.or_eq_true, ih, List.infix_cons_iff, List.isPrefixOf_iff_prefix]

end AlertContacts.Text
