import AlertContacts.Proofs.Record
import AlertContacts.Proofs.Timestamp
import AlertContacts.Provider.State

/-!
# Contacts that are shown again

A contact is written in two forms: with all its properties as a value of its own, and as the row inside its
state that shows what the platform answered. The first form marks universal time with a `Z` and the second
with an offset of zero, and both are read back to the contact (`Contact.decode_toValue`,
`ShowRow.decode_showOutput`).

A comment or an owner that the platform did not report is an empty text in a contact. The row in the state
has that text and not null, which makes no difference to the contact that is read from it.
-/

namespace AlertContacts

open Json

namespace Json

/-- The text of an instant is read back as the instant, in either form of universal time. -/
theorem Decoder.timestamp_text (instant : Timestamp) {zone : String}
    (universal : Timestamp.Universal zone) :
    Decoder.timestamp (.string (instant.text zone)) = .ok instant := by
  rw [timestamp, Timestamp.parse_text instant universal]
  rfl

end Json

namespace Contact

/-- The encoding of a contact is read back as the contact. -/
theorem decode_toValue (contact : Contact) : decode contact.toValue = .ok contact := by
  have createdOn : Decoder.timestamp (.string contact.createdOn.zuluText) = .ok contact.createdOn :=
    Decoder.timestamp_text _ Timestamp.universal_zulu
  have coherent : record.Coherent :=
    .and (.and (.and (.and (.and (.done _) .field) .field) .field) .field) .field
  refine (coherent.decoder_iff (Entries.ascending_ofList _)).2 ?_
  simp [record, Record.ofEntries_done, Record.ofEntries_and, Record.ofEntries_required, Entries.ofList,
    Entries.find?_insert, Decoder.string, createdOn]

/-- The row that shows a contact again, where every column is reported. -/
def shownAgain (contact : Contact) : ShowRow where
  createdOn := contact.createdOn
  name := contact.name
  email := contact.email
  comment := some contact.comment
  owner := some contact.owner

theorem ofRow_shownAgain (contact : Contact) : ofRow contact.shownAgain = contact := rfl

end Contact

/-- The row in the state of a contact decodes, with every column reported. -/
theorem ShowRow.decode_showOutput (contact : Contact) :
    decode (showOutput contact) = .ok contact.shownAgain := by
  have createdOn : Decoder.timestamp (.string contact.createdOn.offsetText) = .ok contact.createdOn :=
    Decoder.timestamp_text _ Timestamp.universal_zeroOffset
  have coherent : record.Coherent :=
    .and (.and (.and (.and (.and (.done _) .field) .field) .field) .field) .field
  refine (coherent.decoder_iff (Entries.ascending_ofList _)).2 ?_
  simp [record, Record.ofEntries_done, Record.ofEntries_and, Record.ofEntries_required,
    Record.ofEntries_optional, Entries.ofList, Entries.find?_insert, Decoder.optional, Decoder.string,
    createdOn, Contact.shownAgain, Except.map]

theorem get?_showOutput_contactState (contact : Contact) :
    (contactState contact).get? showOutputAttribute = some (.array [showOutput contact]) := by
  simp [contactState, Value.ofEntries, Value.get?, Entries.ofList, Entries.find?_insert,
    showOutputAttribute]

/--
Whatever row a contact came from, its encoding is read back as the contact, and the one entry that its state
shows is a row of the same contact.
-/
theorem Contact.encoded_and_shown_read_back (contact : Contact) :
    decode contact.toValue = .ok contact ∧
      ∃ entry, (contactState contact).get? showOutputAttribute = some (.array [entry]) ∧
        ∃ shown, ShowRow.decode entry = .ok shown ∧ ofRow shown = contact :=
  ⟨decode_toValue contact, showOutput contact, get?_showOutput_contactState contact,
    contact.shownAgain, ShowRow.decode_showOutput contact, ofRow_shownAgain contact⟩

end AlertContacts
