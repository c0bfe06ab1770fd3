import AlertContacts.Identifier
import AlertContacts.Json.Record

/-!
# Rows

What the platform answers. `SHOW` answers with one row for each contact and `DESCRIBE` with one row
for each property; a column that is null or missing in a row is an empty text in the result.
-/

namespace AlertContacts

open Json

/-- A row of a result, by column name. -/
abbrev Row := Entries Value

structure Contact where
  createdOn : Timestamp
  name : String
  email : String
  /-- The comment, empty if there is none. -/
  comment : String
  /-- The owning role, empty if it is not reported. -/
  owner : String
  deriving DecidableEq, Repr

structure ContactProperty where
  name : String
  value : String
  deriving DecidableEq, Repr

structure ShowRow where
  createdOn : Timestamp
  name : String
  email : String
  comment : Option String
  owner : Option String
  deriving DecidableEq, Repr

structure DescribeRow where
  property : String
  value : Option String
  deriving DecidableEq, Repr

namespace Contact

def identifier (contact : Contact) : Identifier :=
  ⟨contact.name⟩

def ofRow (row : ShowRow) : Contact where
  createdOn := row.createdOn
  name := row.name
  email := row.email
  comment := row.comment.getD ""
  owner := row.owner.getD ""

def record : Record Contact :=
  (Record.done Contact.mk)
    |>.and (.required "created_on" Decoder.timestamp)
    |>.and (.required "name" Decoder.string)
    |>.and (.required "email" Decoder.string)
    |>.and (.required "comment" Decoder.string)
    |>.and (.required "owner" Decoder.string)

def decode : Decoder Contact :=
  record.decoder "Contact"

def toValue (contact : Contact) : Value :=
  .ofEntries
    [("created_on", .string contact.createdOn.zuluText), ("name", .string contact.name),
     ("email", .string contact.email), ("comment", .string contact.comment),
     ("owner", .string contact.owner)]

end Contact

namespace ContactProperty

def ofRow (row : DescribeRow) : ContactProperty where
  name := row.property
  value := row.value.getD ""

def record : Record ContactProperty :=
  (Record.done ContactProperty.mk)
    |>.and (.required "name" Decoder.string)
    |>.and (.required "value" Decoder.string)

def decode : Decoder ContactProperty :=
  record.decoder "ContactProperty"

def toValue (property : ContactProperty) : Value :=
  .ofEntries [("name", .string property.name), ("value", .string property.value)]

end ContactProperty

namespace ShowRow

def record : Record ShowRow :=
  (Record.done ShowRow.mk)
    |>.and (.required "created_on" Decoder.timestamp)
    |>.and (.required "name" Decoder.string)
    |>.and (.required "email" Decoder.string)
    |>.and (.optional "comment" Decoder.string)
    |>.and (.optional "owner" Decoder.string)

def decode : Decoder ShowRow :=
  record.decoder "ShowContactRow"

end ShowRow

namespace DescribeRow

def record : Record DescribeRow :=
  (Record.done DescribeRow.mk)
    |>.and (.required "property" Decoder.string)
    |>.and (.optional "value" Decoder.string)

def decode : Decoder DescribeRow :=
  record.decoder "DescribeContactRow"

end DescribeRow

def Identifier.decode : Json.Decoder Identifier := fun value =>
  (Json.Decoder.string value).map Identifier.mk

end AlertContacts
