import AlertContacts.Json.Record
import AlertContacts.Sql.Clause

/-!
# Filters on the wire

A filter travels as a record with its pattern.
-/

namespace AlertContacts.Like

open Json

def record : Record Like :=
  (Record.done Like.mk) |>.and (.required "pattern" Decoder.string)

def decode : Decoder Like :=
  record.decoder "Like"

def toValue (filter : Like) : Value :=
  .ofEntries [("pattern", .string filter.pattern)]

end AlertContacts.Like
