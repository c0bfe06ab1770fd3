import AlertContacts.Schema.Basic

/-!
# The schema of a contact

The attributes of a notification contact resource. Name, email and comment come from the
configuration; the identifier, the fully qualified name and the last row of `SHOW` are computed.
-/

namespace AlertContacts

def contactResourceType : String := "notification_contact"

/-- The attribute by which a host keeps track of a contact. -/
def idAttribute : String := "id"

def fullyQualifiedNameAttribute : String := "fully_qualified_name"

def showOutputAttribute : String := "show_output"

/-- The columns of one row of `SHOW`, as a state keeps them. -/
def showOutputType : AttributeType :=
  .ofFields
    [("created_on", .string), ("name", .string), ("email", .string), ("comment", .string),
     ("owner", .string)]

def contactSchema : Schema where
  version := 1
  attributes := Entries.ofList
    [(idAttribute, Attribute.computedString.withDescription "Encoded resource identifier."),
     ("name", Attribute.requiredString.withDescription
       "Specifies the identifier for the contact; must be unique for the account."),
     ("email", Attribute.requiredString.withDescription "Email address for the contact."),
     ("comment", Attribute.optionalString.withDescription "Specifies a comment for the contact."),
     (fullyQualifiedNameAttribute,
       Attribute.computedString.withDescription "Fully qualified name of the resource."),
     (showOutputAttribute,
       { type := .list showOutputType
         flags := { computed := true }
         description := some
           "Outputs the result of `SHOW NOTIFICATION CONTACTS` for the given contact." })]
  description := some "Resource used to manage notification contact objects."

end AlertContacts
