import RecordStore.Document
import RecordStore.Kind

/-! # Request bodies

A record travels in an envelope: an object whose only member `data` holds the type of the record,
its identifier if it has one, and its attributes. -/

namespace RecordStore

abbrev Fields := Json.Members

namespace Envelope

def organizationKey : String := "organization_id"

def wrap (kind : Kind) (id : Option String) (attributes : Json.Members) : Json :=
  let data := Json.Members.insert "type" (.string kind.typeName) []
  let data := match id with
    | some id => data.insert "id" (.string id)
    | none => data
  .object [("data", .object (data.insert "attributes" (.object attributes)))]

/-- The body that creates a record; extra fields stand beside its value. -/
def create (kind : Kind) (organization : String) (value : Json) (fields : Fields) : Json :=
  wrap kind none <| Json.Members.insertAll fields <|
    Json.Members.insert kind.attributeKey value <|
    Json.Members.insert organizationKey (.string organization) []

def update (kind : Kind) (id organization : String) (value : Json) : Json :=
  wrap kind (some id) <| Json.Members.insert organizationKey (.string organization) <|
    Json.Members.insert kind.attributeKey value []

/-- The body that marks a record as deleted. -/
def delete (kind : Kind) (id : String) : Json :=
  wrap kind (some id) (Json.Members.insert "deleted" (.bool true) [])

def valuePath (kind : Kind) : String := "data/attributes/" ++ kind.attributeKey

end Envelope

end RecordStore
