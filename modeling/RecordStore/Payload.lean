import RecordStore.Json.Basic
import RecordStore.Json.Fault

/-! # Values to be stored

A caller stores a JSON value, or a table whose entries are named by values of any kind. A table
becomes an object if all its names can be written as strings. -/

namespace RecordStore

inductive Payload where
  | value (v : Json)
  | table (entries : List (Json × Json))

namespace Payload

/-- The name of an entry: a string, or the text of a number or truth value. -/
def entryName : Json → Except Json.Fault String
  | .string s => .ok s
  | .number n => .ok n.text
  | .bool b => .ok (if b then "true" else "false")
  | _ => .error .malformed

/-- The value in JSON, or the fault of a table that has none. -/
def toJson : Payload → Except Json.Fault Json
  | value v => .ok v
  | table entries => do
    let members ← entries.mapM fun (name, v) => do .ok (← entryName name, v)
    .ok (.object (Json.Members.ofList members))

end Payload

end RecordStore
