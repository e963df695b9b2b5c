import RecordStore.Json.Scan
import RecordStore.Text.Quoted

/-! # Records in JSON

A record with named fields is written as an object and read from an object or from the array of
its fields in order. A reader takes a type's values from a JSON value, and says how they stand in
text; `Layout` makes the reader of a record from those of its fields. -/

namespace RecordStore.Json

/-- Why a value is not the record that was asked for. -/
inductive Misfit where
  | missingField (name : String)
  | wrongType (found : Json) (expected : String)
  | notSingle
  | wrongLength (length : Nat) (expected : String)
  | unknownName (name : String) (known : List String)

def found : Json → String
  | null => "null"
  | bool b => "boolean `" ++ Text.describeBool b ++ "`"
  | number (.integer i) => "integer `" ++ (Number.integer i).text ++ "`"
  | number (.real x) => "floating point `" ++ x.text ++ "`"
  | string s => "string " ++ Text.quoted s
  | array _ => "sequence"
  | object _ => "map"

def Misfit.message : Misfit → String
  | missingField name => "missing field `" ++ name ++ "`"
  | wrongType value expected => "invalid type: " ++ value.found ++ ", expected " ++ expected
  | notSingle => "invalid value: map, expected map with a single key"
  | wrongLength length expected =>
    "invalid length " ++ toString length ++ ", expected " ++ expected
  | unknownName name known =>
    "unknown variant `" ++ name ++ "`, expected one of " ++
      ", ".intercalate (known.map fun k => "`" ++ k ++ "`")

/-- How values of a type are read, from a JSON value and from text. -/
structure Reader (α : Type) where
  ofJson : Json → Except Misfit α
  scan : Scanner

namespace Reader

def text : Reader String where
  ofJson
    | .string s => .ok s
    | v => .error (.wrongType v "a string")
  scan := scanText

def flag : Reader Bool where
  ofJson
    | .bool b => .ok b
    | v => .error (.wrongType v "a boolean")
  scan := scanFlag

/-- Reads `null` as nothing. -/
def optional {α : Type} (r : Reader α) : Reader (Option α) where
  ofJson
    | .null => .ok none
    | v => (r.ofJson v).map some
  scan := scanOptional r.scan

/-- Reads one of the values that `names` lists with their names. -/
def choice {α : Type} (names : List (String × α)) : Reader α :=
  let known := names.map (·.1)
  let byName (name : String) : Except Misfit α :=
    match names.find? (·.1 = name) with
    | some (_, a) => .ok a
    | none => .error (.unknownName name known)
  { ofJson := fun
      | .string name => byName name
      | .object [(name, value)] => do
        let a ← byName name
        match value with
        | .null => .ok a
        | v => .error (.wrongType v "unit")
      | .object _ => .error .notSingle
      | v => .error (.wrongType v "string or map")
    scan := scanChoice known }

end Reader

/-- A field of the record `ρ`: its name, whether it may be missing, how it is put into the record
and how it stands in text. -/
structure Field (ρ : Type) where
  name : String
  required : Bool
  put : Json → ρ → Except Misfit ρ
  scan : Scanner

def Field.of {α ρ : Type} (name : String) (required : Bool) (r : Reader α) (put : α → ρ → ρ) :
    Field ρ where
  name := name
  required := required
  put v record := (r.ofJson v).map fun a => put a record
  scan := r.scan

/-- A record: its name, its fields in order, and the record whose fields all have their defaults. -/
structure Layout (ρ : Type) where
  name : String
  fields : List (Field ρ)
  defaults : ρ

namespace Layout

variable {ρ : Type} (layout : Layout ρ)

/-- What messages call the record. -/
def expected : String := "struct " ++ layout.name

/-- Puts a member into a record; a member that is no field changes nothing. -/
def putMember (record : ρ) (member : String × Json) : Except Misfit ρ :=
  match layout.fields.find? (·.name = member.1) with
  | some field => field.put member.2 record
  | none => .ok record

/-- Reads the members of an object in their order, then looks for fields that are missing. -/
def ofMembers (members : Members) : Except Misfit ρ := do
  let record ← members.foldlM layout.putMember layout.defaults
  match layout.fields.find? fun field => field.required && (Members.get? field.name members).isNone with
  | some field => .error (.missingField field.name)
  | none => .ok record

/-- Puts items into the fields in order. Fields without item keep their defaults if they have one;
`index` counts the items before. -/
def putItems (length : Nat) : (index : Nat) → List (Field ρ) → List Json → ρ → Except Misfit ρ
  | _, [], [], record => .ok record
  | _, [], _ :: _, _ => .error (.wrongLength length "fewer elements in array")
  | index, field :: fields, [], record =>
    if field.required then
      .error (.wrongLength index
        (layout.expected ++ " with " ++ toString layout.fields.length ++ " elements"))
    else putItems length (index + 1) fields [] record
  | index, field :: fields, item :: items, record => do
    putItems length (index + 1) fields items (← field.put item record)

def ofJson : Json → Except Misfit ρ
  | .object members => layout.ofMembers members
  | .array items => layout.putItems items.length 0 layout.fields items layout.defaults
  | v => .error (.wrongType v layout.expected)

def reader : Reader ρ where
  ofJson := layout.ofJson
  scan := scanRecord (layout.fields.map fun field => ⟨field.name, field.required, field.scan⟩)

def parse (s : String) : Except Fault ρ := do
  let v ← layout.reader.scan s.toList >>= finish
  match layout.ofJson v with
  | .ok record => .ok record
  | .error _ => .error .mismatched

end Layout

end RecordStore.Json
