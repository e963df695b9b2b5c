import RecordStore.Reference

/-! # Configuration snapshots

What a backend reports about its configuration. In JSON, entries that say nothing are left out:
empty text, `false` and what is absent. -/

namespace RecordStore

structure Config where
  baseUrl : String
  kind : Kind
  resourceName : String
  fixedLengthKey : Bool
  suppressStoreId : Bool
  givenStoreId : Option String
  storeName : Option String
  className : String
  deriving DecidableEq, Repr

namespace Config

def backendClass : String := "CloudStoreBackend"

def textEntry (name text : String) : List (String × Json) :=
  if text = "" then [] else [(name, .string text)]

def flagEntry (name : String) (flag : Bool) : List (String × Json) :=
  if flag then [(name, .bool true)] else []

def optionEntry (name : String) (text : Option String) : List (String × Json) :=
  (text.map fun s => (name, Json.string s)).toList

/-- The entries that say something. -/
def toMembers (c : Config) : Json.Members :=
  Json.Members.ofList <|
    textEntry "base_url" c.baseUrl ++
    [("resource_kind", .string c.kind.typeName), ("resource_name", .string c.resourceName)] ++
    flagEntry "fixed_length_key" c.fixedLengthKey ++
    flagEntry "suppress_store_backend_id" c.suppressStoreId ++
    optionEntry "manually_initialize_store_backend_id" c.givenStoreId ++
    optionEntry "store_name" c.storeName ++
    textEntry "class_name" c.className

def toJson (c : Config) : Json := .object c.toMembers

def layout : Json.Layout Config where
  name := "BackendConfig"
  defaults := ⟨"", .expectationSuite, "", false, false, none, none, ""⟩
  fields := [
    .of "base_url" false .text fun v c => { c with baseUrl := v },
    .of "resource_kind" true Kind.reader fun v c => { c with kind := v },
    .of "resource_name" true .text fun v c => { c with resourceName := v },
    .of "fixed_length_key" false .flag fun v c => { c with fixedLengthKey := v },
    .of "suppress_store_backend_id" false .flag fun v c => { c with suppressStoreId := v },
    .of "manually_initialize_store_backend_id" false (.optional .text)
      fun v c => { c with givenStoreId := v },
    .of "store_name" false (.optional .text) fun v c => { c with storeName := v },
    .of "class_name" false .text fun v c => { c with className := v }]

def reader : Json.Reader Config := layout.reader

end Config

end RecordStore
