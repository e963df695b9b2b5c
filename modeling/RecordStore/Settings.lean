import RecordStore.Config
import RecordStore.Credentials

/-! # Settings

What a backend is built from. The resource may be given by its kind, by its plural name, or by
both; `Settings.resolve` derives the one that is missing. -/

namespace RecordStore

structure Settings where
  baseUrl : String
  credentials : Credentials
  kind : Option Kind
  resourceName : Option String
  suppressStoreId : Bool
  givenStoreId : Option String
  storeName : Option String
  deriving DecidableEq, Repr

namespace Settings

def defaultBaseUrl : String := "https://app.greatexpectations.io/"

def ofCredentials (credentials : Credentials) : Settings :=
  ⟨defaultBaseUrl, credentials, none, none, true, none, none⟩

def ofConfig (config : Config) (credentials : Credentials) : Settings where
  baseUrl := config.baseUrl
  credentials := credentials
  kind := some config.kind
  resourceName := some config.resourceName
  suppressStoreId := config.suppressStoreId
  givenStoreId := config.givenStoreId
  storeName := config.storeName

def withBaseUrl (s : Settings) (baseUrl : String) : Settings := { s with baseUrl := baseUrl }

def withKind (s : Settings) (kind : Kind) : Settings := { s with kind := some kind }

def withResourceName (s : Settings) (name : String) : Settings :=
  { s with resourceName := some name }

def withSuppressStoreId (s : Settings) (suppress : Bool) : Settings :=
  { s with suppressStoreId := suppress }

def withStoreId (s : Settings) (id : String) : Settings := { s with givenStoreId := some id }

def withStoreName (s : Settings) (name : String) : Settings := { s with storeName := some name }

/-- A text that may be absent, taken as absent when it is blank. -/
def nonBlank? (text : Option String) : Option String := text.filter fun s => !Text.isBlankText s

/-- The kind and the plural name of the resource, each derived from the other if it is missing. -/
def resolve (s : Settings) : Except StoreError (Kind × String) :=
  match s.kind, nonBlank? s.resourceName with
  | some kind, some name => .ok (kind, name)
  | some kind, none => .ok (kind, kind.resourceName)
  | none, some name =>
    match Kind.ofResourceName? name with
    | some kind => .ok (kind, name)
    | none => .error (.configuration (.unknownResourceName name))
  | none, none => .error (.configuration .noResource)

def snapshot (s : Settings) (kind : Kind) (resourceName : String) : Config where
  baseUrl := s.baseUrl
  kind := kind
  resourceName := resourceName
  fixedLengthKey := true
  suppressStoreId := s.suppressStoreId
  givenStoreId := nonBlank? s.givenStoreId
  storeName := nonBlank? s.storeName
  className := Config.backendClass

def optionJson : Option String → Json
  | none => .null
  | some s => .string s

/-- The settings in JSON; what is absent is `null`. -/
def toJson (s : Settings) : Json :=
  .object <| Json.Members.ofList [
    ("base_url", .string s.baseUrl),
    ("credentials", s.credentials.toJson),
    ("resource_kind", optionJson (s.kind.map Kind.typeName)),
    ("resource_name", optionJson s.resourceName),
    ("suppress_store_backend_id", .bool s.suppressStoreId),
    ("manually_initialize_store_backend_id", optionJson s.givenStoreId),
    ("store_name", optionJson s.storeName)]

def layout : Json.Layout Settings where
  name := "BackendSettings"
  defaults := {
    baseUrl := defaultBaseUrl
    -- Credentials are required, so that these are always replaced.
    credentials := ⟨"", none, none⟩
    kind := none
    resourceName := none
    suppressStoreId := true
    givenStoreId := none
    storeName := none }
  fields := [
    .of "base_url" false .text fun v s => { s with baseUrl := v },
    .of "credentials" true Credentials.reader fun v s => { s with credentials := v },
    .of "resource_kind" false (.optional Kind.reader) fun v s => { s with kind := v },
    .of "resource_name" false (.optional .text) fun v s => { s with resourceName := v },
    .of "suppress_store_backend_id" false .flag fun v s => { s with suppressStoreId := v },
    .of "manually_initialize_store_backend_id" false (.optional .text)
      fun v s => { s with givenStoreId := v },
    .of "store_name" false (.optional .text) fun v s => { s with storeName := v }]

def reader : Json.Reader Settings := layout.reader

def description (s : Settings) : String :=
  Text.describeRecord "BackendSettings" [
    ("base_url", Text.quoted s.baseUrl),
    ("credentials", s.credentials.description),
    ("resource_kind", Text.describeOption Kind.description s.kind),
    ("resource_name", Text.describeOption Text.quoted s.resourceName),
    ("suppress_store_backend_id", Text.describeBool s.suppressStoreId),
    ("manually_initialize_store_backend_id", Text.describeOption Text.quoted s.givenStoreId),
    ("store_name", Text.describeOption Text.quoted s.storeName)]

end Settings

end RecordStore
