import RecordStore.Envelope
import RecordStore.Exchange
import RecordStore.Settings
import RecordStore.Url.Parse

/-! # Backends

A backend stores the records of one kind for one organization. It is built from settings once;
everything that can be wrong with them is found then. The records lie under the address of the
service, in a collection named for the organization and the resource:
`{base}/organizations/{organization}/{resource-name}/{id}`. -/

namespace RecordStore

/-- How a store is told from others: not at all, by an identifier that was given, or by one made
up for it. -/
inductive StoreId where
  | suppressed
  | given (id : String)
  | minted
  deriving DecidableEq, Repr

/-- A store of the records of one kind. -/
structure Backend where
  credentials : Credentials
  base : Url
  kind : Kind
  resourceName : String
  config : Config
  storeId : StoreId
  deriving DecidableEq, Repr

namespace Backend

/-- The address of the service, with a slash at the end of its path. -/
def parseBase (raw : String) : Except StoreError Url :=
  match Url.Address.parse raw with
  | .error fault => .error (.configuration (.invalidAddress raw fault.message))
  | .ok (.opaquePath _) => .error (.configuration (.opaqueAddress raw))
  | .ok (.hierarchical url) => .ok url.close

def storeIdOf (config : Config) : StoreId :=
  if config.suppressStoreId then .suppressed
  else match config.givenStoreId with
    | some id => .given id
    | none => .minted

/-- Builds a backend from settings. The resource is looked at first, then the credentials, then
the address. -/
def ofSettings (s : Settings) : Except StoreError Backend := do
  let (kind, resourceName) ← s.resolve
  let credentials ← s.credentials.migrate
  let base ← parseBase s.baseUrl
  let config := s.snapshot kind resourceName
  .ok ⟨credentials, base, kind, resourceName, config, storeIdOf config⟩

variable (b : Backend)

def organization : String := b.credentials.organization

def allowedFields : List String := b.kind.allowedFields

def collectionSegments : List String :=
  ["organizations", b.organization, Kind.hyphenate b.resourceName]

def collectionUrl : Url := b.base.extend b.collectionSegments

/-- The address of a record. One or two dots cannot name a record: they would lead elsewhere. -/
def itemUrl (id : String) : Except StoreError Url :=
  if id = "." ∨ id = ".." then .error (.invalidIdentifier id) else .ok (b.collectionUrl.push id)

def checkKind (key : Key) : Except StoreError Unit :=
  if key.kind = b.kind then .ok () else .error (.kindMismatch b.kind key.kind)

/-- The address of what a key is about: a record, or the collection. -/
def keyUrl (key : Key) : Except StoreError Url := do
  b.checkKind key
  match key.id? with
  | some id => b.itemUrl id
  | none => .ok b.collectionUrl

/-- The names among `fields` that the kind does not allow, in ascending order. -/
def rejectedFields (fields : Fields) : List String :=
  ((Json.Members.names fields).filter fun name => name ∉ b.allowedFields).mergeSort
    fun x y => decide (x ≤ y)

def checkFields (fields : Fields) : Except StoreError Unit :=
  let rejected := b.rejectedFields fields
  if rejected.isEmpty then .ok () else .error (.invalidFields b.kind rejected)

def request (method : Method) (url : Url) (body : Option Json) : Request :=
  ⟨method, url, b.credentials.accessToken, body⟩

def description : String :=
  Text.describeRecord Config.backendClass [
    ("base_url", Text.quoted b.base.text),
    ("kind", b.kind.description),
    ("resource_name", Text.quoted b.resourceName),
    ("credentials", b.credentials.description)]

end Backend

end RecordStore
