import RecordStore.Backend.Read
import RecordStore.CreateOptions
import RecordStore.Payload

/-! # Writing records

A key without identifier makes a new record, any other key updates the record it addresses.
Removing a record marks it as deleted. -/

namespace RecordStore

/-- What became of a write: a new record, or an update that the service accepted or not. -/
inductive SetOutcome where
  | created (reference : Reference)
  | updated (accepted : Bool)
  deriving DecidableEq, Repr

namespace SetOutcome

def reference? : SetOutcome → Option Reference
  | created r => some r
  | updated _ => none

def isSuccess : SetOutcome → Bool
  | created _ => true
  | updated accepted => accepted

end SetOutcome

namespace Backend

variable (b : Backend)

/-- The document that answers a create. An error status is reported for a body that is no JSON. -/
def createdDocument (reply : Reply) : Except StoreError Document :=
  match reply.json with
  | .ok d => .ok d
  | .error fault => failure .set (if reply.isSuccess then .json fault else reply.statusCause)

def referenceOf (id : String) : Except StoreError Reference := do
  .ok ⟨b.kind, id, (← b.itemUrl id).text⟩

def concludeCreate : Delivery → Except StoreError Reference
  | .error cause => failure .set cause
  | .ok reply => do
    match (← createdDocument reply).identifierAt "data/id" with
    | some id => b.referenceOf id
    | none =>
      failure .set (if reply.isSuccess then .missingField "data.id" else reply.statusCause)

def create (value : Json) (fields : Fields) : Exchange Reference :=
  .ask (b.request .post b.collectionUrl
    (some (Envelope.create b.kind b.organization value fields))) b.concludeCreate

def accepted (operation : Operation) : Delivery → Except StoreError Bool
  | .error cause => failure operation cause
  | .ok reply => .ok reply.isSuccess

def update (id : String) (value : Json) : Exchange Bool :=
  .checked (b.itemUrl id) fun url =>
    .ask (b.request .patch url (some (Envelope.update b.kind id b.organization value)))
      (accepted .update)

/-- Writes a value. The extra fields must be allowed for a new record; an update has none. -/
def set (key : Key) (value : Json) (fields : Fields) : Exchange SetOutcome :=
  .checked (b.checkKind key) fun _ =>
    match key.id? with
    | some id => (b.update id value).andThen fun accepted => .ok (.updated accepted)
    | none =>
      .checked (b.checkFields fields) fun _ =>
        (b.create value fields).andThen fun reference => .ok (.created reference)

/-- Options can only be given with keys of their kind. -/
def checkOptions (key : Key) (options : CreateOptions) : Except StoreError Unit :=
  match options.kind? with
  | some kind =>
    if kind = key.kind then .ok () else .error (.invalidFields key.kind kind.allowedFields)
  | none => .ok ()

def payloadJson (payload : Payload) : Except StoreError Json :=
  match payload.toJson with
  | .ok v => .ok v
  | .error fault => failure .set (.json fault)

def setWithOptions (key : Key) (payload : Payload) (options : CreateOptions) :
    Exchange SetOutcome :=
  .checked (checkOptions key options) fun _ =>
    .checked (payloadJson payload) fun value => b.set key value options.toFields

def requireId (operation : Operation) (key : Key) : Except StoreError String :=
  match key.id? with
  | some id => .ok id
  | none => .error (.missingIdentifier operation)

/-- Marks a record as deleted. -/
def removeKey (key : Key) : Exchange Bool :=
  .checked (b.checkKind key) fun _ =>
    .checked (requireId .remove key) fun id =>
      .checked (b.itemUrl id) fun url =>
        .ask (b.request .patch url (some (Envelope.delete b.kind id))) (accepted .remove)

end Backend

end RecordStore
