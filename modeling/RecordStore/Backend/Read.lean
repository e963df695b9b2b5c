import RecordStore.Backend.Basic

/-! # Reading records

Reading a record, its value, or the keys of the collection. Any status of 300 and above is a
failure, whatever the body says. -/

namespace RecordStore.Backend

variable (b : Backend)

def failure {α : Type} (operation : Operation) (cause : Cause) : Except StoreError α :=
  .error (.backend operation cause)

def documentOf (operation : Operation) : Delivery → Except StoreError Document
  | .error cause => failure operation cause
  | .ok reply =>
    if reply.isSuccess then
      match reply.json with
      | .ok d => .ok d
      | .error fault => failure operation (.json fault)
    else failure operation reply.statusCause

def get (key : Key) : Exchange Document :=
  .checked (b.keyUrl key) fun url => .ask (b.request .get url none) (documentOf .get)

def payloadOf (d : Document) : Except StoreError Json :=
  match d.lookup (Envelope.valuePath b.kind) with
  | some v => .ok v
  | none => failure .get (.missingField "data.attributes")

def getPayload (key : Key) : Exchange Json := (b.get key).andThen b.payloadOf

def keyOfItem (item : Json) : Except StoreError Key :=
  match (item.member? "id").bind Json.identifier? with
  | some id => .ok (.addressed b.kind id)
  | none => failure .list (.missingField "data[].id")

/-- The keys of a listing, one for each item in order. One item without identifier spoils it all. -/
def decodeListing (d : Document) : Except StoreError (List Key) := d.dataItems.mapM b.keyOfItem

def listKeys : Exchange (List Key) :=
  (Exchange.ask (b.request .get b.collectionUrl none) (documentOf .list)).andThen b.decodeListing

def hasKey (key : Key) : Exchange Bool := b.listKeys.andThen fun keys => .ok (keys.contains key)

end RecordStore.Backend
