import RecordStore.Backend.Write

/-! # Sessions

A session is a list of calls on one backend over one transport. It remembers the last record that
was made and the last listing, so that later calls can refer to the keys in them. -/

namespace RecordStore.Session

/-- A key given outright, that of the last record made, or one of the last listing. -/
inductive KeyRef where
  | given (key : Key)
  | created
  | listed (index : Nat)
  deriving DecidableEq, Repr

inductive Call (κ : Type) where
  | info
  | config
  | get (key : κ)
  | getPayload (key : κ)
  | urlForKey (key : κ)
  | set (key : κ) (value : Json) (fields : Fields)
  | setWithOptions (key : κ) (payload : Payload) (options : CreateOptions)
  | listKeys
  | hasKey (key : κ)
  | removeKey (key : κ)
  | validateFields (fields : Fields)
  | decodeListing (document : Document)

inductive Answer where
  | backend (b : Backend)
  | config (c : Config)
  | document (v : Json)
  | text (s : String)
  | flag (b : Bool)
  | keys (keys : List Key)
  | stored (outcome : SetOutcome)
  | done

structure Memory where
  created : Option Reference
  listed : List Key

namespace Memory

def empty : Memory := ⟨none, []⟩

def key? (m : Memory) : KeyRef → Option Key
  | .given key => some key
  | .created => m.created.map Reference.key
  | .listed index => m.listed[index]?

def after {κ : Type} (m : Memory) (call : Call κ) : Except StoreError Answer → Memory
  | .ok (.stored (.created reference)) => { m with created := some reference }
  | .ok (.keys keys) =>
    match call with
    | .listKeys => { m with listed := keys }
    | _ => m
  | _ => m

end Memory

/-- The call with the keys that its references stand for. -/
def Call.resolve (m : Memory) : Call KeyRef → Option (Call Key)
  | info => some info
  | config => some config
  | get key => (m.key? key).map get
  | getPayload key => (m.key? key).map getPayload
  | urlForKey key => (m.key? key).map urlForKey
  | set key value fields => (m.key? key).map (set · value fields)
  | setWithOptions key payload options => (m.key? key).map (setWithOptions · payload options)
  | listKeys => some listKeys
  | hasKey key => (m.key? key).map hasKey
  | removeKey key => (m.key? key).map removeKey
  | validateFields fields => some (validateFields fields)
  | decodeListing document => some (decodeListing document)

def settled {α : Type} (f : α → Answer) (result : Except StoreError α) : Exchange Answer :=
  .settled (result.map f)

def answered {α : Type} (f : α → Answer) (x : Exchange α) : Exchange Answer :=
  x.andThen fun a => .ok (f a)

def Call.perform (b : Backend) : Call Key → Exchange Answer
  | info => .settled (.ok (.backend b))
  | config => .settled (.ok (.config b.config))
  | get key => answered .document (b.get key)
  | getPayload key => answered .document (b.getPayload key)
  | urlForKey key => settled (fun url => .text url.text) (b.keyUrl key)
  | set key value fields => answered .stored (b.set key value fields)
  | setWithOptions key payload options => answered .stored (b.setWithOptions key payload options)
  | listKeys => answered .keys b.listKeys
  | hasKey key => answered .flag (b.hasKey key)
  | removeKey key => answered .flag (b.removeKey key)
  | validateFields fields => settled (fun _ => .done) (b.checkFields fields)
  | decodeListing document => settled .keys (b.decodeListing document)

structure Entry where
  result : Except StoreError Answer
  sent : List Request

/-- Carries out calls one after the other. None if one refers to a key that is not there. -/
def run {σ : Type} (b : Backend) (t : Transport σ) : Memory → σ → List (Call KeyRef) →
    Option (List Entry)
  | _, _, [] => some []
  | m, state, call :: rest => do
    let resolved ← call.resolve m
    let report := (resolved.perform b).run t state
    let entries ← run b t (m.after resolved report.result) report.state rest
    some (⟨report.result, report.sent⟩ :: entries)

end RecordStore.Session
