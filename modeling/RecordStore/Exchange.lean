import RecordStore.Error
import RecordStore.Json.Reader
import RecordStore.Url.Basic

/-! # Exchanges with the service

A call on a backend is an `Exchange`: it is settled at once, or it sends one request and draws its
conclusion from what becomes of it. `Exchange.run` carries a call out over a transport and reports
what was sent. -/

namespace RecordStore

inductive Method where
  | get
  | post
  | patch
  deriving DecidableEq, Repr

def Method.text : Method → String
  | get => "GET"
  | post => "POST"
  | patch => "PATCH"

structure Request where
  method : Method
  url : Url
  token : String
  body : Option Json

structure Reply where
  status : Nat
  body : String
  deriving DecidableEq, Repr

namespace Reply

/-- Every status below those of redirections and errors is a success. -/
def isSuccess (r : Reply) : Bool := r.status < 300

def json (r : Reply) : Except Json.Fault Json := Json.parse r.body

/-- How much of a body is kept in an error. -/
def keptCharacters : Nat := 200

def excerpt (r : Reply) : String :=
  if keptCharacters < r.body.length then
    String.ofList (r.body.toList.take keptCharacters) ++
      "... [truncated, " ++ toString r.body.utf8ByteSize ++ " bytes total]"
  else r.body

def statusCause (r : Reply) : Cause := .status r.status r.excerpt

end Reply

/-- What becomes of a request: a reply, or the cause of there being none. -/
abbrev Delivery := Except Cause Reply

/-- A way to the service, with a state of its own. -/
structure Transport (σ : Type) where
  send : Request → σ → Delivery × σ

/-- A call: settled without a request, or a request and the conclusion from its delivery. -/
inductive Exchange (α : Type) where
  | settled (result : Except StoreError α)
  | ask (request : Request) (conclude : Delivery → Except StoreError α)

/-- What a call came to: its result, the state of the transport behind it, and what was sent. -/
structure Report (σ α : Type) where
  result : Except StoreError α
  state : σ
  sent : List Request

namespace Exchange

variable {σ α β : Type}

def run (t : Transport σ) (state : σ) : Exchange α → Report σ α
  | settled result => ⟨result, state, []⟩
  | ask request conclude =>
    let (delivery, state) := t.send request state
    ⟨conclude delivery, state, [request]⟩

def requests : Exchange α → List Request
  | settled _ => []
  | ask request _ => [request]

/-- The call with a further conclusion from its result. -/
def andThen (x : Exchange α) (f : α → Except StoreError β) : Exchange β :=
  match x with
  | settled result => settled (result >>= f)
  | ask request conclude => ask request fun delivery => conclude delivery >>= f

/-- A call that is made only if a check succeeds. -/
def checked (check : Except StoreError α) (next : α → Exchange β) : Exchange β :=
  match check with
  | .ok a => next a
  | .error e => settled (.error e)

@[simp] theorem run_sent (t : Transport σ) (state : σ) (x : Exchange α) :
    (x.run t state).sent = x.requests := by cases x <;> rfl

@[simp] theorem checked_ok (a : α) (next : α → Exchange β) : checked (.ok a) next = next a := rfl

end Exchange

/-- A transport that replays deliveries in order; when none is left the service is out of order. -/
def Transport.scripted : Transport (List Delivery) where
  send _
    | [] => (.ok ⟨500, "no reply queued"⟩, [])
    | delivery :: rest => (delivery, rest)

end RecordStore
