import RecordStore.Json.Fault
import RecordStore.Kind
import RecordStore.Text.Quoted

/-! # Errors

An error says why an operation did not succeed. Configuration errors arise when a backend is
built; validation errors before anything is sent; backend errors carry the operation that met with
the remote failure and the cause of it. -/

namespace RecordStore

inductive Operation where
  | get
  | set
  | update
  | list
  | remove
  deriving DecidableEq, Repr

def Operation.verb : Operation → String
  | get => "get"
  | set => "set"
  | update => "update"
  | list => "list"
  | remove => "delete"

/-- Why a remote call failed: it did not go through, its text is no JSON, it was answered with an
error status, or the answer lacks a field. -/
inductive Cause where
  | transport
  | json (fault : Json.Fault)
  | status (code : Nat) (body : String)
  | missingField (path : String)
  deriving DecidableEq, Repr

def Cause.message : Cause → String
  | transport => "HTTP client error: <transport>"
  | json fault => "JSON error: " ++ fault.message
  | status code body => "HTTP error " ++ toString code ++ ": " ++ body
  | missingField path => "missing field in response: " ++ path

/-- What is wrong with the arguments that a backend is built from. -/
inductive Misconfiguration where
  | unknownResourceType (name : String)
  | unknownResourceName (name : String)
  | noResource
  | noOrganization
  | invalidAddress (raw reason : String)
  | opaqueAddress (raw : String)
  | other (text : String)
  deriving DecidableEq, Repr

def Misconfiguration.message : Misconfiguration → String
  | unknownResourceType name => "unknown resource type: " ++ name
  | unknownResourceName name => "unknown resource name: " ++ name
  | noResource => "must provide either resource type or resource name"
  | noOrganization => "credentials must include an organization_id"
  | invalidAddress raw reason => "invalid base URL " ++ raw ++ ": " ++ reason
  | opaqueAddress raw => "base URL cannot hold a path: " ++ raw
  | other text => text

inductive StoreError where
  | configuration (what : Misconfiguration)
  | invalidFields (kind : Kind) (fields : List String)
  | kindMismatch (expected actual : Kind)
  | missingIdentifier (operation : Operation)
  | invalidIdentifier (id : String)
  | backend (operation : Operation) (cause : Cause)
  deriving DecidableEq, Repr

namespace StoreError

def message : StoreError → String
  | configuration what => "configuration error: " ++ what.message
  | invalidFields kind fields =>
    "invalid fields for " ++ kind.typeName ++ ": " ++ ", ".intercalate fields
  | kindMismatch expected actual =>
    "key addresses " ++ actual.typeName ++ " but this backend stores " ++ expected.typeName
  | missingIdentifier operation => "cannot " ++ operation.verb ++ " without a resource id"
  | invalidIdentifier id => "invalid resource id: " ++ Text.quoted id
  | backend operation cause =>
    "unable to " ++ operation.verb ++ " object in cloud store backend: " ++ cause.message

/-- Whether the arguments of a call were refused. -/
def isValidation : StoreError → Bool
  | invalidFields _ _ => true
  | kindMismatch _ _ => true
  | missingIdentifier _ => true
  | invalidIdentifier _ => true
  | _ => false

/-- Whether the remote call failed. -/
def isBackend : StoreError → Bool
  | backend _ _ => true
  | _ => false

def operation? : StoreError → Option Operation
  | backend operation _ => some operation
  | missingIdentifier operation => some operation
  | _ => none

def statusCode? : StoreError → Option Nat
  | backend _ (.status code _) => some code
  | _ => none

end StoreError

/-- The kind called `name`, in either spelling of the separator; fails for any other name. -/
def Kind.ofLooseName (name : String) : Except StoreError Kind :=
  match ofLooseName? name with
  | some kind => .ok kind
  | none => .error (.configuration (.unknownResourceType name))

end RecordStore
