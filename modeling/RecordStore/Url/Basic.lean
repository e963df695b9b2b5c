import RecordStore.Url.Host
import RecordStore.Url.Path

/-! # URLs

The URLs that can hold a path: a scheme, an authority or none, the segments of the path, a query
and a fragment. `Url.text` is the written form. -/

namespace RecordStore

/-- The classes of schemes, which differ in how the rest is read. -/
inductive Url.SchemeClass where
  | file
  | special
  | plain
  deriving DecidableEq, Repr

/-- The part behind two slashes. User name and password are in their written form; a domain that
is empty stands for no host. -/
structure Url.Authority where
  username : String
  password : Option String
  host : Url.Host
  port : Option Nat
  deriving DecidableEq, Repr

/-- A URL whose path is a list of segments. Without authority, a path that would start with two
slashes is `guarded`: a slash and a dot stand before it. -/
structure Url where
  scheme : String
  authority : Option Url.Authority
  guarded : Bool
  path : Url.Path
  query : Option String
  fragment : Option String
  deriving DecidableEq, Repr

namespace Url

def schemeClass (scheme : String) : SchemeClass :=
  if scheme = "file" then .file
  else if scheme ∈ ["http", "https", "ws", "wss", "ftp"] then .special
  else .plain

def impliedPort (scheme : String) : Option Nat :=
  if scheme = "http" ∨ scheme = "ws" then some 80
  else if scheme = "https" ∨ scheme = "wss" then some 443
  else if scheme = "ftp" then some 21
  else none

/-- Whether backslashes are slashes. -/
def SchemeClass.isSpecial (c : SchemeClass) : Bool := c ≠ .plain

def SchemeClass.isFile (c : SchemeClass) : Bool := c = .file

namespace Authority

def hasUserinfo (a : Authority) : Bool := a.username ≠ "" || a.password.isSome

def userinfoText (a : Authority) : String :=
  if a.hasUserinfo then
    a.username ++ (match a.password with
      | some password => ":" ++ password
      | none => "") ++ "@"
  else ""

def text (a : Authority) : String :=
  a.userinfoText ++ a.host.text ++ match a.port with
    | some port => ":" ++ String.ofList (Text.decimal port)
    | none => ""

end Authority

/-- What stands before the path. -/
def origin (u : Url) : String :=
  u.scheme ++ ":" ++ (match u.authority with
    | some a => "//" ++ a.text
    | none => "") ++ if u.guarded then "/." else ""

/-- What stands behind the path. -/
def suffix (u : Url) : String :=
  (match u.query with
    | some q => "?" ++ q
    | none => "") ++ match u.fragment with
    | some f => "#" ++ f
    | none => ""

def text (u : Url) : String := u.origin ++ u.path.text ++ u.suffix

/-- The path and the query as a request names them. -/
def target (u : Url) : String :=
  u.path.text ++ match u.query with
    | some q => "?" ++ q
    | none => ""

def kind (u : Url) : SchemeClass := schemeClass u.scheme

def close (u : Url) : Url := { u with path := u.path.close u.kind.isFile }

/-- The URL with texts as further segments of its path. A slash at the end of the path gives way
to the first of them. -/
def extend (u : Url) (texts : List String) : Url :=
  { u with path := u.path.openEnd.pushAll u.kind.isSpecial u.kind.isFile texts }

def push (u : Url) (s : String) : Url :=
  { u with path := u.path.push u.kind.isSpecial u.kind.isFile s }

end Url

end RecordStore
