import RecordStore.Exchange
import RecordStore.Http.Base64
import RecordStore.Json.Printer
import RecordStore.Text.Blank

/-! # Requests over HTTP

How a request reaches a server: its method, its target, its headers and its body as text. A
request that cannot be written, or that is meant for another server, is not sent at all. -/

namespace RecordStore.Http

def bodyType : String := "application/vnd.api+json"

/-- What a server sees of a request. -/
structure Message where
  method : Method
  target : String
  authorization : List String
  contentType : List String
  body : String
  deriving DecidableEq, Repr

structure Server where
  host : Url.Host
  port : Nat
  deriving DecidableEq, Repr

def isOuterBlank (c : Char) : Bool := c = ' ' || c = '\t'

def headerValue (s : String) : String := String.ofList (Text.strip isOuterBlank s.toList)

/-- Whether a header can hold a text: no controls but the tab. -/
def isHeaderText (s : String) : Bool :=
  s.toList.all fun c => (' ' ≤ c || c = '\t') && c ≠ Char.ofNat 0x7F

/-- User name and password of a URL, decoded. A user name that is no text is not used, a password
that is no text counts as none. -/
def userAndPassword? (a : Url.Authority) : Option (String × Option String) := do
  let username ← Url.decodeText? a.username.toList
  let password := a.password.bind fun p => Url.decodeText? p.toList
  if username = "" ∧ password.isNone then none else some (username, password)

def basic (username : String) (password : Option String) : String :=
  "Basic " ++ String.ofList (base64 (Url.utf8 (username ++ ":" ++ password.getD "").toList))

def bearer (token : String) : String := "Bearer " ++ token

/-- The authorization headers of a request, that of the URL first. -/
def authorizationOf (r : Request) : List String :=
  let fromUrl := (r.url.authority.bind userAndPassword?).map fun (username, password) =>
    basic username password
  fromUrl.toList ++ [headerValue (bearer r.token)]

def reaches (server : Server) (url : Url) : Bool :=
  url.scheme = "http" && match url.authority with
    | some a => a.host = server.host && a.port = some server.port
    | none => false

def Message.ofRequest? (server : Server) (r : Request) : Option Message :=
  if isHeaderText r.token && reaches server r.url then
    some ⟨r.method, r.url.target, authorizationOf r, [bodyType],
      (r.body.map Json.render).getD ""⟩
  else none

/-- Statuses whose replies have no body. -/
def isBodiless (status : Nat) : Bool := status = 204 || status = 304

/-- A reply as it arrives: the status has three digits, and some statuses allow no body. -/
def arrives (reply : Reply) : Delivery :=
  if reply.status < 100 ∨ 999 < reply.status then .error .transport
  else .ok (if isBodiless reply.status then { reply with body := "" } else reply)

/-- A delivery as it arrives. A server that breaks off leaves nothing but the failure to reach it. -/
def delivered : Delivery → Delivery
  | .ok reply => arrives reply
  | .error _ => .error .transport

/-- The transport to a server over HTTP, where `server` answers what `t` delivers. -/
def transport {σ : Type} (server : Server) (t : Transport σ) : Transport σ where
  send r state :=
    match Message.ofRequest? server r with
    | none => (.error .transport, state)
    | some _ =>
      let (delivery, state) := t.send r state
      (delivered delivery, state)

end RecordStore.Http
