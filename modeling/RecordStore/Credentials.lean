import RecordStore.Error
import RecordStore.Json.Record

/-! # Credentials

The access token and the organization that owns the records. An organization may still be given
under the older name of account; `Credentials.migrate` moves it to its place. -/

namespace RecordStore

structure Credentials where
  accessToken : String
  organizationId : Option String
  accountId : Option String
  deriving DecidableEq, Repr

namespace Credentials

def ofOrganization (accessToken organizationId : String) : Credentials :=
  ⟨accessToken, some organizationId, none⟩

def ofAccount (accessToken accountId : String) : Credentials := ⟨accessToken, none, some accountId⟩

/-- A text that may be absent, taken as absent when it is empty. -/
def nonEmpty? (text : Option String) : Option String := text.filter (· ≠ "")

def organization (c : Credentials) : String := c.organizationId.getD ""

def hasOrganization (c : Credentials) : Bool := (nonEmpty? c.organizationId).isSome

/-- The credentials with an account turned into the organization, unless there is one. Fails when
neither is named. -/
def migrate (c : Credentials) : Except StoreError Credentials :=
  let migrated : Credentials :=
    match nonEmpty? c.accountId with
    | some account =>
      if c.hasOrganization then { c with accountId := none }
      else { c with organizationId := some account, accountId := none }
    | none => { c with accountId := none }
  if migrated.hasOrganization then .ok migrated else .error (.configuration .noOrganization)

/-- The credentials in JSON; what is absent is left out. -/
def toJson (c : Credentials) : Json :=
  .object <| Json.Members.ofList <|
    [("access_token", Json.string c.accessToken)] ++
    (c.organizationId.map fun id => ("organization_id", Json.string id)).toList ++
    (c.accountId.map fun id => ("account_id", Json.string id)).toList

def layout : Json.Layout Credentials where
  name := "Credentials"
  defaults := ⟨"", none, none⟩
  fields := [
    .of "access_token" true .text fun v c => { c with accessToken := v },
    .of "organization_id" false (.optional .text) fun v c => { c with organizationId := v },
    .of "account_id" false (.optional .text) fun v c => { c with accountId := v }]

def reader : Json.Reader Credentials := layout.reader

/-- What stands in logs instead of the token. -/
def redacted : String := "<redacted>"

def description (c : Credentials) : String :=
  Text.describeRecord "Credentials" [
    ("access_token", Text.quoted redacted),
    ("organization_id", Text.describeOption Text.quoted c.organizationId),
    ("account_id", Text.describeOption Text.quoted c.accountId)]

end Credentials

end RecordStore
