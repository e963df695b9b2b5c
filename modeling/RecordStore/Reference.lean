import RecordStore.Json.Record
import RecordStore.Key

/-! # References

A reference is what the creation of a record leaves behind: its kind, the identifier that the
service gave it, and its address. -/

namespace RecordStore

def Kind.reader : Json.Reader Kind := .choice (Kind.all.map fun k => (k.typeName, k))

structure Reference where
  kind : Kind
  remoteId : String
  url : String
  deriving DecidableEq, Repr

namespace Reference

def key (r : Reference) : Key := .addressed r.kind r.remoteId

def toJson (r : Reference) : Json :=
  .object <| Json.Members.ofList [
    ("resource_kind", .string r.kind.typeName), ("remote_id", .string r.remoteId),
    ("url", .string r.url)]

def layout : Json.Layout Reference where
  name := "ResourceRef"
  defaults := ⟨.expectationSuite, "", ""⟩
  fields := [
    .of "resource_kind" true Kind.reader fun v r => { r with kind := v },
    .of "remote_id" true .text fun v r => { r with remoteId := v },
    .of "url" true .text fun v r => { r with url := v }]

def reader : Json.Reader Reference := layout.reader

def description (r : Reference) : String :=
  Text.describeRecord "ResourceRef" [
    ("resource_kind", r.kind.description), ("remote_id", Text.quoted r.remoteId),
    ("url", Text.quoted r.url)]

end Reference

end RecordStore
