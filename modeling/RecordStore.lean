import RecordStore.Backend.Basic
import RecordStore.Backend.Read
import RecordStore.Backend.Write
import RecordStore.Config
import RecordStore.CreateOptions
import RecordStore.Credentials
import RecordStore.Decimal.Binary64
import RecordStore.Decimal.Shortest
import RecordStore.Decimal.Text
import RecordStore.Document
import RecordStore.Envelope
import RecordStore.Error
import RecordStore.Exchange
import RecordStore.Http.Base64
import RecordStore.Http.Wire
import RecordStore.Json.Basic
import RecordStore.Json.Fault
import RecordStore.Json.Lexeme
import RecordStore.Json.Printer
import RecordStore.Json.Reader
import RecordStore.Json.Record
import RecordStore.Json.Scan
import RecordStore.Key
import RecordStore.Kind
import RecordStore.Payload
import RecordStore.Reference
import RecordStore.Session
import RecordStore.Settings
import RecordStore.Text.Blank
import RecordStore.Text.CombiningClass
import RecordStore.Text.Composition
import RecordStore.Text.Digits
import RecordStore.Text.Direction
import RecordStore.Text.Joining
import RecordStore.Text.Mark
import RecordStore.Text.Quoted
import RecordStore.Text.Split
import RecordStore.Text.Unprintable
import RecordStore.Url.Basic
import RecordStore.Url.Encode
import RecordStore.Url.Host
import RecordStore.Url.Label
import RecordStore.Url.Parse
import RecordStore.Url.Path
import RecordStore.Url.Permitted
import RecordStore.Url.Punycode
import RecordStore.Proofs.Steps
import RecordStore.Proofs.Url.PercentEncoding
import RecordStore.Proofs.Url.Segments
import RecordStore.Proofs.Calls.Objections
import RecordStore.Proofs.Calls.Requests
import RecordStore.Proofs.Calls.Conclusions
import RecordStore.Proofs.Calls.Outcomes
import RecordStore.Proofs.Calls.Preflight
import RecordStore.Proofs.Construction
import RecordStore.Proofs.Calls.Protocol
import RecordStore.Proofs.Url.Appending
import RecordStore.Proofs.Url.Reading
import RecordStore.Proofs.Url.Closing
import RecordStore.Proofs.CollectionAddresses
import RecordStore.Proofs.BasePaths
import RecordStore.Proofs.Json.Members
import RecordStore.Proofs.Json.Records
import RecordStore.Proofs.Paths
import RecordStore.Proofs.Calls.SameKeys
import RecordStore.Proofs.Calls.WrittenValues
import RecordStore.Proofs.Rebuilding
import RecordStore.Proofs.Calls.Tokens
import RecordStore.Proofs.LegacyCredentials
import RecordStore.Proofs.Calls.NewRecords
import RecordStore.Proofs.Calls.Failures
import RecordStore.Proofs.Misconfiguration
import RecordStore.Proofs.Names
import RecordStore.Proofs.NamedCollections
import RecordStore.Proofs.Json.Identifiers
import RecordStore.Proofs.Listings
import RecordStore.Proofs.Calls.Membership
import RecordStore.Proofs.Calls.NewBodies
import RecordStore.Proofs.Calls.Creates
import RecordStore.Proofs.Calls.Reads
import RecordStore.Proofs.Calls.Changes
import RecordStore.Proofs.Calls.TypedOptions
import RecordStore.Proofs.KeyViews
import RecordStore.Proofs.Navigation
import RecordStore.Proofs.RecordReaders
import RecordStore.Proofs.WrittenRecords
import RecordStore.Proofs.BuiltSettings
