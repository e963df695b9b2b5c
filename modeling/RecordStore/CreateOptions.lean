import RecordStore.Envelope

/-! # Options for new records

The extra fields of a new record, with a name for each. The options of a kind can only be given
with keys of that kind; an option that is not set is not sent. -/

namespace RecordStore

/-- What may be said about a new record. -/
inductive CreateOptions where
  | unspecified
  | expectationSuite (clauseId : Option String)
  | renderedDataDoc (sourceType sourceId : Option String)
  | suiteValidationResult (contractId expectationSuiteId : Option String)
  deriving DecidableEq, Repr

namespace CreateOptions

/-- The kind that the options belong to; none when they suit every kind. -/
def kind? : CreateOptions → Option Kind
  | unspecified => none
  | expectationSuite _ => some .expectationSuite
  | renderedDataDoc _ _ => some .renderedDataDoc
  | suiteValidationResult _ _ => some .suiteValidationResult

/-- Each option with the name of its field. -/
def named : CreateOptions → List (String × Option String)
  | unspecified => []
  | expectationSuite clauseId => [("clause_id", clauseId)]
  | renderedDataDoc sourceType sourceId => [("source_type", sourceType), ("source_id", sourceId)]
  | suiteValidationResult contractId expectationSuiteId =>
    [("contract_id", contractId), ("expectation_suite_id", expectationSuiteId)]

def toFields (options : CreateOptions) : Fields :=
  Json.Members.ofList <| options.named.filterMap fun (name, value) =>
    value.map fun text => (name, Json.string text)

end CreateOptions

end RecordStore
