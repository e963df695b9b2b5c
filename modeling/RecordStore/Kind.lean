import RecordStore.Text.Blank

/-! # Kinds of records

Every record is of one of eight kinds. A kind fixes the name written into request bodies, the
plural name of its collection, the attribute that holds a record's value, and the extra fields
that may accompany a new record. Names are looked up with `-` and `_` taken as the same separator. -/

namespace RecordStore

inductive Kind where
  | expectationSuite
  | checkpoint
  | contract
  | datasource
  | dataContext
  | suiteValidationResult
  | renderedDataDoc
  | dataContextVariables
  deriving DecidableEq, Repr

namespace Kind

def all : List Kind :=
  [expectationSuite, checkpoint, contract, datasource, dataContext, suiteValidationResult,
   renderedDataDoc, dataContextVariables]

theorem mem_all (k : Kind) : k ∈ all := by cases k <;> decide

/-- The name of the kind in request bodies, in JSON and in messages. -/
def typeName : Kind → String
  | expectationSuite => "expectation_suite"
  | checkpoint => "checkpoint"
  | contract => "contract"
  | datasource => "datasource"
  | dataContext => "data_context"
  | suiteValidationResult => "suite_validation_result"
  | renderedDataDoc => "rendered_data_doc"
  | dataContextVariables => "data_context_variables"

/-- The plural name, which names the collection. -/
def resourceName : Kind → String
  | expectationSuite => "expectation_suites"
  | checkpoint => "checkpoints"
  | contract => "contracts"
  | datasource => "datasources"
  | dataContext => "data_contexts"
  | suiteValidationResult => "suite_validation_results"
  | renderedDataDoc => "rendered_data_docs"
  | dataContextVariables => "data_context_variables"

/-- The attribute under which a record's value is kept. -/
def attributeKey : Kind → String
  | expectationSuite => "suite"
  | checkpoint => "checkpoint_config"
  | contract => "checkpoint_config"
  | datasource => "datasource_config"
  | dataContext => "data_context_config"
  | suiteValidationResult => "result"
  | renderedDataDoc => "rendered_data_doc"
  | dataContextVariables => "data_context_variables"

/-- The extra fields that may be sent along with a new record. -/
def allowedFields : Kind → List String
  | expectationSuite => ["clause_id"]
  | suiteValidationResult => ["contract_id", "expectation_suite_id"]
  | renderedDataDoc => ["source_type", "source_id"]
  | _ => []

def description : Kind → String
  | expectationSuite => "ExpectationSuite"
  | checkpoint => "Checkpoint"
  | contract => "Contract"
  | datasource => "Datasource"
  | dataContext => "DataContext"
  | suiteValidationResult => "SuiteValidationResult"
  | renderedDataDoc => "RenderedDataDoc"
  | dataContextVariables => "DataContextVariables"

theorem typeName_injective {a b : Kind} (h : a.typeName = b.typeName) : a = b := by
  revert h; cases a <;> cases b <;> decide

theorem resourceName_injective {a b : Kind} (h : a.resourceName = b.resourceName) : a = b := by
  revert h; cases a <;> cases b <;> decide

def replaceChars (p : Char → Bool) (c : Char) (s : String) : String :=
  String.ofList (s.toList.map fun x => if p x then c else x)

/-- A name as it is written in addresses: its words are joined by `-`. -/
def hyphenate (name : String) : String := replaceChars (fun c => c = '_' || c = ' ') '-' name

/-- A name as it is looked up: without blanks at its ends, its words joined by `_`. -/
def lookupForm (name : String) : String := replaceChars (fun c => c = '-') '_' (Text.trim name)

/-- The kind whose collection is called `name`, in either spelling of the separator. -/
def ofResourceName? (name : String) : Option Kind :=
  all.find? fun k => k.resourceName = lookupForm name

/-- The kind called `name`, in either spelling of the separator. -/
def ofLooseName? (name : String) : Option Kind :=
  all.find? fun k => k.typeName = lookupForm name

/-- The kind called exactly `name`. -/
def ofTypeName? (name : String) : Option Kind := all.find? fun k => k.typeName = name

end Kind

end RecordStore
