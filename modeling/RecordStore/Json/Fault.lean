/-! # What is wrong with a JSON text -/

namespace RecordStore.Json

/-- Why a text is not read: it ends too early, it breaks the grammar, or it is well formed so far
but not of the shape that was asked for. -/
inductive Fault where
  | truncated
  | malformed
  | mismatched
  deriving DecidableEq, Repr

def Fault.message : Fault → String
  | truncated => "<eof>"
  | malformed => "<syntax>"
  | mismatched => "<data>"

/-- A value that is kept has to be representable; one that is skipped need only be well formed. -/
inductive Purpose where
  | keep
  | skip
  deriving DecidableEq, Repr

end RecordStore.Json
