import HealthLedger.Document.Decoder

/-!
# Keys

A document is stored under its kind, its namespace and its name. The store knows two kinds: the
state of a check and a check job.
-/

namespace HealthLedger.Document

/-- The kinds of documents. -/
inductive Kind where
  /-- The state of a check. -/
  | checkState
  /-- A check job. -/
  | checkJob
  deriving Repr, DecidableEq

namespace Kind

/-- The name of a kind in documents. -/
def name : Kind → String
  | .checkState => "CheckState"
  | .checkJob => "CheckJob"

/-- The name of the collection of all documents of a kind. -/
def plural : Kind → String
  | .checkState => "checkstates"
  | .checkJob => "checkjobs"

/-- The kinds by their names. -/
def choices : List (String × Kind) :=
  [("CheckState", .checkState), ("CheckJob", .checkJob)]

/-- The decoder of a kind. -/
def decoder : Decoder Kind := .choice choices (choices.map (·.1))

/-- A kind as a JSON value. -/
def toValue (kind : Kind) : Json.Value := .string kind.name

end Kind

/-- What a document is stored under. -/
structure Key where
  /-- The kind of the document. -/
  kind : Kind
  /-- The name of the document. -/
  name : String
  /-- The namespace of the document. -/
  space : String
  deriving Repr, DecidableEq

/-- The wording of a key. -/
def Key.text (key : Key) : String := key.kind.plural ++ " " ++ key.space ++ "/" ++ key.name

end HealthLedger.Document
