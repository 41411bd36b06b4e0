import HealthLedger.Document.Key

/-!
# Failures of a store

Every call of a store addresses one key, and a failure names it. Reading a state takes two
steps, and a failure of either is wrapped so that a caller can tell them apart.
-/

namespace HealthLedger.Store

open Document (Key)

/-- Why a call of a store failed. -/
inductive Reason where
  /-- Nothing is stored under the key. -/
  | notFound
  /-- Something is stored under the key already. -/
  | alreadyExists
  /-- The carried version is not the stored one. -/
  | conflict
  /-- The request got no complete answer. -/
  | transport (cause : String)
  /-- The store answered with a status that says nothing else. -/
  | api (status : Nat) (message : String)
  /-- A document could not be decoded. -/
  | codec (message : String)
  deriving Repr, DecidableEq

/-- A failure of a store. -/
structure Error where
  /-- The key that was addressed. -/
  key : Key
  /-- What went wrong. -/
  reason : Reason
  deriving Repr, DecidableEq

namespace Error

/-- Whether nothing was stored under the key. -/
def isNotFound (error : Error) : Bool := error.reason = .notFound

/-- Whether something was stored under the key already. -/
def isAlreadyExists (error : Error) : Bool := error.reason = .alreadyExists

/-- Whether another writer was faster; reading again and writing again may succeed. -/
def isConflict (error : Error) : Bool := error.reason = .conflict

/-- The wording of a failure. -/
def message (error : Error) : String :=
  let key := error.key.text
  match error.reason with
  | .notFound => key ++ " not found"
  | .alreadyExists => key ++ " already exists"
  | .conflict =>
    "conflict updating " ++ key ++ ": the object has been modified, re-fetch and try again"
  | .transport cause => "transport error for " ++ key ++ ": " ++ cause
  | .api status message => s!"store returned status {status} for " ++ key ++ ": " ++ message
  | .codec message => "codec error for " ++ key ++ ": " ++ message

end Error

/-- The step of reading a state that failed. -/
inductive ReadStep where
  /-- Making sure that the state exists. -/
  | existence
  /-- Getting it. -/
  | fetch
  deriving Repr, DecidableEq

/-- A failure to read a state. -/
structure ReadError where
  /-- The step that failed. -/
  step : ReadStep
  /-- The name of the state. -/
  name : String
  /-- The namespace of the state. -/
  space : String
  /-- The failure of the store. -/
  source : Error
  deriving Repr, DecidableEq

namespace ReadError

/-- The wording of a failure. -/
def message (error : ReadError) : String :=
  (match error.step with
    | .existence => "error validating state resource exists: "
    | .fetch => "error retrieving state resource: ") ++
    error.space ++ "/" ++ error.name ++ ": " ++ error.source.message

/-- Whether nothing was stored under the key. -/
def isNotFound (error : ReadError) : Bool := error.source.isNotFound

/-- Whether another writer was faster. -/
def isConflict (error : ReadError) : Bool := error.source.isConflict

end ReadError

end HealthLedger.Store
