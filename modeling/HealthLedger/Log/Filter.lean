import HealthLedger.Log.Directive
import HealthLedger.Text.Quoted

/-!
# Log filters

A filter is a list of directives separated by commas. It is shown with the more specific
directives first, those without a span or a field value before the others, and of two
directives that differ only in their level only the later one. A variable of the environment
wins over the configured level if it is a filter.
-/

namespace HealthLedger.Log

/-- A filter: the directives that do not depend on a run, and those that do. -/
structure Filter where
  /-- The directives without a span and a field value. -/
  static : List Directive
  /-- The directives with a span or a field. -/
  dynamic : List Directive

namespace Filter

/-- The filter of some directives. -/
def ofDirectives (directives : List Directive) : Filter :=
  let dynamic := directives.filter (·.isDynamic)
  let static := directives.filter (!·.isDynamic) ++ dynamic.filterMap (·.static?)
  ⟨static.foldl (fun sorted d => d.insert sorted) [],
    dynamic.foldl (fun sorted d => d.insert sorted) []⟩

/-- Read a filter. -/
def parse (text : String) : Except FilterFlaw Filter := do
  let directives ← ((text.splitOn ",").filter (· ≠ "")).mapM Directive.parse
  .ok (ofDirectives directives)

/-- The text of a filter. -/
def text (filter : Filter) : String :=
  ",".intercalate ((filter.static ++ filter.dynamic).map (·.text))

end Filter

/-- Why no log was set up. -/
inductive SetupProblem where
  /-- The configured level is no filter. -/
  | badLevel (level : String) (flaw : FilterFlaw)
  /-- A log is set up already. -/
  | alreadySet
  deriving Repr, DecidableEq

/-- The wording of a problem. -/
def SetupProblem.message : SetupProblem → String
  | .badLevel level flaw => "invalid log filter " ++ Text.quoted level ++ ": " ++ flaw.message
  | .alreadySet =>
    "failed to install tracing subscriber: a global default trace dispatcher has already been set"

/-- The filter of a configured level, unless the environment has a variable that is a filter. -/
def buildFilter (level : String) (override : Option String) :
    Except SetupProblem Filter :=
  match override.map Filter.parse with
  | some (.ok filter) => .ok filter
  | _ => (Filter.parse level).mapError (.badLevel level)

/-- Set up the log, which can be done only once: the filter that is used from now on. -/
def setUp (alreadySet : Bool) (level : String) (override : Option String) :
    Except SetupProblem Filter := do
  let filter ← buildFilter level override
  if alreadySet then .error .alreadySet else .ok filter

end HealthLedger.Log
