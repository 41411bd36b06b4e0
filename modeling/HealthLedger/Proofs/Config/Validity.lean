import HealthLedger.Config

/-!
# What validation refuses

Validation looks at the fields of a configuration in a fixed order and names the first thing that
is wrong. What may be wrong is said here without an order (`Config.lacks`), and the order is one
list of all problems (`Problem.inOrder`). Validation is the search of this list
(`Config.validate_eq`). So it accepts what is complete (`Config.validate_eq_ok_iff`), and refuses
with the first of the problems that are there (`Config.validate_eq_error_iff`).
-/

namespace HealthLedger.Config

variable {config : Config} {problem : Problem}

namespace Problem

/-- The problems in the order in which they are looked for. -/
def inOrder : List Problem := [.unreadable, .unparsable, .noBaseUrl, .noApi, .noPodName, .noTime]

/-- Every problem is looked for. -/
theorem mem_inOrder (problem : Problem) : problem ∈ inOrder := by
  cases problem <;> decide

/-- The problem is there, and none that is looked for before it. -/
structure IsFirst (isThere : Problem → Prop) (problem : Problem) : Prop where
  /-- The problem is there. -/
  found : isThere problem
  /-- No problem that stands before it in the order is there. -/
  first : ∃ before after, inOrder = before ++ problem :: after ∧ ∀ other ∈ before, ¬isThere other

/-- The first problem is found by a search. -/
theorem isFirst_iff_find? {isThere : Problem → Bool} :
    problem.IsFirst (isThere ·) ↔ inOrder.find? isThere = some problem := by
  rw [List.find?_eq_some_iff_append]
  simp only [Bool.not_eq_eq_eq_not, Bool.not_true, ← Bool.not_eq_true]
  exact ⟨fun first => ⟨first.found, first.first⟩, fun found => ⟨found.1, found.2⟩⟩

/-- There is at most one first problem. -/
theorem IsFirst.unique {isThere : Problem → Prop} {other : Problem}
    (one : problem.IsFirst isThere) (two : other.IsFirst isThere) : problem = other := by
  classical
  have isFound {named : Problem} (first : named.IsFirst isThere) :
      inOrder.find? (fun problem => isThere problem) = some named :=
    isFirst_iff_find?.1 (by simpa using first)
  exact Option.some.inj ((isFound one).symm.trans (isFound two))

end Problem

/-- A complete configuration: the texts that are needed say something, and no time is zero. -/
structure Complete (config : Config) : Prop where
  /-- There is an address. -/
  baseUrl : Text.isBlankText config.baseUrl = false
  /-- There is a group. -/
  apiGroup : Text.isBlankText config.apiGroup = false
  /-- There is a version. -/
  apiVersion : Text.isBlankText config.apiVersion = false
  /-- There is a name of the pod. -/
  podName : Text.isBlankText config.podName = false
  /-- There is time for a connection. -/
  connectSeconds : config.connectSeconds ≠ 0
  /-- There is time for an answer. -/
  requestSeconds : config.requestSeconds ≠ 0

/-- What a problem says is wrong with a configuration. The problems of its file are none of the
configuration. -/
def lacks (config : Config) : Problem → Bool
  | .unreadable => false
  | .unparsable => false
  | .noBaseUrl => Text.isBlankText config.baseUrl
  | .noApi => Text.isBlankText config.apiGroup || Text.isBlankText config.apiVersion
  | .noPodName => Text.isBlankText config.podName
  | .noTime => config.connectSeconds = 0 || config.requestSeconds = 0

/-- Nothing is wrong with the complete configurations, and with no others. -/
theorem complete_iff : config.Complete ↔ ∀ problem, config.lacks problem = false := by
  constructor
  · intro complete problem
    cases problem with
    | unreadable | unparsable => rfl
    | noBaseUrl => exact complete.baseUrl
    | noApi => simp [lacks, complete.apiGroup, complete.apiVersion]
    | noPodName => exact complete.podName
    | noTime => simp [lacks, complete.connectSeconds, complete.requestSeconds]
  · intro nothing
    have api := nothing .noApi
    have time := nothing .noTime
    simp only [lacks, Bool.or_eq_false_iff, decide_eq_false_iff_not] at api time
    exact ⟨nothing .noBaseUrl, api.1, api.2, nothing .noPodName, time.1, time.2⟩

/-- Validation searches for the problems in their order. -/
theorem validate_eq (config : Config) :
    config.validate =
      match Problem.inOrder.find? config.lacks with
      | some problem => .error problem
      | none => .ok () := by
  unfold validate
  simp only [Problem.inOrder, List.find?_cons, lacks]
  cases Text.isBlankText config.baseUrl
  case true => rfl
  cases Text.isBlankText config.apiGroup || Text.isBlankText config.apiVersion
  case true => rfl
  cases Text.isBlankText config.podName
  case true => rfl
  cases decide (config.connectSeconds = 0) || decide (config.requestSeconds = 0)
  case true => rfl
  case false => rfl

/-- Validation accepts exactly the complete configurations. -/
theorem validate_eq_ok_iff : config.validate = .ok () ↔ config.Complete := by
  rw [validate_eq, complete_iff]
  cases found : Problem.inOrder.find? config.lacks with
  | none =>
    refine iff_of_true rfl fun problem => ?_
    simpa using List.find?_eq_none.1 found problem problem.mem_inOrder
  | some problem =>
    refine iff_of_false (fun accepted => nomatch accepted) fun nothing => ?_
    exact Bool.false_ne_true ((nothing problem).symm.trans (List.find?_some found))

/-- Validation refuses a configuration with the first thing that is wrong with it. -/
theorem validate_eq_error_iff :
    config.validate = .error problem ↔ problem.IsFirst (config.lacks ·) := by
  rw [validate_eq, Problem.isFirst_iff_find?]
  cases Problem.inOrder.find? config.lacks <;> simp

end HealthLedger.Config
