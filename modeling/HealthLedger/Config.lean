import HealthLedger.Text.Blank
import HealthLedger.Text.Utf8
import HealthLedger.Toml.Reader

/-!
# Configuration

The configuration says how the store is reached and who writes. It is read from a file, in
which every field has a default and keys that are no fields do not count; then the environment
may give the name of the pod and the token; then it is validated. A variable that is empty or
no text counts as not set.
-/

namespace HealthLedger

/-- How the store is reached, and who writes. -/
structure Config where
  /-- The address of the store. -/
  baseUrl : String := "https://kubernetes.default.svc"
  /-- The group of the documents. -/
  apiGroup : String := "checkstate.dev"
  /-- The version of the group. -/
  apiVersion : String := "v1"
  /-- The name of the pod that writes. -/
  podName : String := ""
  /-- The token that is sent along. -/
  token : Option String := none
  /-- How long to wait for a connection. -/
  connectSeconds : Nat := 10
  /-- How long to wait for an answer. -/
  requestSeconds : Nat := 30
  /-- The level of the log. -/
  logLevel : String := "info"
  deriving Repr, DecidableEq

namespace Config

/-- The name of the configuration file. -/
def fileName : String := "checkstate.toml"

/-- Why there is no configuration. -/
inductive Problem where
  /-- The file could not be read as text. -/
  | unreadable
  /-- The text of the file is no configuration. -/
  | unparsable
  /-- There is no address. -/
  | noBaseUrl
  /-- There is no group or no version. -/
  | noApi
  /-- There is no name of the pod. -/
  | noPodName
  /-- A time to wait is zero. -/
  | noTime
  deriving Repr, DecidableEq

/-- The wording of a problem. -/
def Problem.message : Problem → String
  | .unreadable => "failed to read " ++ fileName
  | .unparsable => "failed to parse " ++ fileName
  | .noBaseUrl => "base_url must not be empty"
  | .noApi => "api_group and api_version must not be empty"
  | .noPodName => "pod_name is not set; configure it or export POD_NAME"
  | .noTime => "timeouts must be greater than zero"

/-- What is found under the name of the configuration file. -/
inductive File where
  /-- Nothing. -/
  | absent
  /-- Something that cannot be read. -/
  | unreadable
  /-- A file with some bytes. -/
  | bytes (contents : List UInt8)

/-- A string of a table, the default if the key is absent, and nothing if it is no string. -/
def stringField (entries : Toml.Entries) (key default : String) : Option String :=
  match entries.find? key with
  | none => some default
  | some (.value (.string text)) => some text
  | some _ => none

/-- A number of seconds of a table, the default if the key is absent, and nothing if it is no
integer or negative. -/
def secondsField (entries : Toml.Entries) (key : String) (default : Nat) : Option Nat :=
  match entries.find? key with
  | none => some default
  | some (.value (.integer n)) => if 0 ≤ n then some n.toNat else none
  | some _ => none

/-- A string of a table that may be absent. -/
def optionalField (entries : Toml.Entries) (key : String) : Option (Option String) :=
  match entries.find? key with
  | none => some none
  | some (.value (.string text)) => some (some text)
  | some _ => none

/-- The configuration of a table. -/
def ofEntries? (entries : Toml.Entries) : Option Config := do
  let defaults : Config := {}
  let baseUrl ← stringField entries "base_url" defaults.baseUrl
  let apiGroup ← stringField entries "api_group" defaults.apiGroup
  let apiVersion ← stringField entries "api_version" defaults.apiVersion
  let podName ← stringField entries "pod_name" defaults.podName
  let token ← optionalField entries "token"
  let connectSeconds ← secondsField entries "connect_timeout_secs" defaults.connectSeconds
  let requestSeconds ← secondsField entries "request_timeout_secs" defaults.requestSeconds
  let logLevel ← stringField entries "log_level" defaults.logLevel
  some ⟨baseUrl, apiGroup, apiVersion, podName, token, connectSeconds, requestSeconds, logLevel⟩

/-- The configuration of a text. -/
def parse (text : String) : Except Problem Config :=
  match (Toml.Entries.parse text).bind ofEntries? with
  | some config => .ok config
  | none => .error .unparsable

/-- The configuration of a file, which must be there. -/
def ofFile : File → Except Problem Config
  | .absent => .error .unreadable
  | .unreadable => .error .unreadable
  | .bytes contents =>
    match Text.Utf8.decode? contents with
    | some chars => parse (String.ofList chars)
    | none => .error .unreadable

/-- The value of an environment variable, if it is set and a text. -/
abbrev Environment := String → Option String

/-- The environment of variables with values of any bytes. A value that is no text counts as not
set. -/
def Environment.ofBytes (values : String → Option (List UInt8)) : Environment := fun name =>
  ((values name).bind Text.Utf8.decode?).map String.ofList

/-- The value of a variable that is not empty. -/
def nonEmpty (environment : Environment) (name : String) : Option String :=
  (environment name).filter (· ≠ "")

/-- The first of the given variables that is not empty, and the variables that were asked for. -/
def firstNonEmpty (environment : Environment) : List String → Option String × List String
  | [] => (none, [])
  | name :: others =>
    match nonEmpty environment name with
    | some value => (some value, [name])
    | none =>
      let (value, asked) := firstNonEmpty environment others
      (value, name :: asked)

/-- The variables that may give the name of the pod. -/
def podVariables : List String := ["POD_NAME", "HOSTNAME"]

/-- The variables that may give the token. -/
def tokenVariables : List String := ["CHECKSTATE_TOKEN"]

/-- The configuration with what the environment gives. -/
def applyEnvironment (config : Config) (environment : Environment) : Config where
  baseUrl := config.baseUrl
  apiGroup := config.apiGroup
  apiVersion := config.apiVersion
  podName := (firstNonEmpty environment podVariables).1.getD config.podName
  token := (firstNonEmpty environment tokenVariables).1.or config.token
  connectSeconds := config.connectSeconds
  requestSeconds := config.requestSeconds
  logLevel := config.logLevel

/-- The variables the environment is asked for, in order. -/
def askedVariables (environment : Environment) : List String :=
  (firstNonEmpty environment podVariables).2 ++ (firstNonEmpty environment tokenVariables).2

/-- The first thing that is wrong with a configuration. -/
def validate (config : Config) : Except Problem Unit :=
  if Text.isBlankText config.baseUrl then .error .noBaseUrl
  else if Text.isBlankText config.apiGroup || Text.isBlankText config.apiVersion then
    .error .noApi
  else if Text.isBlankText config.podName then .error .noPodName
  else if config.connectSeconds = 0 || config.requestSeconds = 0 then .error .noTime
  else .ok ()

/-- The configuration of a file and an environment. Without a file all fields have their
defaults. -/
def load (file : File) (environment : Environment) : Except Problem Config := do
  let config ←
    match file with
    | .absent => .ok {}
    | file => ofFile file
  let config := config.applyEnvironment environment
  config.validate
  .ok config

end Config

end HealthLedger
