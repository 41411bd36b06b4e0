import HealthLedger.Proofs.Config.Environment

/-!
# Where the configuration comes from

A file gives some fields of a configuration and leaves others out (`Config.Draft`). What is left
out has its default, whatever else is given (`Draft.filled`), and the environment goes before the
file for the name of the pod and the token (`Draft.merged`). `Config.load` returns this
configuration if it is complete, and otherwise the first problem in one order of all problems
(`Config.loads_by_precedence`).
-/

namespace HealthLedger

/-- A string as an item of a table. -/
def Toml.Item.ofString (text : String) : Item := .value (.string text)

/-- A number that is not negative as an item of a table. -/
def Toml.Item.ofNat (n : Nat) : Item := .value (.integer n)

namespace Config

variable {config : Config} {entries : Toml.Entries} {key : String} {file : File}
  {environment : Environment}

/-- What a file gives of a configuration. -/
structure Draft where
  /-- The address of the store. -/
  baseUrl : Option String := none
  /-- The group of the documents. -/
  apiGroup : Option String := none
  /-- The version of the group. -/
  apiVersion : Option String := none
  /-- The name of the pod that writes. -/
  podName : Option String := none
  /-- The token that is sent along. -/
  token : Option String := none
  /-- How long to wait for a connection. -/
  connectSeconds : Option Nat := none
  /-- How long to wait for an answer. -/
  requestSeconds : Option Nat := none
  /-- The level of the log. -/
  logLevel : Option String := none

/-- The table has exactly the fields of a draft. What it has under other keys does not count. -/
structure Draft.WrittenIn (draft : Draft) (entries : Toml.Entries) : Prop where
  /-- The key of the address. -/
  baseUrl : entries.find? "base_url" = draft.baseUrl.map .ofString
  /-- The key of the group. -/
  apiGroup : entries.find? "api_group" = draft.apiGroup.map .ofString
  /-- The key of the version. -/
  apiVersion : entries.find? "api_version" = draft.apiVersion.map .ofString
  /-- The key of the name of the pod. -/
  podName : entries.find? "pod_name" = draft.podName.map .ofString
  /-- The key of the token. -/
  token : entries.find? "token" = draft.token.map .ofString
  /-- The key of the time for a connection. -/
  connectSeconds : entries.find? "connect_timeout_secs" = draft.connectSeconds.map .ofNat
  /-- The key of the time for an answer. -/
  requestSeconds : entries.find? "request_timeout_secs" = draft.requestSeconds.map .ofNat
  /-- The key of the level of the log. -/
  logLevel : entries.find? "log_level" = draft.logLevel.map .ofString

/-- A file holds what it gives of a configuration. -/
inductive File.Holds : File → Draft → Prop
  /-- Nothing is given without a file. -/
  | absent : Holds .absent {}
  /-- A table with the fields of a draft is written in the file. -/
  | written {text : String} {entries : Toml.Entries} {draft : Draft}
    (table : Toml.Entries.parse text = some entries) (given : draft.WrittenIn entries) :
    Holds (.bytes (Text.Utf8.encode text)) draft

/-- The file is there, and it has no text. -/
def File.Unreadable : File → Prop
  | .absent => False
  | .unreadable => True
  | .bytes contents => ∀ text, contents ≠ Text.Utf8.encode text

/-- What is given has its value, and what is not has its default. -/
def Draft.filled (draft : Draft) : Config where
  baseUrl := draft.baseUrl.getD "https://kubernetes.default.svc"
  apiGroup := draft.apiGroup.getD "checkstate.dev"
  apiVersion := draft.apiVersion.getD "v1"
  podName := draft.podName.getD ""
  token := draft.token
  connectSeconds := draft.connectSeconds.getD 10
  requestSeconds := draft.requestSeconds.getD 30
  logLevel := draft.logLevel.getD "info"

/-- The environment goes before the file for the name of the pod and the token. -/
def Draft.merged (draft : Draft) (environment : Environment) : Config :=
  { draft.filled with
    podName :=
      (firstGiven [environment "POD_NAME", environment "HOSTNAME", draft.podName]).getD ""
    token := (firstGiven [environment "CHECKSTATE_TOKEN"]).or draft.token }

/-- The environment is applied to the fields of the file with their defaults. -/
theorem Draft.merged_eq (draft : Draft) (environment : Environment) :
    draft.merged environment = draft.filled.applyEnvironment environment := by
  -- An empty name in the file gives nothing, and neither does the empty default.
  have pod := firstGiven_getD [environment "POD_NAME", environment "HOSTNAME"] draft.podName
  rw [Draft.merged, applyEnvironment, firstNonEmpty_fst, firstNonEmpty_fst]
  exact congrArg (fun name => Config.mk _ _ _ name _ _ _ _) pod

/-- An optional string is read as it is given. -/
theorem optionalField_eq_some_iff {given : Option String} :
    optionalField entries key = some given ↔ entries.find? key = given.map .ofString := by
  unfold optionalField
  split
  · next absent =>
    rw [absent]
    cases given <;> simp
  · next text written =>
    rw [written]
    cases given <;> simp [Toml.Item.ofString]
  · next item other found =>
    rw [found]
    cases given with
    | none => simp
    | some text => simpa [Toml.Item.ofString] using other text

/-- A string is read as it is given, or else as its default. -/
theorem stringField_eq_some_iff {default text : String} :
    stringField entries key default = some text ↔
      ∃ given : Option String, entries.find? key = given.map .ofString ∧
        given.getD default = text := by
  have same : stringField entries key default =
      (optionalField entries key).map (·.getD default) := by
    unfold stringField optionalField
    split <;> rfl
  rw [same, Option.map_eq_some_iff]
  simp only [optionalField_eq_some_iff]

/-- A number of seconds is read as it is given, or else as its default. -/
theorem secondsField_eq_some_iff {default seconds : Nat} :
    secondsField entries key default = some seconds ↔
      ∃ given : Option Nat, entries.find? key = given.map .ofNat ∧
        given.getD default = seconds := by
  constructor
  · intro read
    unfold secondsField at read
    split at read
    · next absent => exact ⟨none, absent, Option.some.inj read⟩
    · next n written =>
      split at read
      · next positive =>
        refine ⟨some n.toNat, ?_, Option.some.inj read⟩
        rw [written, Option.map_some, Toml.Item.ofNat, Int.toNat_of_nonneg positive]
      · contradiction
    · contradiction
  · rintro ⟨given, there, rfl⟩
    cases given with
    | none => simp [secondsField, there]
    | some n => simp [secondsField, there, Toml.Item.ofNat]

/-- A table is read as the fields that it has, with the defaults of the others. -/
theorem ofEntries?_eq_some_iff :
    ofEntries? entries = some config ↔ ∃ draft : Draft, draft.WrittenIn entries ∧
      draft.filled = config := by
  simp only [ofEntries?, Option.bind_eq_bind, Option.bind_eq_some_iff, stringField_eq_some_iff,
    optionalField_eq_some_iff, secondsField_eq_some_iff]
  constructor
  · rintro ⟨_, ⟨baseUrl, base, rfl⟩, _, ⟨apiGroup, group, rfl⟩, _, ⟨apiVersion, version, rfl⟩,
      _, ⟨podName, pod, rfl⟩, token, tokenGiven, _, ⟨connect, connectGiven, rfl⟩,
      _, ⟨request, requestGiven, rfl⟩, _, ⟨logLevel, level, rfl⟩, read⟩
    exact ⟨⟨baseUrl, apiGroup, apiVersion, podName, token, connect, request, logLevel⟩,
      ⟨base, group, version, pod, tokenGiven, connectGiven, requestGiven, level⟩,
      Option.some.inj read⟩
  · rintro ⟨draft, given, rfl⟩
    exact ⟨_, ⟨_, given.baseUrl, rfl⟩, _, ⟨_, given.apiGroup, rfl⟩, _, ⟨_, given.apiVersion, rfl⟩,
      _, ⟨_, given.podName, rfl⟩, _, given.token, _, ⟨_, given.connectSeconds, rfl⟩,
      _, ⟨_, given.requestSeconds, rfl⟩, _, ⟨_, given.logLevel, rfl⟩, rfl⟩

/-- A text is read if its table has the fields of a draft. -/
theorem parse_eq_ok_iff {text : String} :
    parse text = .ok config ↔ ∃ entries, Toml.Entries.parse text = some entries ∧
      ∃ draft : Draft, draft.WrittenIn entries ∧ draft.filled = config := by
  simp only [← ofEntries?_eq_some_iff, ← Option.bind_eq_some_iff]
  unfold parse
  split <;> simp [*]

/-- A text that is not read is unparsable. -/
theorem eq_unparsable_of_parse {text : String} {problem : Problem}
    (fails : parse text = .error problem) : problem = .unparsable := by
  unfold parse at fails
  split at fails
  · contradiction
  · exact (Except.error.inj fails).symm

namespace File

/-- Bytes that are those of no text are not read. -/
theorem source_unwritten {contents : List UInt8}
    (unwritten : ∀ text, contents ≠ Text.Utf8.encode text) :
    (File.bytes contents).source = .error .unreadable := by
  change ofFile (.bytes contents) = _
  rw [ofFile, Text.Utf8.decode?_eq_none_iff.2 unwritten]

/-- The bytes of a text are read as the text. -/
theorem source_written (text : String) :
    (File.bytes (Text.Utf8.encode text)).source = parse text :=
  ofFile_encode text

/-- A file is read if it holds a draft, as the draft with the defaults. -/
theorem source_eq_ok_iff :
    file.source = .ok config ↔ ∃ draft, file.Holds draft ∧ draft.filled = config := by
  constructor
  · intro read
    cases file with
    | absent => exact ⟨{}, .absent, Except.ok.inj read⟩
    | unreadable => exact nomatch read
    | bytes contents =>
      by_cases written : ∃ text, contents = Text.Utf8.encode text
      · obtain ⟨text, rfl⟩ := written
        rw [source_written, parse_eq_ok_iff] at read
        obtain ⟨entries, table, draft, given, rfl⟩ := read
        exact ⟨draft, .written table given, rfl⟩
      · rw [source_unwritten (not_exists.1 written)] at read
        contradiction
  · rintro ⟨draft, holds, rfl⟩
    cases holds with
    | absent => rfl
    | written table given =>
      rw [source_written]
      exact parse_eq_ok_iff.2 ⟨_, table, draft, given, rfl⟩

/-- A file that is not read has no text, or its text is no configuration. -/
theorem source_error {problem : Problem} (fails : file.source = .error problem) :
    problem = .unreadable ∧ file.Unreadable ∨ problem = .unparsable ∧ ¬file.Unreadable := by
  cases file with
  | absent => exact nomatch fails
  | unreadable => exact .inl ⟨(Except.error.inj fails).symm, trivial⟩
  | bytes contents =>
    by_cases written : ∃ text, contents = Text.Utf8.encode text
    · obtain ⟨text, rfl⟩ := written
      rw [source_written] at fails
      exact .inr ⟨eq_unparsable_of_parse fails, fun unwritten => unwritten text rfl⟩
    · rw [source_unwritten (not_exists.1 written)] at fails
      exact .inl ⟨(Except.error.inj fails).symm, not_exists.1 written⟩

end File

/-- A problem is there when the file is loaded in the environment. -/
def Problem.OccursIn (file : File) (environment : Environment) : Problem → Prop
  | .unreadable => file.Unreadable
  | .unparsable => ∀ draft, ¬file.Holds draft
  | problem => ∃ draft, file.Holds draft ∧ (draft.merged environment).lacks problem

/-- If the file holds a draft, the problems are those of the configuration. -/
theorem Problem.occursIn_iff {draft : Draft} (holds : file.Holds draft) {problem : Problem} :
    problem.OccursIn file environment ↔ (draft.merged environment).lacks problem := by
  have lacked : (∃ other, file.Holds other ∧ (other.merged environment).lacks problem) ↔
      (draft.merged environment).lacks problem := by
    refine ⟨?_, fun lacks => ⟨draft, holds, lacks⟩⟩
    rintro ⟨other, holdsOther, lacks⟩
    -- Whatever drafts a file holds, it is read in one way, and only this way counts.
    have same : draft.filled = other.filled :=
      Except.ok.inj ((File.source_eq_ok_iff.2 ⟨draft, holds, rfl⟩).symm.trans
        (File.source_eq_ok_iff.2 ⟨other, holdsOther, rfl⟩))
    rw [Draft.merged_eq] at lacks ⊢
    rwa [same]
  cases problem with
  | unreadable =>
    refine iff_of_false (fun unreadable => ?_) Bool.false_ne_true
    cases holds with
    | absent => exact unreadable
    | written => exact unreadable _ rfl
  | unparsable => exact iff_of_false (fun silent => silent draft holds) Bool.false_ne_true
  | noBaseUrl | noApi | noPodName | noTime => exact lacked

/-- What keeps a file from being read is the first problem. -/
theorem isFirst_of_source {problem : Problem} (fails : file.source = .error problem) :
    problem.IsFirst (·.OccursIn file environment) := by
  have silent (draft : Draft) : ¬file.Holds draft := fun holds =>
    nomatch (File.source_eq_ok_iff.2 ⟨draft, holds, rfl⟩).symm.trans fails
  obtain ⟨rfl, unreadable⟩ | ⟨rfl, readable⟩ := File.source_error fails
  · exact ⟨unreadable, [], _, rfl, fun other before => absurd before List.not_mem_nil⟩
  · refine ⟨silent, [.unreadable], _, rfl, fun other before => ?_⟩
    obtain rfl := List.mem_singleton.1 before
    exact readable

/-- The configuration of a file that holds a draft is loaded if it is complete. -/
theorem load_of_holds {draft : Draft} (holds : file.Holds draft) (environment : Environment) :
    load file environment =
      (draft.merged environment).validate.map fun _ => draft.merged environment := by
  rw [load_eq, File.source_eq_ok_iff.2 ⟨draft, holds, rfl⟩, Draft.merged_eq]
  rfl

/-- A configuration is loaded if it is what a file and the environment say, and complete. -/
theorem load_eq_ok_iff :
    load file environment = .ok config ↔
      ∃ draft, file.Holds draft ∧ draft.merged environment = config ∧ config.Complete := by
  constructor
  · intro loaded
    cases read : file.source with
    | error problem =>
      rw [load_eq, read] at loaded
      contradiction
    | ok source =>
      obtain ⟨draft, holds, rfl⟩ := File.source_eq_ok_iff.1 read
      rw [load_of_holds holds] at loaded
      cases validated : (draft.merged environment).validate with
      | error problem =>
        rw [validated] at loaded
        contradiction
      | ok done =>
        rw [validated] at loaded
        obtain rfl := Except.ok.inj loaded
        exact ⟨draft, holds, rfl, validate_eq_ok_iff.1 validated⟩
  · rintro ⟨draft, holds, rfl, complete⟩
    rw [load_of_holds holds, validate_eq_ok_iff.2 complete]
    rfl

/-- Loading fails with the first of the problems that are there. -/
theorem load_eq_error_iff {problem : Problem} :
    load file environment = .error problem ↔
      problem.IsFirst (·.OccursIn file environment) := by
  cases read : file.source with
  | error first =>
    have isFirst : first.IsFirst (·.OccursIn file environment) := isFirst_of_source read
    rw [load_eq, read]
    refine ⟨fun fails => Except.error.inj fails ▸ isFirst, fun other => ?_⟩
    exact congrArg Except.error (isFirst.unique other)
  | ok source =>
    obtain ⟨draft, holds, rfl⟩ := File.source_eq_ok_iff.1 read
    simp only [Problem.occursIn_iff holds, ← validate_eq_error_iff, load_of_holds holds]
    cases (draft.merged environment).validate with
    | error first => exact ⟨congrArg _ ∘ Except.error.inj, congrArg _ ∘ Except.error.inj⟩
    | ok done => exact iff_of_false (fun fails => nomatch fails) (fun fails => nomatch fails)

/-- A variable has a text as its value if its bytes are those of the text. -/
theorem Environment.ofBytes_eq_some_iff {values : String → Option (List UInt8)}
    {name text : String} :
    ofBytes values name = some text ↔ values name = some (Text.Utf8.encode text) := by
  simp only [ofBytes, Option.map_eq_some_iff, Option.bind_eq_some_iff,
    Text.Utf8.decode?_eq_some_iff]
  constructor
  · rintro ⟨chars, ⟨bytes, given, rfl⟩, rfl⟩
    exact given
  · intro given
    exact ⟨text.toList, ⟨_, given, by rw [String.ofList_toList]⟩, String.ofList_toList⟩

/-- A variable whose bytes are those of no text counts as not set. -/
theorem Environment.ofBytes_garbled {values : String → Option (List UInt8)} {name : String}
    (garbled : ∀ text, values name ≠ some (Text.Utf8.encode text)) :
    ofBytes values = ofBytes fun other => if other = name then none else values other := by
  funext other
  refine Option.ext fun text => ?_
  rw [ofBytes_eq_some_iff, ofBytes_eq_some_iff]
  by_cases same : other = name
  · subst same
    simp [garbled text]
  · rw [if_neg same]

/-- How a configuration comes of a file and an environment. -/
structure Precedence (file : File) (environment : Environment) : Prop where
  /-- A configuration is loaded if it is what the file and the environment say, and complete. -/
  loads : ∀ config, load file environment = .ok config ↔
    ∃ draft, file.Holds draft ∧ draft.merged environment = config ∧ config.Complete
  /-- Otherwise the first of the problems is named. -/
  refuses : ∀ problem, load file environment = .error problem ↔
    problem.IsFirst (·.OccursIn file environment)
  /-- What the environment has given it does not change again. -/
  settles : ∀ config : Config,
    (config.applyEnvironment environment).applyEnvironment environment =
      config.applyEnvironment environment
  /-- The name of the host is asked for if the variable of the pod is unset or empty. -/
  consults : "HOSTNAME" ∈ askedVariables environment ↔
    environment "POD_NAME" = none ∨ environment "POD_NAME" = some ""
  /-- No variable counts that is not asked for. -/
  ignores : ∀ other : Environment, (∀ name ∈ askedVariables environment,
    other name = environment name) → load file other = load file environment

/-- A configuration is loaded by precedence, and a variable whose bytes are those of no text counts
as not set. -/
theorem loads_by_precedence (file : File) (values : String → Option (List UInt8)) :
    Precedence file (.ofBytes values) ∧
      ∀ name, (∀ text, values name ≠ some (Text.Utf8.encode text)) →
        Environment.ofBytes values =
          .ofBytes fun other => if other = name then none else values other where
  left := {
    loads _ := load_eq_ok_iff
    refuses _ := load_eq_error_iff
    settles config := config.applyEnvironment_idem _
    consults := hostName_asked_iff
    ignores other same := by simp only [load_eq, applyEnvironment_congr same] }
  right _ := Environment.ofBytes_garbled

/-- The variables of a host with a name, in which the name of the pod is no text. -/
def garbledPod : String → Option (List UInt8)
  | "POD_NAME" => some [0xFF]
  | "HOSTNAME" => some (Text.Utf8.encode "node-7")
  | _ => none

/-- A name that is no text is passed over, and the name of the host goes before the one in the
file. -/
theorem garbled_name_passed_over :
    (∀ text, garbledPod "POD_NAME" ≠ some (Text.Utf8.encode text)) ∧
      Environment.ofBytes garbledPod "POD_NAME" = none ∧
        load namedPodFile (.ofBytes garbledPod) = .ok { podName := "node-7" } := by
  obtain ⟨precedence, asUnset⟩ := loads_by_precedence namedPodFile garbledPod
  have garbled (text : String) : garbledPod "POD_NAME" ≠ some (Text.Utf8.encode text) := fun same =>
    Text.Utf8.decode?_eq_none_iff.1 rfl text (Option.some.inj same)
  have unset : Environment.ofBytes garbledPod "POD_NAME" = none := by
    rw [asUnset "POD_NAME" garbled]
    rfl
  have host : Environment.ofBytes garbledPod "HOSTNAME" = some "node-7" :=
    Environment.ofBytes_eq_some_iff.2 rfl
  obtain ⟨draft, holds, filled⟩ :=
    File.source_eq_ok_iff.1 (File.source_of_ofFile ofFile_namedPodFile)
  refine ⟨garbled, unset, (precedence.loads _).2 ⟨draft, holds, ?_, validate_eq_ok_iff.1 rfl⟩⟩
  rw [draft.merged_eq, filled, applyEnvironment, firstNonEmpty_fst, podVariables, List.map_cons,
    List.map_cons, unset, host]
  rfl

end Config

end HealthLedger
