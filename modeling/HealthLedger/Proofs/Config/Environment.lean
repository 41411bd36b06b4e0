import HealthLedger.Proofs.Config.Validity
import HealthLedger.Proofs.Text.Utf8

/-!
# What the environment gives

The environment gives the name of the pod and the token; a variable that is empty gives nothing,
and what stands behind the first variable that gives something is not asked for. Validation has
another notion of what is not set: for it a blank name is none. So a valid configuration stays
valid in an environment if and only if the name that the environment gives, if it gives one, is not
blank (`Config.valid_in_environment`).
-/

namespace HealthLedger.Config

variable {config : Config} {environment : Environment} {names : List String}

/-- The first text that is given and not empty. -/
def firstGiven (texts : List (Option String)) : Option String :=
  texts.findSome? (·.filter (· ≠ ""))

/-- What stands behind the given texts counts if they give nothing. -/
theorem firstGiven_getD (texts : List (Option String)) (last : Option String) :
    (firstGiven (texts ++ [last])).getD "" = (firstGiven texts).getD (last.getD "") := by
  rw [firstGiven, List.findSome?_append]
  change ((firstGiven texts).or _).getD "" = _
  cases firstGiven texts with
  | some text => rfl
  | none =>
    cases last with
    | none => rfl
    | some text => by_cases empty : text = "" <;> simp [Option.filter, empty]

/-- Of the variables the first that is not empty gives its value. -/
theorem firstNonEmpty_fst (environment : Environment) (names : List String) :
    (firstNonEmpty environment names).1 = firstGiven (names.map environment) := by
  induction names with
  | nil => rfl
  | cons name others ih =>
    rw [firstNonEmpty, nonEmpty, List.map_cons, firstGiven, List.findSome?_cons]
    cases (environment name).filter (· ≠ "") with
    | none => exact ih
    | some value => rfl

/-- A variable gives nothing if it is unset or empty. -/
theorem nonEmpty_eq_none_iff {name : String} :
    nonEmpty environment name = none ↔ environment name = none ∨ environment name = some "" := by
  rw [nonEmpty]
  cases environment name <;> simp

/-- After a variable the others are asked for if it is unset or empty. -/
theorem firstNonEmpty_snd (environment : Environment) (name : String) (others : List String) :
    (firstNonEmpty environment (name :: others)).2 =
      name :: if environment name = none ∨ environment name = some "" then
        (firstNonEmpty environment others).2 else [] := by
  simp only [firstNonEmpty, ← nonEmpty_eq_none_iff]
  cases nonEmpty environment name <;> rfl

/-- What the variables give depends on those that are asked for, and on no others. -/
theorem firstNonEmpty_congr {other : Environment}
    (same : ∀ name ∈ (firstNonEmpty environment names).2, other name = environment name) :
    firstNonEmpty other names = firstNonEmpty environment names := by
  induction names with
  | nil => rfl
  | cons name others ih =>
    rw [firstNonEmpty_snd, List.forall_mem_cons] at same
    obtain ⟨here, later⟩ := same
    have agreed : nonEmpty other name = nonEmpty environment name := by
      rw [nonEmpty, nonEmpty, here]
    rw [firstNonEmpty, firstNonEmpty, agreed]
    cases given : nonEmpty environment name with
    | some value => rfl
    | none =>
      rw [if_pos (nonEmpty_eq_none_iff.1 given)] at later
      rw [ih later]

/-- The name of the pod is the one the environment gives, or that of the configuration. -/
theorem applyEnvironment_podName (config : Config) (environment : Environment) :
    (config.applyEnvironment environment).podName =
      (firstGiven [environment "POD_NAME", environment "HOSTNAME"]).getD config.podName :=
  congrArg (Option.getD · config.podName) (firstNonEmpty_fst environment podVariables)

/-- What the environment has given it does not change again. -/
theorem applyEnvironment_idem (config : Config) (environment : Environment) :
    (config.applyEnvironment environment).applyEnvironment environment =
      config.applyEnvironment environment := by
  have pod {given : Option String} {name : String} :
      given.getD (given.getD name) = given.getD name := by
    cases given <;> rfl
  have token {given held : Option String} : given.or (given.or held) = given.or held := by
    cases given <;> rfl
  simp only [applyEnvironment, pod, token]

/-- A configuration in an environment depends on the variables that are asked for, and on no
others. -/
theorem applyEnvironment_congr {other : Environment}
    (same : ∀ name ∈ askedVariables environment, other name = environment name) :
    config.applyEnvironment other = config.applyEnvironment environment := by
  have pod := firstNonEmpty_congr fun name asked => same name (List.mem_append_left _ asked)
  have token := firstNonEmpty_congr fun name asked => same name (List.mem_append_right _ asked)
  rw [applyEnvironment, pod, token, applyEnvironment]

/-- The name of the host is asked for if the variable of the pod is unset or empty. -/
theorem hostName_asked_iff :
    "HOSTNAME" ∈ askedVariables environment ↔
      environment "POD_NAME" = none ∨ environment "POD_NAME" = some "" := by
  rw [askedVariables, podVariables, tokenVariables, firstNonEmpty_snd, firstNonEmpty_snd,
    firstNonEmpty_snd]
  split
  · next unset => simp [unset]
  · next set => simp [set, firstNonEmpty]

/-- The environment gives a name of the pod, and it is blank. -/
def Environment.namesBlankPod (environment : Environment) : Bool :=
  (firstGiven [environment "POD_NAME", environment "HOSTNAME"]).any Text.isBlankText

/-- The environment changes nothing but the name of the pod that validation looks at. -/
theorem lacks_applyEnvironment {problem : Problem} (other : problem ≠ .noPodName)
    (environment : Environment) :
    (config.applyEnvironment environment).lacks problem = config.lacks problem := by
  cases problem with
  | noPodName => exact absurd rfl other
  | _ => rfl

/-- A complete configuration in an environment lacks a name if the environment gives a blank
one. -/
theorem Complete.lacks_noPodName (complete : config.Complete) (environment : Environment) :
    (config.applyEnvironment environment).lacks .noPodName = environment.namesBlankPod := by
  rw [lacks, applyEnvironment_podName, Environment.namesBlankPod]
  cases firstGiven [environment "POD_NAME", environment "HOSTNAME"] with
  | none => exact complete.podName
  | some name => rfl

/-- A complete configuration in an environment is complete, or the name of the pod is missing. -/
theorem Complete.validate_applyEnvironment (complete : config.Complete)
    (environment : Environment) :
    (config.applyEnvironment environment).validate =
      if environment.namesBlankPod then .error .noPodName else .ok () := by
  have others {problem : Problem} (other : problem ≠ .noPodName) :
      (config.applyEnvironment environment).lacks problem = false :=
    (lacks_applyEnvironment other environment).trans (complete_iff.1 complete problem)
  have pod := complete.lacks_noPodName environment
  cases blank : environment.namesBlankPod with
  | true =>
    refine validate_eq_error_iff.2 ⟨pod.trans blank, ?_⟩
    refine ⟨[.unreadable, .unparsable, .noBaseUrl, .noApi], [.noTime], rfl, ?_⟩
    intro problem before
    have other : problem ≠ .noPodName := by
      rintro rfl
      exact absurd before (by decide)
    simp [others other]
  | false =>
    refine validate_eq_ok_iff.2 (complete_iff.2 fun problem => ?_)
    by_cases same : problem = .noPodName
    · exact same ▸ pod.trans blank
    · exact others same

/-- What is loaded before the environment counts: the defaults, or the configuration of the
file. -/
def File.source : File → Except Problem Config
  | .absent => .ok {}
  | file => ofFile file

/-- A file from which a configuration is read is there. -/
theorem File.source_of_ofFile {file : File} (read : ofFile file = .ok config) :
    file.source = .ok config := by
  cases file with
  | absent => exact nomatch read
  | unreadable | bytes => exact read

/-- The configuration of a text is read from its bytes. -/
theorem ofFile_encode (text : String) : ofFile (.bytes (Text.Utf8.encode text)) = parse text := by
  rw [ofFile, Text.Utf8.decode?_encode]
  simp only [String.ofList_toList]

/-- A configuration is loaded by putting it in the environment and validating it. -/
theorem load_eq (file : File) (environment : Environment) :
    load file environment =
      file.source.bind fun config => (config.applyEnvironment environment).validate.map fun _ =>
        config.applyEnvironment environment := by
  cases file <;> rfl

/-- A valid configuration stays valid in an environment, and is loaded from its file, unless the
environment gives a name of the pod that is blank. Then the name counts as missing, whatever the
configuration and other variables say. -/
theorem valid_in_environment (environment : Environment) (valid : config.validate = .ok ()) :
    (config.applyEnvironment environment).validate =
        (if environment.namesBlankPod then .error .noPodName else .ok ()) ∧
      ∀ file, ofFile file = .ok config →
        load file environment =
          if environment.namesBlankPod then .error .noPodName
          else .ok (config.applyEnvironment environment) := by
  have complete := validate_eq_ok_iff.1 valid
  have validated := complete.validate_applyEnvironment environment
  refine ⟨validated, fun file read => ?_⟩
  rw [load_eq, File.source_of_ofFile read, Except.bind, validated]
  split <;> rfl

/-- A configuration with a name and no more. -/
def namedPod : Config := { podName := "checker-0" }

/-- The file of this configuration. -/
def namedPodFile : File := .bytes (Text.Utf8.encode "pod_name = \"checker-0\"")

/-- The file is read. -/
theorem ofFile_namedPodFile : ofFile namedPodFile = .ok namedPod := by
  have given : (Toml.Entries.parse "pod_name = \"checker-0\"").bind ofEntries? = some namedPod := by
    decide +kernel
  rw [namedPodFile, ofFile_encode, parse, given]

/-- An environment with a variable for the pod and no other. -/
def podEnvironment (pod : String) : Environment
  | "POD_NAME" => some pod
  | _ => none

/-- A name that is not blank takes the place of the one in the file, and the configuration stays
valid. -/
theorem exported_name_keeps_valid :
    namedPod.validate = .ok () ∧ ofFile namedPodFile = .ok namedPod ∧
      (namedPod.applyEnvironment (podEnvironment "checker-1")).validate = .ok () ∧
      load namedPodFile (podEnvironment "checker-1") = .ok { podName := "checker-1" } := by
  have valid : namedPod.validate = .ok () := rfl
  obtain ⟨validated, loaded⟩ := valid_in_environment (podEnvironment "checker-1") valid
  exact ⟨valid, ofFile_namedPodFile, validated, loaded namedPodFile ofFile_namedPodFile⟩

/-- A blank name spoils a valid configuration: there is no name then, though the file has one. -/
theorem blank_name_spoils :
    namedPod.validate = .ok () ∧ ofFile namedPodFile = .ok namedPod ∧
      (namedPod.applyEnvironment (podEnvironment " ")).validate = .error .noPodName ∧
      load namedPodFile (podEnvironment " ") = .error .noPodName := by
  refine ⟨rfl, ofFile_namedPodFile, rfl, ?_⟩
  rw [load_eq, File.source_of_ofFile ofFile_namedPodFile]
  rfl

end HealthLedger.Config
