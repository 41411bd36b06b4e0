import HealthLedger.Proofs.Store.History

/-!
# Runs that differ in their versions

Two runs against stores in memory may give the same document different versions, identities and
times. A pairing says which versions of the two runs stand for each other, and two documents are
twins if they differ in nothing but paired versions, the identities given with them and the times
of the two clocks. Twin calls of stores that hold twins under their key are given twin answers and
leave twins behind, and a successful write pairs the two versions it gives
(`Pairing.Matched.perform`). Programs are alike if they make twin calls as long as they are given
twin answers, and alike programs stay alike when they advance
(`Pairing.Matched.advance`).
-/

namespace HealthLedger.Store

open Document (Kind Key Resource Details JobSpec Mismatch)

namespace Memory

variable {uids : Nat → String} {memory after : Memory} {kind : Kind} {call : Call kind}
  {answer : Answer kind}

/-- A call changes what is stored under its own key only. -/
theorem Move.find?_of_ne (move : Move uids memory call answer after) {key : Key}
    (other : call.key ≠ key) : after.find? key = memory.find? key := by
  cases move with
  | absent | garbled | fetched | versioned | taken | lost | stale => rfl
  | created | updated =>
    rw [find?_write, if_neg]
    exact other.symm

/-- The last version does not sink. -/
theorem Move.lastVersion_le (move : Move uids memory call answer after) :
    memory.lastVersion ≤ after.lastVersion := by
  cases move with
  | absent | garbled | fetched | versioned | taken | lost | stale => exact Nat.le_refl _
  | created | updated => exact Nat.le_succ _

end Memory

/-- What a run draws on. -/
structure Sources where
  /-- The identity of a document from the version it is created with. -/
  uids : Nat → String
  /-- The clock. -/
  clock : Clock

/-- Two runs and the versions of them that stand for each other. -/
structure Pairing where
  /-- What the first run draws on. -/
  left : Sources
  /-- What the second run draws on. -/
  right : Sources
  /-- The versions of the first run with those of the second one. -/
  links : List (Nat × Nat)

namespace Pairing

/-- The pairing with other links. -/
def relink (pairing : Pairing) (links : List (Nat × Nat)) : Pairing := { pairing with links }

/-- No version stands for two. -/
def OneToOne (pairing : Pairing) : Prop :=
  ∀ first ∈ pairing.links, ∀ second ∈ pairing.links, first.1 = second.1 ↔ first.2 = second.2

/-- What the clocks show is read back as it was written. -/
structure Legible (pairing : Pairing) : Prop where
  /-- The times of the first clock are readable. -/
  left : ∀ count, (pairing.left.clock count).Readable
  /-- The times of the second clock are readable. -/
  right : ∀ count, (pairing.right.clock count).Readable

/-- The texts of two versions that stand for each other. -/
def Versions (pairing : Pairing) (first second : String) : Prop :=
  ∃ version twin, (version, twin) ∈ pairing.links ∧ first = toString version ∧
    second = toString twin

/-- The same identity, or those that were given with two versions that stand for each other. -/
def Identities (pairing : Pairing) (first second : String) : Prop :=
  first = second ∨ ∃ version twin, (version, twin) ∈ pairing.links ∧
    first = pairing.left.uids version ∧ second = pairing.right.uids twin

/-- The same time of a last run, or two times of the clocks. -/
def Times (pairing : Pairing) (first second : Option Time.Instant) : Prop :=
  first = second ∨ ∃ count other, first = some (pairing.left.clock count) ∧
    second = some (pairing.right.clock other)

/-- Details that differ in the time of the last run. -/
def TwinDetails (pairing : Pairing) (first second : Details) : Prop :=
  second = { first with lastRun := second.lastRun } ∧
    pairing.Times first.lastRun second.lastRun

/-- Specifications that differ in the time of the last run, if they have one. -/
def TwinSpecs (pairing : Pairing) : (kind : Kind) → kind.Spec → kind.Spec → Prop
  | .checkState, first, second => pairing.TwinDetails first second
  | .checkJob, first, second => first = second

/-- Documents that differ in their versions, their identities and the time of the last run. -/
structure Twins (pairing : Pairing) {kind : Kind} (first second : Resource kind) : Prop where
  /-- No kept member has the key of a field. -/
  framed : first.Framed
  /-- The names are the same. -/
  name : second.metadata.name = first.metadata.name
  /-- The namespaces are the same. -/
  space : second.metadata.space = first.metadata.space
  /-- The versions stand for each other. -/
  version : Option.Rel pairing.Versions first.metadata.version second.metadata.version
  /-- The identities were given with such versions, if they are not the same. -/
  uid : Option.Rel pairing.Identities first.metadata.uid second.metadata.uid
  /-- The kept members of the metadata are the same. -/
  kept : second.metadata.extra = first.metadata.extra
  /-- The specifications differ in the time of the last run. -/
  spec : pairing.TwinSpecs kind first.spec second.spec
  /-- The kept members are the same. -/
  extra : second.extra = first.extra

/-- The same failure, or results of a relation. -/
inductive Results {ε α β : Type} (alike : α → β → Prop) : Except ε α → Except ε β → Prop
  /-- The same failure. -/
  | error (error : ε) : Results alike (.error error) (.error error)
  /-- Two results. -/
  | ok {first : α} {second : β} (same : alike first second) :
    Results alike (.ok first) (.ok second)

/-- Calls that differ in their documents, which are twins. -/
inductive Calls (pairing : Pairing) : {kind : Kind} → Call kind → Call kind → Prop
  /-- Two gets. -/
  | get {kind : Kind} (name space : String) :
    pairing.Calls (.get name space : Call kind) (.get name space)
  /-- Two creates. -/
  | create {kind : Kind} {first second : Resource kind} (twins : pairing.Twins first second)
    (space : String) : pairing.Calls (.create first space) (.create second space)
  /-- Two updates. -/
  | update {kind : Kind} {first second : Resource kind} (twins : pairing.Twins first second)
    (space : String) : pairing.Calls (.update first space) (.update second space)

variable {pairing : Pairing} {more : List (Nat × Nat)} {kind : Kind}
  {first second : Resource kind}

/-- Versions that stand for each other do so with more links. -/
theorem Versions.relink {first second : String} (versions : pairing.Versions first second)
    (grows : pairing.links ⊆ more) : (pairing.relink more).Versions first second := by
  obtain ⟨version, twin, linked, texts⟩ := versions
  exact ⟨version, twin, grows linked, texts⟩

/-- Identities that were given with such versions were so with more links. -/
theorem Identities.relink {first second : String} (identities : pairing.Identities first second)
    (grows : pairing.links ⊆ more) : (pairing.relink more).Identities first second := by
  rcases identities with same | ⟨version, twin, linked, given⟩
  · exact .inl same
  · exact .inr ⟨version, twin, grows linked, given⟩

/-- Optional things that are related are related by a relation that says less. -/
theorem rel_imp {α β : Type} {strong weak : α → β → Prop} {first : Option α} {second : Option β}
    (rel : Option.Rel strong first second) (imp : ∀ one other, strong one other → weak one other) :
    Option.Rel weak first second := by
  cases rel with
  | none => exact .none
  | some related => exact .some (imp _ _ related)

/-- Specifications of twins are such with more links. -/
theorem twinSpecs_relink {first second : kind.Spec} (specs : pairing.TwinSpecs kind first second) :
    (pairing.relink more).TwinSpecs kind first second := by
  cases kind <;> exact specs

/-- Twins are twins with more links. -/
theorem Twins.relink (twins : pairing.Twins first second) (grows : pairing.links ⊆ more) :
    (pairing.relink more).Twins first second :=
  { twins with
    version := rel_imp twins.version fun _ _ versions => versions.relink grows
    uid := rel_imp twins.uid fun _ _ identities => identities.relink grows
    spec := twinSpecs_relink twins.spec }

/-- Details with a readable time are read back as they were. -/
theorem reread_of_readable {details : Details}
    (readable : ∀ instant ∈ details.lastRun, instant.Readable) :
    details.reread = .ok details := by
  let vocabulary : Document.Vocabulary := .ofInstants Time.Instant.Readable
  have legible : vocabulary.Legible .checkState := fun _ spoken => spoken
  have within : Kind.checkState.SpecWithin vocabulary details := readable
  exact within.reread_eq legible

/-- The texts of the times of two clocks are read back as such times. -/
theorem TwinDetails.reread (legible : pairing.Legible) {first second : Details}
    (twins : pairing.TwinDetails first second) :
    Results pairing.TwinDetails first.reread second.reread := by
  obtain ⟨others, same | ⟨count, other, shown, shownAgain⟩⟩ := twins
  · obtain rfl : second = first := by rw [others, ← same]
    cases second.reread with
    | error error => exact .error error
    | ok read => exact .ok ⟨rfl, .inl rfl⟩
  · have left : first.reread = .ok first := by
      refine reread_of_readable fun instant written => ?_
      obtain rfl := Option.some.inj (shown.symm.trans written)
      exact legible.left count
    have right : second.reread = .ok second := by
      refine reread_of_readable fun instant written => ?_
      obtain rfl := Option.some.inj (shownAgain.symm.trans written)
      exact legible.right other
    rw [left, right]
    exact .ok ⟨others, .inr ⟨count, other, shown, shownAgain⟩⟩

/-- The specifications of twins are read back as such, or fail alike. -/
theorem twinSpecs_reread (legible : pairing.Legible) {first second : kind.Spec}
    (specs : pairing.TwinSpecs kind first second) :
    Results (pairing.TwinSpecs kind) (kind.reread first) (kind.reread second) := by
  cases kind with
  | checkState => exact TwinDetails.reread legible specs
  | checkJob =>
    obtain rfl : first = second := specs
    exact .ok rfl

/-- If one of two twins is framed then so is the other. -/
theorem Twins.framed_right (twins : pairing.Twins first second) : second.Framed := by
  obtain ⟨metadata, spec, extra⟩ := twins.framed
  constructor
  · rw [Document.Metadata.Framed, twins.kept]
    exact metadata
  · cases kind with
    | checkState => trivial
    | checkJob =>
      have same : first.spec = second.spec := twins.spec
      rw [← same]
      exact spec
  · rw [twins.extra]
    exact extra

/-- The values of twins are decoded to twins, or fail alike. -/
theorem Twins.decoded (legible : pairing.Legible) (twins : pairing.Twins first second) :
    Results pairing.Twins ((Resource.decoder kind).decodeValue first.toValue)
      ((Resource.decoder kind).decodeValue second.toValue) := by
  have specs := twinSpecs_reread legible twins.spec
  have framed (spec : kind.Spec) (read : kind.reread first.spec = .ok spec) :
      ({ first with spec } : Resource kind).Framed :=
    ⟨twins.framed.metadata, Document.Kind.specFramed_reread twins.framed.spec read,
      twins.framed.extra⟩
  rw [Document.Decoder.decodeValue, Document.Decoder.decodeValue,
    Resource.ofValue_toValue twins.framed, Resource.ofValue_toValue twins.framed_right]
  generalize kind.reread first.spec = read at specs framed
  generalize kind.reread second.spec = readAgain at specs
  cases specs with
  | error error => exact .error _
  | @ok spec twin same =>
    exact .ok { twins with framed := framed spec rfl, spec := same }

/-- Entries that hold twins, or no entries. -/
inductive Entries (pairing : Pairing) (key : Key) : Option Stored → Option Stored → Prop
  /-- Nothing is stored. -/
  | none : pairing.Entries key none none
  /-- Two entries. -/
  | some {stored twin : Stored} {first second : Resource key.kind}
    (linked : (stored.version, twin.version) ∈ pairing.links)
    (identities : pairing.Identities stored.uid twin.uid)
    (twins : pairing.Twins first second) (body : stored.body = first.toValue)
    (twinBody : twin.body = second.toValue) : pairing.Entries key (some stored) (some twin)

/-- Two stores hold twins under a key, and versions that stand for each other are given out. -/
structure Matched (pairing : Pairing) (key : Key) (memory twin : Memory) : Prop where
  /-- No version stands for two. -/
  oneToOne : pairing.OneToOne
  /-- Versions that stand for each other are at most the last ones. -/
  bounded : ∀ link ∈ pairing.links, link.1 ≤ memory.lastVersion ∧ link.2 ≤ twin.lastVersion
  /-- The entries of the key hold twins. -/
  entries : pairing.Entries key (memory.find? key) (twin.find? key)

variable {key : Key} {memory twin after : Memory} {name space : String}

/-- The versions of two writes stand for each other after the writes. -/
def next (pairing : Pairing) (memory twin : Memory) : List (Nat × Nat) :=
  (memory.lastVersion + 1, twin.lastVersion + 1) :: pairing.links

/-- Links stay links when the next versions are linked. -/
theorem subset_next (pairing : Pairing) (memory twin : Memory) :
    pairing.links ⊆ pairing.next memory twin :=
  fun _ there => List.mem_cons_of_mem _ there

/-- The next versions stand for no others. -/
theorem Matched.oneToOne_next (matched : pairing.Matched key memory twin) :
    (pairing.relink (pairing.next memory twin)).OneToOne := by
  intro first there second also
  rcases List.mem_cons.1 there with rfl | before <;> rcases List.mem_cons.1 also with rfl | earlier
  · exact iff_of_true rfl rfl
  · have bounded := matched.bounded second earlier
    simp only
    omega
  · have bounded := matched.bounded first before
    simp only
    omega
  · exact matched.oneToOne first before second earlier

/-- Twins that are written with paired versions and identities are twins. -/
theorem Twins.stamp (twins : pairing.Twins first second) (space : String) {version other : Nat}
    {uid identity : String} (linked : (version, other) ∈ pairing.links)
    (identities : pairing.Identities uid identity) :
    pairing.Twins (Memory.stamp first space version uid)
      (Memory.stamp second space other identity) :=
  { twins with
    framed := Memory.stamp_framed twins.framed space version uid
    space := rfl
    version := .some ⟨version, other, linked, rfl, rfl⟩
    uid := .some identities }

/-- Writing twins links the next versions and leaves twins behind. -/
theorem Matched.write (matched : pairing.Matched key memory twin)
    (twins : pairing.Twins first second) {space : String} (own : first.keyIn space = key)
    {uid identity : String}
    (identities : (pairing.relink (pairing.next memory twin)).Identities uid identity) :
    (pairing.relink (pairing.next memory twin)).Twins
        (Memory.stamp first space (memory.lastVersion + 1) uid)
        (Memory.stamp second space (twin.lastVersion + 1) identity) ∧
      (pairing.relink (pairing.next memory twin)).Matched key
        (memory.write first space uid).2 (twin.write second space identity).2 := by
  have linked : (memory.lastVersion + 1, twin.lastVersion + 1) ∈ pairing.next memory twin :=
    List.mem_cons_self
  have stamped := (twins.relink (pairing.subset_next memory twin)).stamp space linked identities
  refine ⟨stamped, matched.oneToOne_next, fun link there => ?_, ?_⟩
  · rcases List.mem_cons.1 there with rfl | before
    · exact ⟨Nat.le_refl _, Nat.le_refl _⟩
    · obtain ⟨left, right⟩ := matched.bounded link before
      exact ⟨Nat.le_succ_of_le left, Nat.le_succ_of_le right⟩
  · subst own
    have alike : second.keyIn space = first.keyIn space :=
      congrArg (fun name => (⟨kind, name, space⟩ : Key)) twins.name
    rw [Memory.find?_write_self, ← alike, Memory.find?_write_self, alike]
    exact .some linked identities stamped rfl rfl

/-- Two answers are the same failure or twins, and the stores behind them hold twins under a key,
with links that may be more than before. -/
def Moves (pairing : Pairing) (key : Key) (one other : Answer kind × Memory) : Prop :=
  ∃ more, pairing.links ⊆ more ∧ Results (pairing.relink more).Twins one.1 other.1 ∧
    (pairing.relink more).Matched key one.2 other.2

/-- The same failures leave the stores as they are. -/
theorem Matched.fail (matched : pairing.Matched key memory twin) (error : Error) :
    pairing.Moves key ((.error error, memory) : Answer kind × Memory) (.error error, twin) :=
  ⟨pairing.links, fun _ there => there, .error error, matched⟩

/-- Gets of stores that hold twins find nothing or twins. -/
theorem Matched.get (matched : pairing.Matched ⟨kind, name, space⟩ memory twin)
    (legible : pairing.Legible) :
    pairing.Moves ⟨kind, name, space⟩
      (Memory.perform pairing.left.uids (.get name space : Call kind) memory)
      (Memory.perform pairing.right.uids (.get name space : Call kind) twin) := by
  have entries := matched.entries
  generalize found : memory.find? ⟨kind, name, space⟩ = stored at entries
  generalize foundAgain : twin.find? ⟨kind, name, space⟩ = other at entries
  simp only [Memory.perform, found, foundAgain]
  cases entries with
  | none => exact matched.fail _
  | @some held heldAgain first second linked identities twins body twinBody =>
    have decoded : Results pairing.Twins ((Resource.decoder kind).decodeValue held.body)
        ((Resource.decoder kind).decodeValue heldAgain.body) := by
      rw [body, twinBody]
      exact twins.decoded legible
    dsimp only
    generalize (Resource.decoder kind).decodeValue held.body = read at decoded ⊢
    generalize (Resource.decoder kind).decodeValue heldAgain.body = readAgain at decoded ⊢
    cases decoded with
    | error error => exact matched.fail _
    | ok same => exact ⟨pairing.links, fun _ there => there, .ok same, matched⟩

/-- Twins have the same key in a namespace. -/
theorem Twins.keyIn (twins : pairing.Twins first second) (space : String) :
    second.keyIn space = first.keyIn space :=
  congrArg (fun name => (⟨kind, name, space⟩ : Key)) twins.name

/-- Creates of twins fail alike or store twins. -/
theorem Matched.create (matched : pairing.Matched (first.keyIn space) memory twin)
    (twins : pairing.Twins first second) :
    pairing.Moves (first.keyIn space)
      (Memory.perform pairing.left.uids (.create first space) memory)
      (Memory.perform pairing.right.uids (.create second space) twin) := by
  have carried : second.version.isSome = first.version.isSome := by
    have versions := twins.version
    rw [Resource.version, Resource.version]
    generalize first.metadata.version = version at versions ⊢
    generalize second.metadata.version = other at versions ⊢
    cases versions <;> rfl
  have entries := matched.entries
  generalize found : memory.find? (first.keyIn space) = stored at entries
  generalize foundAgain : twin.find? (first.keyIn space) = other at entries
  simp only [Memory.perform, Call.key, twins.keyIn, carried, found, foundAgain]
  split
  · exact matched.fail _
  · cases entries with
    | some => exact matched.fail _
    | none =>
      obtain ⟨stamped, after⟩ := matched.write twins rfl (.inr ⟨_, _, List.mem_cons_self, rfl, rfl⟩)
      exact ⟨_, pairing.subset_next memory twin, .ok stamped, after⟩

/-- Twins carry the versions of two entries that stand for each other, or neither does. -/
theorem Matched.version_iff (matched : pairing.Matched key memory twin) {version other : Nat}
    (linked : (version, other) ∈ pairing.links) (twins : pairing.Twins first second) :
    first.version = some (toString version) ↔ second.version = some (toString other) := by
  have versions := twins.version
  rw [Resource.version, Resource.version]
  generalize first.metadata.version = carried at versions ⊢
  generalize second.metadata.version = carriedAgain at versions ⊢
  cases versions with
  | none =>
    have nothing (number : Nat) : (none : Option String) ≠ some (toString number) := by
      intro same
      contradiction
    exact iff_of_false (nothing version) (nothing other)
  | some texts =>
    obtain ⟨number, pair, there, rfl, rfl⟩ := texts
    have same : number = version ↔ pair = other :=
      matched.oneToOne (number, pair) there (version, other) linked
    rw [Option.some.injEq, Option.some.injEq, toString_version_inj, toString_version_inj]
    exact same

/-- Updates with twins fail alike or store twins. -/
theorem Matched.update (matched : pairing.Matched (first.keyIn space) memory twin)
    (twins : pairing.Twins first second) :
    pairing.Moves (first.keyIn space)
      (Memory.perform pairing.left.uids (.update first space) memory)
      (Memory.perform pairing.right.uids (.update second space) twin) := by
  have entries := matched.entries
  generalize found : memory.find? (first.keyIn space) = stored at entries
  generalize foundAgain : twin.find? (first.keyIn space) = other at entries
  simp only [Memory.perform, Call.key, twins.keyIn, found, foundAgain]
  cases entries with
  | none => exact matched.fail _
  | @some held heldAgain _ _ linked identities _ _ _ =>
    have same := matched.version_iff linked twins
    by_cases current : first.version = some (toString held.version)
    · obtain ⟨stamped, after⟩ := matched.write twins rfl
        (identities.relink (pairing.subset_next memory twin))
      simp only [if_pos current, if_pos (same.1 current)]
      exact ⟨_, pairing.subset_next memory twin, .ok stamped, after⟩
    · have stale : second.version ≠ some (toString heldAgain.version) :=
        fun currentAgain => current (same.2 currentAgain)
      simp only [if_neg current, if_neg stale]
      exact matched.fail _

/-- Twin calls of a key of stores that hold twins under it are given twin answers and leave twins
behind. -/
theorem Matched.perform (matched : pairing.Matched key memory twin) (legible : pairing.Legible)
    {call twinCall : Call kind} (calls : pairing.Calls call twinCall) (own : call.key = key) :
    pairing.Moves key (Memory.perform pairing.left.uids call memory)
      (Memory.perform pairing.right.uids twinCall twin) := by
  subst own
  cases calls with
  | get name space => exact matched.get legible
  | create twins space => exact matched.create twins
  | update twins space => exact matched.update twins

/-- Stores hold twins under a key as long as one of them is used for other keys. -/
theorem Matched.apart (matched : pairing.Matched key memory twin)
    (same : after.find? key = memory.find? key) (less : memory.lastVersion ≤ after.lastVersion) :
    pairing.Matched key after twin := by
  refine ⟨matched.oneToOne, fun link there => ?_, same ▸ matched.entries⟩
  obtain ⟨left, right⟩ := matched.bounded link there
  exact ⟨Nat.le_trans left less, right⟩

/-- Programs that make twin calls and come to results of a relation, as long as they are given twin
answers and the times of their clocks. -/
inductive Alike {α : Type} (results : Pairing → α → α → Prop) :
    Pairing → Program α → Program α → Prop
  /-- Two results. -/
  | done {pairing : Pairing} {one other : α} (same : results pairing one other) :
    Alike results pairing (.done one) (.done other)
  /-- Two calls. -/
  | call {pairing : Pairing} {kind : Kind} {call twin : Call kind}
    {resume twinResume : Answer kind → Program α} (calls : pairing.Calls call twin)
    (rest : ∀ more answer twinAnswer, pairing.links ⊆ more →
      Results (pairing.relink more).Twins answer twinAnswer →
        Alike results (pairing.relink more) (resume answer) (twinResume twinAnswer)) :
    Alike results pairing (.call call resume) (.call twin twinResume)
  /-- Two events. -/
  | tell {pairing : Pairing} {event twinEvent : Log.Event} {rest twinRest : Program α}
    (alike : Alike results pairing rest twinRest) :
    Alike results pairing (.tell event rest) (.tell twinEvent twinRest)
  /-- Two times. -/
  | now {pairing : Pairing} {resume twinResume : Time.Instant → Program α}
    (rest : ∀ count other, Alike results pairing (resume (pairing.left.clock count))
      (twinResume (pairing.right.clock other))) :
    Alike results pairing (.now resume) (.now twinResume)

section Programs

variable {α β : Type} {results : Pairing → α → α → Prop} {program twinProgram : Program α}

/-- The relation of results holds with more links. -/
def Monotone (results : Pairing → α → α → Prop) : Prop :=
  ∀ pairing more one other, pairing.links ⊆ more → results pairing one other →
    results (pairing.relink more) one other

/-- Calls are twins with more links. -/
theorem Calls.relink {call twin : Call kind} (calls : pairing.Calls call twin)
    (grows : pairing.links ⊆ more) : (pairing.relink more).Calls call twin := by
  cases calls with
  | get name space => exact .get name space
  | create twins space => exact .create (twins.relink grows) space
  | update twins space => exact .update (twins.relink grows) space

/-- Programs are alike with more links. -/
theorem Alike.relink (monotone : Monotone results)
    (alike : Alike results pairing program twinProgram) (grows : pairing.links ⊆ more) :
    Alike results (pairing.relink more) program twinProgram := by
  induction alike with
  | done same => exact .done (monotone _ _ _ _ grows same)
  | call calls rest =>
    refine .call (calls.relink grows) fun further answer twinAnswer grown same => ?_
    exact rest further answer twinAnswer (fun _ there => grown (grows there)) same
  | tell _ ih => exact .tell (ih grows)
  | now _ ih => exact .now fun count other => ih count other grows

/-- Programs that go on with alike results in alike ways are alike. -/
theorem Alike.bind {last : Pairing → β → β → Prop} {next twinNext : α → Program β}
    (alike : Alike results pairing program twinProgram)
    (goesOn : ∀ more one other, pairing.links ⊆ more → results (pairing.relink more) one other →
      Alike last (pairing.relink more) (next one) (twinNext other)) :
    Alike last pairing (program.bind next) (twinProgram.bind twinNext) := by
  induction alike with
  | @done pairing one other same => exact goesOn pairing.links one other (fun _ there => there) same
  | call calls rest ih =>
    refine .call calls fun more answer twinAnswer grows same => ?_
    refine ih more answer twinAnswer grows same fun further one other grown related => ?_
    exact goesOn further one other (fun _ there => grown (grows there)) related
  | tell _ ih => exact .tell (ih goesOn)
  | now _ ih => exact .now fun count other => ih count other goesOn

/-- Alike programs are alike when they have told their events and read their clocks. -/
theorem Alike.settle (alike : Alike results pairing program twinProgram)
    (world twinWorld : World Memory) :
    Alike results pairing (program.settle pairing.left.clock world).1
      (twinProgram.settle pairing.right.clock twinWorld).1 := by
  induction alike generalizing world twinWorld with
  | done same => exact .done same
  | call calls rest => exact .call calls rest
  | tell _ ih => exact ih _ _
  | now _ ih => exact ih _ _ _ _

/-- Alike programs that wait at calls of a key are alike when they have advanced, and the stores
behind them hold twins under the key. -/
theorem Matched.advance {world twinWorld : World Memory}
    (matched : pairing.Matched key world.state twinWorld.state) (legible : pairing.Legible)
    (alike : Alike results pairing program twinProgram)
    (own : ∀ (kind : Kind) (call : Call kind) resume, program = .call call resume →
      call.key = key) :
    ∃ more, pairing.links ⊆ more ∧
      Alike results (pairing.relink more)
        (program.advance (Memory.repository pairing.left.uids) pairing.left.clock world).1
        (twinProgram.advance (Memory.repository pairing.right.uids) pairing.right.clock
          twinWorld).1 ∧
      (pairing.relink more).Matched key
        (program.advance (Memory.repository pairing.left.uids) pairing.left.clock world).2.state
        (twinProgram.advance (Memory.repository pairing.right.uids) pairing.right.clock
          twinWorld).2.state := by
  have settled := alike.settle world twinWorld
  cases alike with
  | call calls rest =>
    obtain ⟨more, grows, same, after⟩ := matched.perform legible calls (own _ _ _ rfl)
    refine ⟨more, grows, (rest more _ _ grows same).settle _ _, ?_⟩
    simp only [Program.advance, Program.settle_state]
    exact after
  | done | tell | now =>
    refine ⟨pairing.links, fun _ there => there, settled, ?_⟩
    simp only [Program.advance, Program.settle_state]
    exact matched

/-- Alike programs have related results, or neither has ended. -/
theorem Alike.result? (alike : Alike results pairing program twinProgram) :
    Option.Rel (results pairing) program.result? twinProgram.result? := by
  cases alike with
  | done same => exact .some same
  | call | tell | now => exact .none

end Programs

end Pairing

end HealthLedger.Store
