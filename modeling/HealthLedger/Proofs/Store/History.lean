import HealthLedger.Proofs.Store.Soundness
import HealthLedger.Proofs.Store.Turns

/-!
# What runs do to a store in memory

Programs that make sound calls are given sound answers and leave a sound store behind. What a
run makes of one entry is told by its exchanges: the entry stays as it is as long as its key is
spared, and a later entry has a greater version (`Pool.run_fate`).
-/

namespace HealthLedger.Store

open Document (Kind Key Resource Vocabulary)

/-- The document of a call, if it has one, was decoded and stays within a vocabulary. -/
def Call.Decoded (vocabulary : Vocabulary) {kind : Kind} : Call kind → Prop
  | .get _ _ => True
  | .create document _ => document.Decoded ∧ document.Within vocabulary
  | .update document _ => document.Decoded ∧ document.Within vocabulary

/-- A call with a decoded document is sound. -/
theorem Call.Decoded.sound {vocabulary : Vocabulary} {kind : Kind} {call : Call kind}
    (decoded : call.Decoded vocabulary) : call.Sound vocabulary := by
  cases call with
  | get name space => trivial
  | create document space => exact decoded.1.sound decoded.2
  | update document space => exact decoded.1.sound decoded.2

/-- Sound calls, sound answers and times of the vocabulary. -/
def Protocol.sound (vocabulary : Vocabulary) : Protocol where
  calls call := call.Sound vocabulary
  answers answer := answer.Sound vocabulary
  times := vocabulary.instants

/-- A sound store answers sound calls with sound answers and stays sound. -/
theorem Memory.serves_sound (uids : Nat → String) {vocabulary : Vocabulary}
    (stable : vocabulary.Stable) :
    (Memory.repository uids).Serves (Memory.Sound vocabulary) (.sound vocabulary) :=
  fun _ call memory sound soundCall => (perform_move uids memory call).sound stable sound soundCall

/-- The exchange is an update of a key that succeeded. -/
def Exchange.Updates (key : Key) (exchange : Exchange) : Prop :=
  Memory.Updates key exchange.request exchange.answer

/-- The exchange is a create of a key. -/
def Exchange.Creates (key : Key) (exchange : Exchange) : Prop :=
  Memory.Creates key exchange.request

/-- No update of the key succeeded. -/
def Spared (key : Key) (exchanges : List Exchange) : Prop :=
  ∀ exchange ∈ exchanges, ¬ exchange.Updates key

/-- A key is spared in two parts if it is spared in both. -/
theorem spared_append {key : Key} {first second : List Exchange} :
    Spared key (first ++ second) ↔ Spared key first ∧ Spared key second :=
  List.forall_mem_append

/-- What became of an entry: it is as it was and its key was spared, or a greater version has
taken its place. -/
inductive Fate (key : Key) (stored : Stored) (exchanges : List Exchange) (memory : Memory) : Prop
  /-- The entry is as it was. -/
  | kept (spared : Spared key exchanges) (found : memory.find? key = some stored)
  /-- A later entry has taken its place. -/
  | replaced (updated : ¬ Spared key exchanges) (later : Stored)
    (found : memory.find? key = some later) (newer : stored.version < later.version)

/-- What became of an entry in two steps. -/
theorem Fate.trans {key : Key} {stored : Stored} {first second : List Exchange}
    {memory last : Memory} (fate : Fate key stored first memory)
    (next : ∀ later, memory.find? key = some later → Fate key later second last) :
    Fate key stored (first ++ second) last := by
  cases fate with
  | kept spared found =>
    cases next stored found with
    | kept later found => exact .kept (spared_append.2 ⟨spared, later⟩) found
    | replaced updated later found newer =>
      exact .replaced (fun spared => updated (spared_append.1 spared).2) later found newer
  | replaced updated later found newer =>
    have updated : ¬ Spared key (first ++ second) :=
      fun spared => updated (spared_append.1 spared).1
    cases next later found with
    | kept _ found => exact .replaced updated later found newer
    | replaced _ last found newest =>
      exact .replaced updated last found (Nat.lt_trans newer newest)

/-- An update with the version that an entry had succeeds exactly if the key was spared since, and
then it takes the place of the entry. Otherwise it is a conflict and changes nothing. -/
theorem Fate.update {uids : Nat → String} {key : Key} {stored : Stored}
    {exchanges : List Exchange} {memory after : Memory}
    (fate : Fate key stored exchanges memory) {document : Resource key.kind}
    {answer : Answer key.kind}
    (move : Memory.Move uids memory (.update document key.space) answer after)
    (own : document.keyIn key.space = key)
    (carried : document.version = some (toString stored.version)) :
    ((∃ result, answer = .ok result) ↔ Spared key exchanges) ∧
      (¬ Spared key exchanges → answer = .error ⟨key, .conflict⟩ ∧ after = memory) ∧
      (Spared key exchanges → memory.find? key = some stored ∧
        after = (memory.write document key.space stored.uid).2) := by
  cases fate with
  | kept spared found =>
    obtain ⟨written, replaced⟩ := move.update_current (by rwa [own]) carried
    exact ⟨⟨fun _ => spared, fun _ => ⟨_, written⟩⟩, fun updated => absurd spared updated,
      fun _ => ⟨found, replaced⟩⟩
  | replaced updated later found newer =>
    have other : document.version ≠ some (toString later.version) := by
      rw [carried]
      intro same
      have same := toString_version_inj.1 (Option.some.inj same)
      omega
    obtain ⟨conflict, unmoved⟩ := move.update_stale (by rwa [own]) other
    rw [own] at conflict
    refine ⟨⟨?_, fun spared => absurd spared updated⟩, fun _ => ⟨conflict, unmoved⟩,
      fun spared => absurd spared updated⟩
    rintro ⟨result, ok⟩
    exact nomatch conflict.symm.trans ok

/-- Something is stored under a key. -/
def Memory.Holds (memory : Memory) (key : Key) : Prop := ∃ stored, memory.find? key = some stored

/-- Where something is stored it is found. -/
theorem Memory.Holds.ne_none {memory : Memory} {key : Key} (holds : memory.Holds key) :
    memory.find? key ≠ none := by
  obtain ⟨stored, found⟩ := holds
  simp [found]

/-- An entry or a later one is there. -/
theorem Fate.holds {key : Key} {stored : Stored} {exchanges : List Exchange} {memory : Memory}
    (fate : Fate key stored exchanges memory) : memory.Holds key := by
  cases fate with
  | kept _ found => exact ⟨_, found⟩
  | replaced _ later found _ => exact ⟨later, found⟩

namespace Pool

variable {α : Type} {uids : Nat → String} {clock : Clock} {vocabulary : Vocabulary}
  {pool : Pool α Memory} {protocol : Nat → Protocol}

/-- What a turn makes of an entry. -/
theorem turn_fate (uids : Nat → String) (clock : Clock)
    (sound : pool.world.state.Sound vocabulary) {key : Key}
    {stored : Stored} (found : pool.world.state.find? key = some stored) (number : Nat) :
    Fate key stored (pool.exchange? (Memory.repository uids) number).toList
      (pool.turn (Memory.repository uids) clock number).world.state := by
  cases made : pool.exchange? (Memory.repository uids) number with
  | none =>
    refine .kept (fun exchange there => nomatch there) ?_
    rwa [turn_state_of_silent made]
  | some exchange =>
    rw [turn_state_of_exchange clock made]
    obtain ⟨kind, request, resume, -, rfl⟩ := call_of_exchange? made
    have move := Memory.repository_move uids pool.world.state request
    rcases move.keeps sound found with ⟨spared, kept⟩ | ⟨updated, later, there, newer⟩
    · refine .kept (fun other there => ?_) kept
      obtain rfl := List.mem_singleton.1 there
      exact spared
    · refine .replaced (fun spared => ?_) later there newer
      exact spared _ (List.mem_singleton_self _) updated

/-- What a run makes of an entry. -/
theorem run_fate (obeys : pool.Obeys protocol (Memory.Sound vocabulary))
    (serves : ∀ number,
      (Memory.repository uids).Serves (Memory.Sound vocabulary) (protocol number))
    (times : ∀ number count, (protocol number).times (clock count)) {key : Key} {stored : Stored}
    (found : pool.world.state.find? key = some stored) (schedule : List Nat) :
    Fate key stored (pool.exchanges (Memory.repository uids) clock schedule)
      (pool.run (Memory.repository uids) clock schedule).world.state := by
  induction schedule generalizing pool stored with
  | nil => exact .kept (fun exchange there => nomatch there) found
  | cons number rest ih =>
    have next := obeys.turn serves times number
    exact (turn_fate uids clock obeys.store found number).trans fun later there => ih next there

end Pool

end HealthLedger.Store
