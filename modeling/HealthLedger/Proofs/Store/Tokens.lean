import HealthLedger.Proofs.Store.Journal

/-!
# Versions as tokens

The version that a write returns is a token for the next update of the key. The tokens of a run
are the numbers from one on in the order of the writes, whatever keys they are for, and a token
that was redeemed is that of no entry any more (`Tokens.step`). So a token names one write: an
update succeeds exactly if it carries the token of the last write of its key, and no token is
redeemed twice (`Memory.tokens_identify_writes`).
-/

namespace HealthLedger.Store

open Document (Kind Key Resource Vocabulary)

/-- What was decoded stays within the vocabulary of everything. -/
theorem Call.Decoded.to_all {vocabulary : Vocabulary} {kind : Kind} {call : Call kind}
    (decoded : call.Decoded vocabulary) : call.Decoded .all := by
  cases call with
  | get name space => trivial
  | create document space => exact ⟨decoded.1, document.within_all⟩
  | update document space => exact ⟨decoded.1, document.within_all⟩

namespace Exchange

/-- The version that a write has returned. -/
def token? (exchange : Exchange) : Option String :=
  match exchange.answer with
  | .ok document => if exchange.request.isWrite then document.version else none
  | .error _ => none

/-- The exchange is an update that carried a token and succeeded. -/
def Redeems (token : String) (exchange : Exchange) : Prop :=
  ∃ client kind document space result,
    exchange = ⟨client, kind, .update document space, .ok result⟩ ∧ document.version = some token

variable {key : Key} {document : Resource key.kind} {exchange : Exchange} {token : String}

/-- A write has returned the version of its document. -/
theorem Wrote.token? (wrote : exchange.Wrote key document) :
    exchange.token? = document.version := by
  obtain ⟨client, request, rfl, isWrite, -⟩ := wrote
  simp [Exchange.token?, isWrite]

/-- What was not written has no token. -/
theorem token?_of_unwritten (unwritten : exchange.isWritten = false) :
    exchange.token? = none := by
  unfold token?
  split
  · next document ok =>
    rw [if_neg]
    intro isWrite
    simp [isWritten, isWrite, ok, Except.isOk, Except.toBool] at unwritten
  · rfl

/-- An update that redeems a token is a write. -/
theorem Redeems.isWritten (redeems : exchange.Redeems token) : exchange.isWritten = true := by
  obtain ⟨client, kind, document, space, result, rfl, -⟩ := redeems
  rfl

end Exchange

/-- The tokens of a journal and of the store behind it. -/
structure Tokens (journal : List Exchange) (memory : Memory) : Prop where
  /-- The tokens are the numbers from one to the last version. -/
  issued : journal.filterMap (·.token?) = (List.range' 1 memory.lastVersion).map toString
  /-- Every write has issued a token. -/
  given : ∀ exchange ∈ journal, exchange.isWritten → ∃ token, exchange.token? = some token
  /-- A token that was redeemed was issued and is that of no entry. -/
  spent : ∀ exchange ∈ journal, ∀ token, exchange.Redeems token →
    ∃ version ≤ memory.lastVersion, token = toString version ∧
      ∀ key stored, memory.find? key = some stored → stored.version ≠ version
  /-- No token is redeemed twice. -/
  once : journal.Pairwise fun earlier later => ∀ token, earlier.Redeems token →
    ¬ later.Redeems token

namespace Tokens

variable {uids : Nat → String} {vocabulary : Vocabulary} {journal : List Exchange}
  {memory after : Memory} {kind : Kind} {call : Call kind} {answer : Answer kind}

/-- There are no tokens for the empty store. -/
theorem empty : Tokens [] Memory.empty := by
  constructor
  · rfl
  · exact fun exchange there => nomatch there
  · exact fun exchange there => nomatch there
  · exact List.Pairwise.nil

/-- An exchange that writes nothing issues and redeems no token. -/
theorem silent (tokens : Tokens journal memory) {exchange : Exchange}
    (unwritten : exchange.isWritten = false) : Tokens (journal ++ [exchange]) memory := by
  have redeemsNone (token : String) : ¬ exchange.Redeems token := by
    intro redeems
    have written := redeems.isWritten
    rw [unwritten] at written
    contradiction
  constructor
  · rw [List.filterMap_append, tokens.issued]
    simp [Exchange.token?_of_unwritten unwritten]
  · intro other there written
    rcases List.mem_append.1 there with earlier | new
    · exact tokens.given other earlier written
    · obtain rfl := List.mem_singleton.1 new
      rw [unwritten] at written
      contradiction
  · intro other there token redeems
    rcases List.mem_append.1 there with earlier | new
    · exact tokens.spent other earlier token redeems
    · obtain rfl := List.mem_singleton.1 new
      exact absurd redeems (redeemsNone token)
  · refine List.pairwise_append.2 ⟨tokens.once, List.pairwise_singleton _ _, ?_⟩
    intro earlier _ other new token _
    obtain rfl := List.mem_singleton.1 new
    exact redeemsNone token

/-- A write issues the next token, and redeems at most that of the entry it takes the place of. -/
theorem write (tokens : Tokens journal memory) (sound : memory.Sound vocabulary)
    {document : Resource kind} {space uid : String} {exchange : Exchange}
    (issues : exchange.token? = some (toString (memory.lastVersion + 1)))
    (redeems : ∀ token, exchange.Redeems token → ∃ stored,
      memory.find? (document.keyIn space) = some stored ∧ token = toString stored.version) :
    Tokens (journal ++ [exchange]) (memory.write document space uid).2 := by
  have last : (memory.write document space uid).2.lastVersion = memory.lastVersion + 1 := rfl
  constructor
  · rw [List.filterMap_append, tokens.issued, last, List.range'_1_concat, List.map_append]
    simp [issues, Nat.add_comm]
  · intro other there written
    rcases List.mem_append.1 there with earlier | new
    · exact tokens.given other earlier written
    · obtain rfl := List.mem_singleton.1 new
      exact ⟨_, issues⟩
  · intro other there token redeemed
    rcases List.mem_append.1 there with earlier | new
    · obtain ⟨version, bounded, rfl, gone⟩ := tokens.spent other earlier token redeemed
      refine ⟨version, Nat.le_succ_of_le bounded, rfl, fun key stored found => ?_⟩
      rw [Memory.find?_write] at found
      split at found
      · obtain rfl := Option.some.inj found
        exact Nat.ne_of_gt (Nat.lt_succ_of_le bounded)
      · exact gone key stored found
    · obtain rfl := List.mem_singleton.1 new
      obtain ⟨replaced, held, rfl⟩ := redeems token redeemed
      have bounded := sound.bounded _ replaced held
      refine ⟨replaced.version, Nat.le_succ_of_le bounded, rfl, fun key stored found => ?_⟩
      rw [Memory.find?_write] at found
      split at found
      · obtain rfl := Option.some.inj found
        exact Nat.ne_of_gt (Nat.lt_succ_of_le bounded)
      · next different =>
        exact fun same => different (sound.distinct key _ stored replaced found held same)
  · refine List.pairwise_append.2 ⟨tokens.once, List.pairwise_singleton _ _, ?_⟩
    intro earlier there other new token redeemed again
    obtain rfl := List.mem_singleton.1 new
    -- The token was spent, but it is that of the entry that is replaced now.
    obtain ⟨version, -, rfl, gone⟩ := tokens.spent earlier there token redeemed
    obtain ⟨replaced, held, same⟩ := redeems _ again
    exact gone _ replaced held (toString_version_inj.1 same).symm

/-- A call keeps what is said of tokens when it is put down with its answer. -/
theorem step (tokens : Tokens journal memory) (sound : memory.Sound vocabulary)
    (effect : Memory.Effect memory call answer after) (client : Nat) :
    Tokens (journal ++ [⟨client, kind, call, answer⟩]) after := by
  cases effect with
  | silent unwritten => exact tokens.silent unwritten
  | @created document space uid nothing =>
    refine tokens.write sound rfl fun token redeems => ?_
    obtain ⟨_, _, _, _, _, same, -⟩ := redeems
    simp only [Exchange.mk.injEq] at same
    obtain ⟨-, rfl, same, -⟩ := same
    have same := eq_of_heq same
    contradiction
  | @updated document space stored found current =>
    refine tokens.write sound rfl fun token redeems => ⟨stored, found, ?_⟩
    obtain ⟨_, _, _, _, _, same, carried⟩ := redeems
    simp only [Exchange.mk.injEq] at same
    obtain ⟨-, rfl, same, -⟩ := same
    obtain ⟨rfl, rfl⟩ := Call.update.inj (eq_of_heq same)
    exact Option.some.inj (carried.symm.trans current)

/-- Calls keep what is said of tokens when they are put down with their answers. -/
theorem serve (tokens : Tokens journal memory) (accounts : Accounts vocabulary journal memory)
    (uids : Nat → String) (calls : List Request)
    (sound : ∀ request ∈ calls, request.call.Sound vocabulary) :
    Tokens (journal ++ (Memory.serve uids calls memory).1) (Memory.serve uids calls memory).2 := by
  induction calls generalizing journal memory with
  | nil => simpa [Memory.serve] using tokens
  | cons request rest ih =>
    obtain ⟨first, others⟩ := List.forall_mem_cons.1 sound
    have effect := (Memory.perform_move uids memory request.call).effect
    have whole := ih (tokens.step accounts.sound effect request.client)
      (accounts.step effect first request.client) others
    rwa [List.append_assoc] at whole

/-- The tokens of a journal are different. -/
theorem nodup (tokens : Tokens journal memory) : (journal.filterMap (·.token?)).Nodup := by
  rw [tokens.issued]
  refine List.Pairwise.map _ (fun first second different same => ?_) List.nodup_range'
  exact different (toString_version_inj.1 same)

/-- Later tokens are greater numbers. -/
theorem increasing (tokens : Tokens journal memory) :
    journal.Pairwise fun earlier later => ∀ token, earlier.token? = some token →
      ∀ other, later.token? = some other →
        ∃ first second : Nat,
          token = toString first ∧ other = toString second ∧ first < second := by
  refine List.pairwise_filterMap.1 ?_
  rw [tokens.issued]
  refine List.Pairwise.map _ (fun first second less => ?_) List.pairwise_lt_range'
  exact ⟨first, second, rfl, rfl, less⟩

end Tokens

/-- Calls in two parts are served one part after the other. -/
theorem Memory.serve_append (uids : Nat → String) (first second : List Request)
    (memory : Memory) :
    serve uids (first ++ second) memory =
      ((serve uids first memory).1 ++ (serve uids second (serve uids first memory).2).1,
        (serve uids second (serve uids first memory).2).2) := by
  induction first generalizing memory with
  | nil => rfl
  | cons request rest ih =>
    simp only [List.cons_append, serve, ih]

/-- The answer to an update of a store with a journal, by the token that the document carries. -/
structure Verdict (journal : List Exchange) (memory : Memory) {kind : Kind}
    (document : Resource kind) (space : String) (answer : Answer kind) : Prop where
  /-- The update succeeds if and only if its key is stored and the token is the one that the last
  write of the key issued, character for character. -/
  accepted : (∃ result, answer = .ok result) ↔ memory.Holds (document.keyIn space) ∧
    ∃ (last : Resource kind) (token : String),
      LastWritten (document.keyIn space) last journal ∧ last.version = some token ∧
        document.version = some token
  /-- Without an entry nothing is found, whatever token is carried. -/
  missing : ¬ memory.Holds (document.keyIn space) →
    answer = .error ⟨document.keyIn space, .notFound⟩
  /-- Any other token than that of the last write is a conflict. -/
  refused : memory.Holds (document.keyIn space) →
    (∀ last : Resource kind, LastWritten (document.keyIn space) last journal →
      document.version ≠ last.version) →
    answer = .error ⟨document.keyIn space, .conflict⟩
  /-- No token is a conflict. -/
  bare : memory.Holds (document.keyIn space) → document.version = none →
    answer = .error ⟨document.keyIn space, .conflict⟩
  /-- A token that was issued for another key is a conflict. -/
  foreign : memory.Holds (document.keyIn space) → ∀ exchange ∈ journal, ∀ token,
    exchange.token? = some token → exchange.request.key ≠ document.keyIn space →
    document.version = some token → answer = .error ⟨document.keyIn space, .conflict⟩
  /-- What is not the decimal text of a number, as another spelling of it, is a conflict. -/
  respelt : memory.Holds (document.keyIn space) →
    (∀ version : Nat, document.version ≠ some (toString version)) →
    answer = .error ⟨document.keyIn space, .conflict⟩

/-- Two exchanges of a journal with the same token are the same. -/
theorem Tokens.eq_of_token? {journal : List Exchange} {memory : Memory}
    (tokens : Tokens journal memory) {exchange other : Exchange} {token : String}
    (there : exchange ∈ journal) (also : other ∈ journal) (issued : exchange.token? = some token)
    (again : other.token? = some token) : exchange = other := by
  have apart := List.pairwise_iff_getElem.1 tokens.increasing
  obtain ⟨position, within, rfl⟩ := List.mem_iff_getElem.1 there
  obtain ⟨place, inside, rfl⟩ := List.mem_iff_getElem.1 also
  rcases Nat.lt_trichotomy position place with before | same | behind
  · obtain ⟨first, second, rfl, same, less⟩ :=
      apart position place within inside before token issued token again
    exact absurd (toString_version_inj.1 same) (Nat.ne_of_lt less)
  · subst same
    rfl
  · obtain ⟨first, second, rfl, same, less⟩ :=
      apart place position inside within behind token again token issued
    exact absurd (toString_version_inj.1 same) (Nat.ne_of_lt less)

/-- The last write of a key has returned one document. -/
theorem LastWritten.unique {key : Key} {document other : Resource key.kind}
    {journal : List Exchange} (last : LastWritten key document journal)
    (again : LastWritten key other journal) : document = other := by
  obtain ⟨before, exchange, after, rfl, wrote, none⟩ := last
  obtain ⟨front, last, rest, same, wroteOther, noneOther⟩ := again
  rcases List.append_eq_append_iff.1 same with ⟨between, -, tail⟩ | ⟨between, -, tail⟩
  · cases between with
    | nil =>
      obtain ⟨rfl, -⟩ := List.cons.inj tail
      exact wrote.unique wroteOther
    | cons first others =>
      obtain ⟨-, rfl⟩ := List.cons.inj tail
      exact absurd wroteOther (none last (by simp) other)
  · cases between with
    | nil =>
      obtain ⟨rfl, -⟩ := List.cons.inj tail
      exact wrote.unique wroteOther
    | cons first others =>
      obtain ⟨-, rfl⟩ := List.cons.inj tail
      exact absurd wrote (noneOther exchange (by simp) document)

/-- What a store without an entry answers to an update is told by no token. -/
theorem verdict_of_absent {journal : List Exchange} {memory : Memory} {kind : Kind}
    {document : Resource kind} {space : String}
    (nothing : memory.find? (document.keyIn space) = none) :
    Verdict journal memory document space (.error ⟨document.keyIn space, .notFound⟩) := by
  have none : ¬ memory.Holds (document.keyIn space) := fun holds => holds.ne_none nothing
  constructor
  · constructor
    · rintro ⟨result, ok⟩
      contradiction
    · exact fun succeeds => absurd succeeds.1 none
  · exact fun _ => rfl
  all_goals exact fun holds => absurd holds none

/-- What a store with an entry answers to an update is told by the token. -/
theorem verdict_of_stored {uids : Nat → String} {vocabulary : Vocabulary}
    {journal : List Exchange} {memory after : Memory}
    (accounts : Accounts vocabulary journal memory) (tokens : Tokens journal memory) {kind : Kind}
    {document : Resource kind} {space : String} {answer : Answer kind}
    (move : Memory.Move uids memory (.update document space) answer after) {stored : Stored}
    (found : memory.find? (document.keyIn space) = some stored) :
    Verdict journal memory document space answer := by
  obtain ⟨last, shown, written⟩ := accounts.written _ stored found
  have issued : last.version = some (toString stored.version) := shown.version
  have holds : memory.Holds (document.keyIn space) := ⟨stored, found⟩
  have stale (other : document.version ≠ some (toString stored.version)) :=
    (move.update_stale found other).1
  constructor
  · constructor
    · rintro ⟨result, ok⟩
      refine ⟨holds, last, toString stored.version, written, issued, ?_⟩
      refine Decidable.byContradiction fun other => ?_
      have conflict := (stale other).symm.trans ok
      contradiction
    · rintro ⟨-, again, token, writtenAgain, issuedAgain, carried⟩
      obtain rfl := written.unique writtenAgain
      obtain rfl := Option.some.inj (issued.symm.trans issuedAgain)
      exact ⟨_, (move.update_current found carried).1⟩
  · exact fun nothing => absurd holds nothing
  · intro _ other
    exact stale fun same => other last written (same.trans issued.symm)
  · intro _ none
    refine stale fun same => ?_
    have versioned := none.symm.trans same
    contradiction
  · intro _ exchange there token issuedThere elsewhere carried
    refine stale fun same => elsewhere ?_
    obtain rfl := Option.some.inj (carried.symm.trans same)
    obtain ⟨before, writing, after, rfl, wrote, -⟩ := written
    rw [tokens.eq_of_token? there (by simp) issuedThere (wrote.token?.trans issued)]
    exact wrote.key_eq
  · intro _ respelt
    exact stale (respelt stored.version)

/-- The store answers an update by its token. -/
theorem Memory.verdict (uids : Nat → String) {vocabulary : Vocabulary} {journal : List Exchange}
    {memory : Memory} (accounts : Accounts vocabulary journal memory)
    (tokens : Tokens journal memory) {kind : Kind} (document : Resource kind) (space : String) :
    Verdict journal memory document space
      (perform uids (.update document space) memory).1 := by
  cases found : memory.find? (document.keyIn space) with
  | none =>
    have answer : (perform uids (.update document space) memory).1 =
        .error ⟨document.keyIn space, .notFound⟩ := by
      simp only [perform, found, Call.key]
    rw [answer]
    exact verdict_of_absent found
  | some stored => exact verdict_of_stored accounts tokens (perform_move uids memory _) found

/-- The writes of a journal are told apart by their tokens. -/
structure TellsApart (journal : List Exchange) : Prop where
  /-- Every write has issued a token. -/
  issues : ∀ exchange ∈ journal, exchange.isWritten → ∃ token, exchange.token? = some token
  /-- No token was issued twice. -/
  fresh : (journal.filterMap (·.token?)).Nodup
  /-- The versions of a key strictly increase. -/
  increasing : journal.Pairwise fun earlier later =>
    ∀ (key : Key) (first second : Resource key.kind), earlier.Wrote key first →
      later.Wrote key second → ∃ before after : Nat, first.version = some (toString before) ∧
        second.version = some (toString after) ∧ before < after
  /-- No token was redeemed twice. -/
  once : journal.Pairwise fun earlier later => ∀ token, earlier.Redeems token →
    ¬ later.Redeems token

/-- Tokens tell the writes of a journal apart. -/
theorem Tokens.tellsApart {journal : List Exchange} {memory : Memory}
    (tokens : Tokens journal memory) : TellsApart journal := by
  constructor
  · exact tokens.given
  · exact tokens.nodup
  · refine tokens.increasing.imp_of_mem fun {earlier later} there also apart => ?_
    intro key first second wrote wroteAgain
    obtain ⟨token, issued⟩ := tokens.given earlier there wrote.isWritten
    obtain ⟨other, issuedAgain⟩ := tokens.given later also wroteAgain.isWritten
    obtain ⟨before, after, rfl, rfl, less⟩ := apart token issued other issuedAgain
    exact ⟨before, after, wrote.token?.symm.trans issued,
      wroteAgain.token?.symm.trans issuedAgain, less⟩
  · exact tokens.once

/-- In every run of calls with decoded documents the tokens tell the writes apart, and every update
is answered by the token it carries. -/
theorem Memory.tokens_identify_writes (uids : Nat → String) (calls : List Request)
    (decoded : ∀ request ∈ calls, request.call.Decoded .all) :
    TellsApart (serve uids calls .empty).1 ∧
      ∀ (earlier later : List Request) (client : Nat) (kind : Kind) (document : Resource kind)
        (space : String), calls = earlier ++ ⟨client, kind, .update document space⟩ :: later →
        ∃ answer after, (serve uids calls .empty).1 =
            (serve uids earlier .empty).1 ++
              ⟨client, kind, .update document space, answer⟩ :: after ∧
          Verdict (serve uids earlier .empty).1 (serve uids earlier .empty).2 document space
            answer := by
  have sound : ∀ request ∈ calls, request.call.Sound .all :=
    fun request there => (decoded request there).sound
  have tokens (served : List Request) (all : ∀ request ∈ served, request.call.Sound .all) :
      Tokens (serve uids served .empty).1 (serve uids served .empty).2 :=
    Tokens.empty.serve (.empty .all) uids served all
  refine ⟨(tokens calls sound).tellsApart, ?_⟩
  rintro earlier later client kind document space rfl
  have before (request : Request) (there : request ∈ earlier) : request.call.Sound .all :=
    sound request (List.mem_append_left _ there)
  have verdict := verdict uids (Accounts.of_serve uids before) (tokens earlier before) document
    space
  refine ⟨_, (serve uids later (perform uids (.update document space)
    (serve uids earlier .empty).2).2).1, ?_, verdict⟩
  rw [serve_append]
  rfl

/-- Of two updates with the same token the second one is refused. -/
theorem pings_told_apart :
    (∀ request ∈ pings, request.call.Decoded .all) ∧
      TellsApart (Memory.serve toString pings .empty).1 := by
  have decoded (request : Request) (there : request ∈ pings) : request.call.Decoded .all :=
    (pings_decoded request there).to_all
  exact ⟨decoded, (Memory.tokens_identify_writes toString pings decoded).1⟩

end HealthLedger.Store
