import HealthLedger.Proofs.Document.Decoded

/-!
# Reading a text and reading its value

A decoder is faithful if what it reads from the tree of a text is what it reads from the value of
the tree. A tree may say less than its value and more: members that are no fields are passed over
without being read, and a field that is given twice is an error although its value has it once. So
faithfulness is said of trees that are read both ways. While an object is read member by member,
the draft is that of the members so far, of which the last one of each key counts
(`Shape.ofTree_follows`).
-/

namespace HealthLedger.Document

open Json (Value Members Object Tree Items Entries insertMember findMember)

/-- What is read from a tree is read from the value of the tree. -/
def Decoder.Faithful {α : Type} (decoder : Decoder α) : Prop :=
  ∀ {room : Nat} {tree : Tree} {value : Value} {result : α},
    decoder.ofTree room tree = .ok result → tree.read room = .ok value →
      decoder.ofValue value = .ok result

namespace Decoder

/-- A truth value is read from the value of its tree. -/
theorem bool_faithful : bool.Faithful := by
  intro room tree value result read given
  cases Tree.reads_of_read given with
  | bool => exact congrArg Except.ok (Except.ok.inj read)
  | null | number | string | array | object => contradiction

/-- A string with a meaning is read from the value of its tree. -/
theorem stringWith_faithful {α : Type} (expected : String)
    (meaning : String → Except Mismatch α) : (stringWith expected meaning).Faithful := by
  intro room tree value result read given
  cases Tree.reads_of_read given with
  | string =>
    obtain ⟨text, said, meant⟩ := bind_eq_ok_iff.1 read
    obtain rfl := Except.ok.inj said
    exact mapError_eq_ok_iff.1 meant
  | null | bool | number | array | object => contradiction

/-- A string is read from the value of its tree. -/
theorem string_faithful : string.Faithful := stringWith_faithful _ _

/-- An instant is read from the value of its tree. -/
theorem instant_faithful : instant.Faithful := stringWith_faithful _ _

/-- What may be null is read from the value of its tree if it is when it is there. -/
theorem Faithful.optional {α : Type} {decoder : Decoder α} (faithful : decoder.Faithful) :
    decoder.optional.Faithful := by
  intro room tree value result read given
  cases Tree.reads_of_read given with
  | null => exact congrArg Except.ok (Except.ok.inj read)
  | bool | number | string | array | object =>
    obtain ⟨inner, readInner, same⟩ := map_eq_ok_iff.1 read
    exact map_eq_ok_iff.2 ⟨inner, faithful readInner given, same⟩

/-- What stands for something else is read from the value of its tree if that is. -/
theorem Faithful.map {α β : Type} {decoder : Decoder α} (faithful : decoder.Faithful)
    (f : α → β) : (decoder.map f).Faithful := by
  intro room tree value result read given
  obtain ⟨inner, readInner, same⟩ := map_eq_ok_iff.1 read
  exact map_eq_ok_iff.2 ⟨inner, faithful readInner given, same⟩

/-- Items are read from the values of their trees. -/
theorem Faithful.readItems {α : Type} {decoder : Decoder α} (faithful : decoder.Faithful)
    {room : Nat} {items : Items} {values : List Value} {results : List α}
    (read : decoder.readItems room items = .ok results)
    (given : items.read room = .ok values) : values.mapM decoder.ofValue = .ok results := by
  induction values generalizing items results with
  | nil =>
    cases Items.reads_of_read given
    exact congrArg Except.ok (Except.ok.inj read)
  | cons value others ih =>
    cases Items.reads_of_read given with
    | item givenFirst givenMore =>
      obtain ⟨head, readHead, read⟩ := bind_eq_ok_iff.1 read
      obtain ⟨tail, readTail, same⟩ := bind_eq_ok_iff.1 read
      rw [List.mapM_cons]
      exact bind_eq_ok_iff.2 ⟨head, faithful readHead givenFirst,
        bind_eq_ok_iff.2 ⟨tail, ih readTail givenMore, congrArg Except.ok (Except.ok.inj same)⟩⟩

/-- A list is read from the value of its tree if its items are. -/
theorem Faithful.list {α : Type} {decoder : Decoder α} (faithful : decoder.Faithful) :
    decoder.list.Faithful := by
  intro room tree value result read given
  cases Tree.reads_of_read given with
  | array fits givenItems =>
    obtain ⟨inner, entered, read⟩ := bind_eq_ok_iff.1 read
    obtain ⟨-, rfl⟩ := Json.enter_eq_ok_iff.1 (mapError_eq_ok_iff.1 entered)
    exact faithful.readItems read givenItems
  | null | bool | number | string | object => contradiction

/-- Null is read from the value of its tree. -/
theorem unit_faithful : unit.Faithful := by
  intro room tree value result read given
  cases Tree.reads_of_read given with
  | null => rfl
  | bool | number | string | array | object => contradiction

/-- A choice is read from the value of its tree. -/
theorem choice_faithful {α : Type} (choices : List (String × α)) (known : List String) :
    (choice choices known).Faithful := by
  intro room tree value result read given
  cases Tree.reads_of_read given with
  | string =>
    obtain ⟨text, said, meant⟩ := bind_eq_ok_iff.1 read
    obtain rfl := Except.ok.inj said
    exact mapError_eq_ok_iff.1 meant
  | object fits givenMembers =>
    obtain ⟨inner, entered, read⟩ := bind_eq_ok_iff.1 read
    obtain ⟨-, rfl⟩ := Json.enter_eq_ok_iff.1 (mapError_eq_ok_iff.1 entered)
    cases Entries.reads_of_read givenMembers with
    | done => contradiction
    | member named givenHeld givenOthers =>
      obtain ⟨name, again, read⟩ := bind_eq_ok_iff.1 read
      obtain ⟨chosen, meant, read⟩ := bind_eq_ok_iff.1 read
      obtain ⟨_, null, last⟩ := bind_eq_ok_iff.1 read
      obtain rfl := Except.ok.inj (named.symm.trans (mapError_eq_ok_iff.1 again))
      cases Entries.reads_of_read givenOthers with
      | done =>
        refine bind_eq_ok_iff.2 ⟨chosen, mapError_eq_ok_iff.1 meant, ?_⟩
        have same : chosen = result := Except.ok.inj last
        exact bind_eq_ok_iff.2 ⟨(), unit_faithful null givenHeld, congrArg Except.ok same⟩
      | member => contradiction
  | null | bool | number | array => contradiction

end Decoder

namespace Decoder

variable {α : Type} {decoder : Decoder α} {key other : String} {value : Value}

/-- A member that was put in is read. -/
theorem member_insertMember_self {result : α} (read : decoder.ofValue value = .ok result)
    (held : Members) : decoder.member key (insertMember key value held) = .ok (some result) := by
  rw [member, Json.findMember_insertMember, if_pos rfl]
  exact map_eq_ok_iff.2 ⟨result, read, rfl⟩

/-- A member of another key changes nothing of what is read. -/
theorem member_insertMember_of_ne (decoder : Decoder α) (different : other ≠ key) (value : Value)
    (held : Members) :
    decoder.member key (insertMember other value held) = decoder.member key held := by
  rw [member, member, Json.findMember_insertMember, if_neg different]

end Decoder

namespace Shape

variable {δ : Type} {shape : Shape δ} {room : Nat}

/-- The field that is read for a name has this name. -/
theorem name_of_fieldFor {draft : δ} {name : String} {key : Json.Key} {field : Field δ}
    (found : shape.fieldFor draft name key = .ok (some field)) : field.name = name := by
  unfold fieldFor at found
  split at found
  · exact nomatch Except.ok.inj found
  · next chosen there =>
    split at found
    · contradiction
    · obtain rfl := Option.some.inj (Except.ok.inj found)
      simpa using List.find?_some there

/-- A relation of members and drafts, for the members so far. -/
structure Follower (shape : Shape δ) (room : Nat) (motive : Members → δ → Prop) : Prop where
  /-- A field that is read changes the draft as its member does. -/
  fields : ∀ field ∈ shape.fields, ∀ held draft tree value next, motive held draft →
    field.read room draft tree = .ok next → Tree.read room tree = .ok value →
      motive (insertMember field.name value held) next
  /-- Another member is kept if the shape keeps it. -/
  kept : ∀ keep ∈ shape.keep, ∀ held draft name value, motive held draft →
    (∀ field ∈ shape.fields, field.name ≠ name) →
      motive (insertMember name value held) (keep draft name value)
  /-- Another member is passed over if the shape does not keep it. -/
  passed : shape.keep = none → ∀ held draft name value, motive held draft →
    (∀ field ∈ shape.fields, field.name ≠ name) → motive (insertMember name value held) draft

variable {motive : Members → δ → Prop}

/-- A member that is no field leads from draft to draft as its value does. -/
theorem Follower.readOther (follower : shape.Follower room motive) {held : Members}
    {draft next : δ} {name : String} {tree : Tree} {value : Value} (start : motive held draft)
    (other : ∀ field ∈ shape.fields, field.name ≠ name)
    (read : shape.readOther room draft name tree = .ok next) (given : tree.read room = .ok value) :
    motive (insertMember name value held) next := by
  unfold Shape.readOther at read
  split at read
  · next keeper keep =>
    obtain ⟨again, givenAgain, same⟩ := bind_eq_ok_iff.1 read
    obtain rfl := Except.ok.inj (given.symm.trans (mapError_eq_ok_iff.1 givenAgain))
    obtain rfl := Except.ok.inj same
    exact follower.kept keeper keep held draft name value start other
  · next keep =>
    obtain ⟨_, -, same⟩ := bind_eq_ok_iff.1 read
    obtain rfl := Except.ok.inj same
    exact follower.passed keep held draft name value start other

/-- Members that are read one after the other lead from draft to draft as their values do. -/
theorem Follower.readEntries (follower : shape.Follower room motive) {draft : δ}
    {entries : Entries} {result : δ × Nat} {held members : Members} (start : motive held draft)
    (read : shape.readEntries room draft entries = .ok result)
    (given : entries.read room = .ok members) :
    motive (members.foldl (fun sorted member => insertMember member.1 member.2 sorted) held)
      result.1 := by
  fun_induction shape.readEntries room draft entries generalizing held members with
  | case1 draft start stop =>
    obtain rfl := Except.ok.inj read
    cases Entries.reads_of_read given
    exact start
  | case2 => contradiction
  | case3 => contradiction
  | case4 => cases Entries.reads_of_read given
  | case5 draft start key value rest ih =>
    cases Entries.reads_of_read given with
    | @member _ _ _ _ name first others named givenFirst givenOthers =>
      obtain ⟨again, namedAgain, readRest⟩ := bind_eq_ok_iff.1 read
      obtain ⟨chosen, found, readValue⟩ := bind_eq_ok_iff.1 readRest
      obtain rfl := Except.ok.inj (named.symm.trans (mapError_eq_ok_iff.1 namedAgain))
      have known := fieldFor_eq_ok found
      cases chosen with
      | some field =>
        obtain ⟨next, filled, last⟩ := bind_eq_ok_iff.1 readValue
        obtain rfl := name_of_fieldFor found
        have moved := follower.fields field (known.1 field rfl) held draft value first next ‹_›
          filled givenFirst
        have whole := ih next moved last givenOthers
        exact whole
      | none =>
        obtain ⟨next, kept, last⟩ := bind_eq_ok_iff.1 readValue
        have moved := follower.readOther ‹motive held draft› (known.2 rfl) kept givenFirst
        have whole := ih next moved last givenOthers
        exact whole

/-- What is read from the tree of an object is the finished draft of its members. -/
theorem ofTree_follows {α : Type} {title : String} {empty : δ} {finish : δ → Except Mismatch α}
    {tree : Tree} {value : Value} {result : α}
    (follower : shape.Follower (room - 1) motive) (start : motive [] empty)
    (read : shape.ofTree title empty finish room tree = .ok result)
    (given : tree.read room = .ok value) :
    ∃ members draft, value = .object members ∧ Json.Increasing members ∧ motive members draft ∧
      finish draft = .ok result := by
  cases Tree.reads_of_read given with
  | @object _ entries members fits givenMembers =>
    obtain ⟨inner, entered, read⟩ := bind_eq_ok_iff.1 read
    obtain ⟨-, rfl⟩ := Json.enter_eq_ok_iff.1 (mapError_eq_ok_iff.1 entered)
    obtain ⟨⟨draft, stop⟩, entriesRead, read⟩ := bind_eq_ok_iff.1 read
    exact ⟨_, draft, rfl, Json.increasing_sortMembers members,
      follower.readEntries start entriesRead givenMembers, mapError_eq_ok_iff.1 read⟩
  | null | bool | number | string | array => contradiction

/-- Items that nobody wants more of are at their end. -/
theorem done_of_close {items : Items} (closed : items.close = .ok ()) :
    ∃ stop, items = .done stop := by
  cases items with
  | done stop => exact ⟨stop, rfl⟩
  | broken reading skipping =>
    unfold Items.close at closed
    simp only at closed
    split at closed <;> contradiction
  | item value rest => cases value <;> contradiction

/-- Items that are read into the fields of their numbers lead from draft to draft as their values
do. -/
theorem readItems_follows {motive : List Value → δ → Prop} {all : List (Field δ)}
    (step : ∀ number field, all[number]? = some field → ∀ held draft tree value next,
      held.length = number → motive held draft → field.read room draft tree = .ok next →
        Tree.read room tree = .ok value → motive (held ++ [value]) next)
    {fields : List (Field δ)} {items : Items} {draft : δ} {result : δ × Items}
    {held values : List Value} (left : fields = all.drop held.length)
    (within : held.length ≤ all.length) (start : motive held draft)
    (read : readItems room draft fields items = .ok result) (closed : result.2.close = .ok ())
    (given : items.read room = .ok values) :
    motive (held ++ values) result.1 ∧ (held ++ values).length ≤ all.length := by
  induction fields generalizing items draft held values with
  | nil =>
    obtain rfl := Except.ok.inj read
    obtain ⟨stop, rfl⟩ := done_of_close closed
    cases Items.reads_of_read given
    rw [List.append_nil]
    exact ⟨start, within⟩
  | cons field fields ih =>
    cases Items.reads_of_read given with
    | done =>
      obtain rfl := Except.ok.inj read
      rw [List.append_nil]
      exact ⟨start, within⟩
    | @item tree rest value others givenValue givenOthers =>
      obtain ⟨next, filled, readRest⟩ := bind_eq_ok_iff.1 read
      have here : all[held.length]? = some field := by
        rw [← List.head?_drop, ← left]
        rfl
      have less := (List.getElem?_eq_some_iff.1 here).1
      have moved := step held.length field here held draft tree value next rfl start filled
        givenValue
      have further : fields = all.drop (held ++ [value]).length := by
        rw [List.length_append, List.length_singleton, ← List.drop_drop, ← left]
        rfl
      have whole := ih further (by simp; omega) moved readRest givenOthers
      rwa [List.append_assoc] at whole

end Shape

/-- A field that is a part of the draft is read from the value of its tree if its decoder is
faithful. -/
theorem Field.of_faithful {δ α : Type} {name : String} {decoder : Decoder α} {get : δ → Option α}
    {set : δ → α → δ} {room : Nat} {draft next : δ} {tree : Tree} {value : Value}
    (faithful : decoder.Faithful)
    (read : (Field.of name decoder get set).read room draft tree = .ok next)
    (given : tree.read room = .ok value) :
    ∃ result, decoder.ofValue value = .ok result ∧ next = set draft result := by
  obtain ⟨result, inner, same⟩ := map_eq_ok_iff.1 read
  exact ⟨result, faithful inner given, same.symm⟩

/-- Kept members are the members so far without those of fields. -/
def Retains (keys : List String) (held kept : Members) : Prop :=
  ∀ key, (Object.ofMembers kept).find? key =
    if key ∈ keys then none else findMember key held

namespace Retains

variable {keys : List String} {held kept : Members} {name : String}

/-- No members are kept of none. -/
theorem nil : Retains keys [] [] := by
  intro key
  simp [Object.ofMembers, Object.find?, Json.sortMembers, findMember]

/-- A field changes nothing of what is kept. -/
theorem field (retains : Retains keys held kept) (named : name ∈ keys) (value : Value) :
    Retains keys (insertMember name value held) kept := by
  intro key
  rw [retains, Json.findMember_insertMember]
  by_cases same : name = key
  · subst same
    simp [named]
  · simp [same]

/-- Another member is kept. -/
theorem other (retains : Retains keys held kept) (other : name ∉ keys) (value : Value) :
    Retains keys (insertMember name value held) (kept ++ [(name, value)]) := by
  intro key
  rw [Object.find?_ofMembers_concat, retains, Json.findMember_insertMember]
  by_cases same : name = key
  · subst same
    simp [other]
  · simp [same]

/-- Kept members are what is left of the members when the fields are taken out. -/
theorem ofMembers_eq (retains : Retains keys held kept) (increasing : Json.Increasing held) :
    Object.ofMembers kept = .ofMembers (held.filter (·.1 ∉ keys)) := by
  refine Object.ext_find? fun key => ?_
  rw [retains, Object.find?_ofMembers, Json.sortMembers_of_increasing (increasing.filter _),
    Json.findMember_filter key fun key => decide (key ∉ keys)]
  by_cases named : key ∈ keys <;> simp [named]

end Retains

namespace Metadata

/-- The draft is what is read from the members so far. -/
structure Draft.Reads (held : Members) (draft : Draft) : Prop where
  /-- The name is read. -/
  name : Decoder.string.member "name" held = .ok draft.name
  /-- The namespace is read. -/
  space : Decoder.string.member "namespace" held = .ok draft.space
  /-- The version is read. -/
  version : Decoder.string.optional.member "resourceVersion" held = .ok draft.version
  /-- The identity is read. -/
  uid : Decoder.string.optional.member "uid" held = .ok draft.uid
  /-- The other members are kept. -/
  extra : Retains keys held draft.extra

/-- Every member of metadata leads from the draft of the members so far to the next one. -/
theorem follower (room : Nat) : shape.Follower room Draft.Reads := by
  constructor
  · intro field inside held draft tree value next reads filled given
    obtain ⟨name, space, version, uid, extra⟩ := reads
    simp only [shape, List.mem_cons, List.not_mem_nil, or_false] at inside
    rcases inside with rfl | rfl | rfl | rfl
    · obtain ⟨result, inner, rfl⟩ := Field.of_faithful Decoder.string_faithful filled given
      have kept := extra.field (show "name" ∈ keys by decide) value
      constructor <;> simp [Decoder.member_insertMember_self inner,
        Decoder.member_insertMember_of_ne, Field.of, *]
    · obtain ⟨result, inner, rfl⟩ := Field.of_faithful Decoder.string_faithful filled given
      have kept := extra.field (show "namespace" ∈ keys by decide) value
      constructor <;> simp [Decoder.member_insertMember_self inner,
        Decoder.member_insertMember_of_ne, Field.of, *]
    · obtain ⟨result, inner, rfl⟩ :=
        Field.of_faithful Decoder.string_faithful.optional filled given
      have kept := extra.field (show "resourceVersion" ∈ keys by decide) value
      constructor <;> simp [Decoder.member_insertMember_self inner,
        Decoder.member_insertMember_of_ne, Field.of, *]
    · obtain ⟨result, inner, rfl⟩ :=
        Field.of_faithful Decoder.string_faithful.optional filled given
      have kept := extra.field (show "uid" ∈ keys by decide) value
      constructor <;> simp [Decoder.member_insertMember_self inner,
        Decoder.member_insertMember_of_ne, Field.of, *]
  · intro keep kept held draft name value reads other
    obtain rfl := Option.some.inj kept
    simp only [shape, Field.of, List.forall_mem_cons, List.not_mem_nil, false_implies,
      implies_true, and_true] at other
    obtain ⟨notName, notSpace, notVersion, notUid⟩ := other
    constructor
    · rw [Decoder.member_insertMember_of_ne _ notName.symm, reads.name]
    · rw [Decoder.member_insertMember_of_ne _ notSpace.symm, reads.space]
    · rw [Decoder.member_insertMember_of_ne _ notVersion.symm, reads.version]
    · rw [Decoder.member_insertMember_of_ne _ notUid.symm, reads.uid]
    · exact reads.extra.other (by simp [keys, notName.symm, notSpace.symm, notVersion.symm,
        notUid.symm]) value
  · intro none
    contradiction

/-- Metadata are read from the value of their tree. -/
theorem faithful : decoder.Faithful := by
  intro room tree value result read given
  obtain ⟨members, draft, rfl, increasing, reads, finished⟩ :=
    Shape.ofTree_follows (follower (room - 1)) ⟨rfl, rfl, rfl, rfl, .nil⟩ read given
  change ofMembers members = _
  rw [ofMembers, reads.name, reads.space, reads.version, reads.uid]
  unfold Draft.finish at finished
  split at finished
  · contradiction
  · next name named =>
    rw [← reads.extra.ofMembers_eq increasing, named]
    exact finished

end Metadata

namespace JobSpec

/-- The draft is what is read from the members so far. -/
structure Draft.Reads (held : Members) (draft : Draft) : Prop where
  /-- The phase is read. -/
  phase : Phase.decoder.member "phase" held = .ok draft.phase
  /-- The other members are kept. -/
  extra : Retains keys held draft.extra

/-- Every member of a specification leads from the draft of the members so far to the next
one. -/
theorem follower (room : Nat) : shape.Follower room Draft.Reads := by
  constructor
  · intro field inside held draft tree value next reads filled given
    obtain rfl := List.mem_singleton.1 inside
    obtain ⟨result, inner, rfl⟩ :=
      Field.of_faithful (Decoder.string_faithful.map _) filled given
    constructor
    · exact Decoder.member_insertMember_self inner held
    · exact reads.extra.field (by decide) value
  · intro keep kept held draft name value reads other
    obtain rfl := Option.some.inj kept
    have notPhase : "phase" ≠ name := other _ List.mem_cons_self
    constructor
    · rw [Decoder.member_insertMember_of_ne _ notPhase.symm, reads.phase]
    · exact reads.extra.other (by simp [keys, notPhase.symm]) value
  · intro none
    contradiction

/-- A specification of a job is read from the value of its tree. -/
theorem faithful : decoder.Faithful := by
  intro room tree value result read given
  change shape.ofTree title {} (fun draft => .ok draft.finish) room tree = _ at read
  obtain ⟨members, draft, rfl, increasing, reads, finished⟩ :=
    Shape.ofTree_follows (follower (room - 1)) ⟨rfl, .nil⟩ read given
  change ofMembers members = _
  rw [ofMembers, reads.phase, ← reads.extra.ofMembers_eq increasing]
  exact finished

end JobSpec

/-- A workload is read from the value of its tree. -/
theorem Workload.faithful : decoder.Faithful := Decoder.choice_faithful _ _

namespace Details

/-- The draft is what is read from the members so far. -/
structure Draft.Reads (held : Members) (draft : Draft) : Prop where
  /-- It is read whether the run succeeded. -/
  ok : Decoder.bool.member "ok" held = .ok draft.ok
  /-- It is read what went wrong. -/
  errors : Decoder.string.list.member "errors" held = .ok draft.errors
  /-- The duration is read. -/
  runDuration : Decoder.string.member "runDuration" held = .ok draft.runDuration
  /-- The namespace is read. -/
  space : Decoder.string.member "namespace" held = .ok draft.space
  /-- The time is read. -/
  lastRun : Decoder.instant.optional.member "lastRun" held = .ok draft.lastRun
  /-- The pod is read. -/
  authoritativePod : Decoder.string.member "authoritativePod" held = .ok draft.authoritativePod
  /-- The identity of the run is read. -/
  currentUuid : Decoder.string.member "currentUUID" held = .ok draft.currentUuid
  /-- The workload is read. -/
  workload : Workload.decoder.member "workload" held = .ok draft.workload

/-- Every member of details leads from the draft of the members so far to the next one. -/
theorem follower (room : Nat) : shape.Follower room Draft.Reads := by
  constructor
  · intro field inside held draft tree value next reads filled given
    obtain ⟨ok, errors, duration, space, lastRun, pod, uuid, workload⟩ := reads
    simp only [shape, List.mem_cons, List.not_mem_nil, or_false] at inside
    rcases inside with rfl | rfl | rfl | rfl | rfl | rfl | rfl | rfl
    · obtain ⟨result, inner, rfl⟩ := Field.of_faithful Decoder.bool_faithful filled given
      constructor <;> simp [Decoder.member_insertMember_self inner,
        Decoder.member_insertMember_of_ne, Field.of, *]
    · obtain ⟨result, inner, rfl⟩ :=
        Field.of_faithful Decoder.string_faithful.list filled given
      constructor <;> simp [Decoder.member_insertMember_self inner,
        Decoder.member_insertMember_of_ne, Field.of, *]
    · obtain ⟨result, inner, rfl⟩ := Field.of_faithful Decoder.string_faithful filled given
      constructor <;> simp [Decoder.member_insertMember_self inner,
        Decoder.member_insertMember_of_ne, Field.of, *]
    · obtain ⟨result, inner, rfl⟩ := Field.of_faithful Decoder.string_faithful filled given
      constructor <;> simp [Decoder.member_insertMember_self inner,
        Decoder.member_insertMember_of_ne, Field.of, *]
    · obtain ⟨result, inner, rfl⟩ :=
        Field.of_faithful Decoder.instant_faithful.optional filled given
      constructor <;> simp [Decoder.member_insertMember_self inner,
        Decoder.member_insertMember_of_ne, Field.of, *]
    · obtain ⟨result, inner, rfl⟩ := Field.of_faithful Decoder.string_faithful filled given
      constructor <;> simp [Decoder.member_insertMember_self inner,
        Decoder.member_insertMember_of_ne, Field.of, *]
    · obtain ⟨result, inner, rfl⟩ := Field.of_faithful Decoder.string_faithful filled given
      constructor <;> simp [Decoder.member_insertMember_self inner,
        Decoder.member_insertMember_of_ne, Field.of, *]
    · obtain ⟨result, inner, rfl⟩ := Field.of_faithful Workload.faithful filled given
      constructor <;> simp [Decoder.member_insertMember_self inner,
        Decoder.member_insertMember_of_ne, Field.of, *]
  · intro keep kept
    contradiction
  · intro _ held draft name value reads other
    obtain ⟨ok, errors, duration, space, lastRun, pod, uuid, workload⟩ := reads
    simp only [shape, Field.of, List.forall_mem_cons, List.not_mem_nil, false_implies,
      implies_true, and_true] at other
    constructor <;> simp [Decoder.member_insertMember_of_ne, Ne.symm, *]

/-- Details are read from members if they are what a draft of the members is finished to. -/
theorem ofMembers_eq_ok_iff {members : Members} {details : Details} :
    ofMembers members = .ok details ↔
      ∃ draft : Draft, draft.Reads members ∧ draft.finish = details := by
  constructor
  · intro read
    obtain ⟨pod, givenPod, readUuid⟩ := bind_eq_ok_iff.1 read
    obtain ⟨uuid, givenUuid, readErrors⟩ := bind_eq_ok_iff.1 readUuid
    obtain ⟨errors, givenErrors, readLastRun⟩ := bind_eq_ok_iff.1 readErrors
    obtain ⟨lastRun, givenLastRun, readSpace⟩ := bind_eq_ok_iff.1 readLastRun
    obtain ⟨space, givenSpace, readOk⟩ := bind_eq_ok_iff.1 readSpace
    obtain ⟨ok, givenOk, readDuration⟩ := bind_eq_ok_iff.1 readOk
    obtain ⟨duration, givenDuration, readWorkload⟩ := bind_eq_ok_iff.1 readDuration
    obtain ⟨workload, givenWorkload, last⟩ := bind_eq_ok_iff.1 readWorkload
    exact ⟨⟨ok, errors, duration, space, lastRun, pod, uuid, workload⟩,
      ⟨givenOk, givenErrors, givenDuration, givenSpace, givenLastRun, givenPod, givenUuid,
        givenWorkload⟩, Except.ok.inj last⟩
  · rintro ⟨draft, reads, rfl⟩
    rw [ofMembers, reads.ok, reads.errors, reads.runDuration, reads.space, reads.lastRun,
      reads.authoritativePod, reads.currentUuid, reads.workload]
    rfl

/-- Details that are an object are read from the value of their tree. -/
theorem faithful_of_object {room : Nat} {tree : Tree} {value : Value} {result : Details}
    (read : shape.ofTree title {} (fun draft => .ok draft.finish) room tree = .ok result)
    (given : tree.read room = .ok value) : decoder.ofValue value = .ok result := by
  obtain ⟨members, draft, rfl, -, reads, finished⟩ :=
    Shape.ofTree_follows (follower (room - 1)) ⟨rfl, rfl, rfl, rfl, rfl, rfl, rfl, rfl⟩ read given
  exact ofMembers_eq_ok_iff.2 ⟨draft, reads, Except.ok.inj finished⟩

/-- Read the item of a number, if there is one. -/
def nth {α : Type} (decoder : Decoder α) (number : Nat) (items : List Value) :
    Except Mismatch (Option α) :=
  first decoder (items.drop number)

/-- The item of its number is read into a field. -/
theorem nth_concat_self {α : Type} {decoder : Decoder α} {value : Value} {result : α}
    (read : decoder.ofValue value = .ok result) {held : List Value} {number : Nat}
    (length : held.length = number) :
    nth decoder number (held ++ [value]) = .ok (some result) := by
  subst length
  rw [nth, List.drop_left]
  exact map_eq_ok_iff.2 ⟨result, read, rfl⟩

/-- The item of another number changes nothing of what is read. -/
theorem nth_concat_of_ne {α : Type} (decoder : Decoder α) (value : Value) {held : List Value}
    {number : Nat} (other : held.length ≠ number) :
    nth decoder number (held ++ [value]) = nth decoder number held := by
  unfold nth
  rcases Nat.lt_or_gt_of_ne other with less | greater
  · rw [List.drop_of_length_le (by simp; omega), List.drop_of_length_le (by omega)]
  · rw [List.drop_append_of_le_length (by omega)]
    cases dropped : held.drop number with
    | nil =>
      have := List.drop_eq_nil_iff.1 dropped
      omega
    | cons => rfl

/-- The draft is what is read from the items so far. -/
structure Draft.ReadsItems (held : List Value) (draft : Draft) : Prop where
  /-- It is read whether the run succeeded. -/
  ok : nth .bool 0 held = .ok draft.ok
  /-- It is read what went wrong. -/
  errors : nth Decoder.string.list 1 held = .ok draft.errors
  /-- The duration is read. -/
  runDuration : nth .string 2 held = .ok draft.runDuration
  /-- The namespace is read. -/
  space : nth .string 3 held = .ok draft.space
  /-- The time is read. -/
  lastRun : nth Decoder.instant.optional 4 held = .ok draft.lastRun
  /-- The pod is read. -/
  authoritativePod : nth .string 5 held = .ok draft.authoritativePod
  /-- The identity of the run is read. -/
  currentUuid : nth .string 6 held = .ok draft.currentUuid
  /-- The workload is read. -/
  workload : nth Workload.decoder 7 held = .ok draft.workload

/-- Details are read from items if there are no more items than fields, and if the details are what
a draft of the items is finished to. -/
theorem ofItems_eq_ok_iff {items : List Value} {details : Details} :
    ofItems items = .ok details ↔
      items.length ≤ 8 ∧ ∃ draft : Draft, draft.ReadsItems items ∧ draft.finish = details := by
  constructor
  · intro read
    obtain ⟨ok, givenOk, readErrors⟩ := bind_eq_ok_iff.1 read
    obtain ⟨errors, givenErrors, readDuration⟩ := bind_eq_ok_iff.1 readErrors
    obtain ⟨duration, givenDuration, readSpace⟩ := bind_eq_ok_iff.1 readDuration
    obtain ⟨space, givenSpace, readLastRun⟩ := bind_eq_ok_iff.1 readSpace
    obtain ⟨lastRun, givenLastRun, readPod⟩ := bind_eq_ok_iff.1 readLastRun
    obtain ⟨pod, givenPod, readUuid⟩ := bind_eq_ok_iff.1 readPod
    obtain ⟨uuid, givenUuid, readWorkload⟩ := bind_eq_ok_iff.1 readUuid
    obtain ⟨workload, givenWorkload, last⟩ := bind_eq_ok_iff.1 readWorkload
    split at last
    · contradiction
    · next short =>
      exact ⟨Nat.not_lt.1 short, ⟨ok, errors, duration, space, lastRun, pod, uuid, workload⟩,
        ⟨givenOk, givenErrors, givenDuration, givenSpace, givenLastRun, givenPod, givenUuid,
          givenWorkload⟩, Except.ok.inj last⟩
  · rintro ⟨short, draft, ⟨ok, errors, duration, space, lastRun, pod, uuid, workload⟩, rfl⟩
    simp only [nth, List.drop_zero] at ok errors duration space lastRun pod uuid workload
    rw [ofItems, ok, errors, duration, space, lastRun, pod, uuid, workload]
    exact if_neg (Nat.not_lt.2 short)

/-- An item is read into the field of its number. -/
theorem step {room number : Nat} {field : Field Draft} (here : shape.fields[number]? = some field)
    {held : List Value} {draft next : Draft} {tree : Tree} {value : Value}
    (length : held.length = number) (reads : draft.ReadsItems held)
    (filled : field.read room draft tree = .ok next) (given : tree.read room = .ok value) :
    next.ReadsItems (held ++ [value]) := by
  obtain ⟨ok, errors, duration, space, lastRun, pod, uuid, workload⟩ := reads
  rcases number with _ | _ | _ | _ | _ | _ | _ | _ | number
  · obtain rfl := Option.some.inj here
    obtain ⟨result, inner, rfl⟩ := Field.of_faithful Decoder.bool_faithful filled given
    have own := nth_concat_self inner (show held.length = 0 from length)
    constructor <;> simp [nth_concat_of_ne, *]
  · obtain rfl := Option.some.inj here
    obtain ⟨result, inner, rfl⟩ := Field.of_faithful Decoder.string_faithful.list filled given
    have own := nth_concat_self inner (show held.length = 1 from length)
    constructor <;> simp [nth_concat_of_ne, *]
  · obtain rfl := Option.some.inj here
    obtain ⟨result, inner, rfl⟩ := Field.of_faithful Decoder.string_faithful filled given
    have own := nth_concat_self inner (show held.length = 2 from length)
    constructor <;> simp [nth_concat_of_ne, *]
  · obtain rfl := Option.some.inj here
    obtain ⟨result, inner, rfl⟩ := Field.of_faithful Decoder.string_faithful filled given
    have own := nth_concat_self inner (show held.length = 3 from length)
    constructor <;> simp [nth_concat_of_ne, *]
  · obtain rfl := Option.some.inj here
    obtain ⟨result, inner, rfl⟩ := Field.of_faithful Decoder.instant_faithful.optional filled given
    have own := nth_concat_self inner (show held.length = 4 from length)
    constructor <;> simp [nth_concat_of_ne, *]
  · obtain rfl := Option.some.inj here
    obtain ⟨result, inner, rfl⟩ := Field.of_faithful Decoder.string_faithful filled given
    have own := nth_concat_self inner (show held.length = 5 from length)
    constructor <;> simp [nth_concat_of_ne, *]
  · obtain rfl := Option.some.inj here
    obtain ⟨result, inner, rfl⟩ := Field.of_faithful Decoder.string_faithful filled given
    have own := nth_concat_self inner (show held.length = 6 from length)
    constructor <;> simp [nth_concat_of_ne, *]
  · obtain rfl := Option.some.inj here
    obtain ⟨result, inner, rfl⟩ := Field.of_faithful Workload.faithful filled given
    have own := nth_concat_self inner (show held.length = 7 from length)
    constructor <;> simp [nth_concat_of_ne, *]
  · contradiction

/-- Details are read from the value of their tree. -/
theorem faithful : decoder.Faithful := by
  intro room tree value result read given
  cases Tree.reads_of_read given with
  | @array _ items values fits givenValues =>
    obtain ⟨inner, entered, readItems⟩ := bind_eq_ok_iff.1 read
    obtain ⟨-, rfl⟩ := Json.enter_eq_ok_iff.1 (mapError_eq_ok_iff.1 entered)
    obtain ⟨⟨draft, rest⟩, readDraft, readRest⟩ := bind_eq_ok_iff.1 readItems
    obtain ⟨_, closed, same⟩ := bind_eq_ok_iff.1 readRest
    obtain rfl := Except.ok.inj same
    have start : Draft.ReadsItems [] {} := ⟨rfl, rfl, rfl, rfl, rfl, rfl, rfl, rfl⟩
    obtain ⟨reads, length⟩ := Shape.readItems_follows
      (fun _ _ here _ _ _ _ _ => step here) rfl (Nat.zero_le _) start readDraft
      (mapError_eq_ok_iff.1 closed) givenValues
    rw [List.nil_append] at length
    exact ofItems_eq_ok_iff.2 ⟨length, draft, reads, rfl⟩
  | @object start entries _ _ _ =>
    have inner : shape.ofTree title {} (fun draft => .ok draft.finish) room
        (.object start entries) = .ok result := read
    exact faithful_of_object inner given
  | null | bool | number | string => contradiction

end Details

/-- A specification is read from the value of its tree. -/
theorem Kind.specDecoder_faithful (kind : Kind) : kind.specDecoder.Faithful := by
  cases kind with
  | checkState => exact Details.faithful
  | checkJob => exact JobSpec.faithful

namespace Resource

variable {kind : Kind}

/-- The draft is what is read from the members so far. -/
structure Draft.Reads (held : Members) (draft : Draft kind) : Prop where
  /-- The metadata are read. -/
  metadata : Metadata.decoder.member "metadata" held = .ok draft.metadata
  /-- The specification is read. -/
  spec : kind.specDecoder.member "spec" held = .ok draft.spec
  /-- The other members are kept. -/
  extra : Retains keys held draft.extra

/-- Every member of a document leads from the draft of the members so far to the next one. -/
theorem follower (room : Nat) : (shape kind).Follower room Draft.Reads := by
  constructor
  · intro field inside held draft tree value next reads filled given
    obtain ⟨metadata, spec, extra⟩ := reads
    simp only [shape, List.mem_cons, List.not_mem_nil, or_false] at inside
    rcases inside with rfl | rfl
    · obtain ⟨result, inner, rfl⟩ := Field.of_faithful Metadata.faithful filled given
      have kept := extra.field (show "metadata" ∈ keys by decide) value
      constructor <;> simp [Decoder.member_insertMember_self inner,
        Decoder.member_insertMember_of_ne, Field.of, *]
    · obtain ⟨result, inner, rfl⟩ := Field.of_faithful kind.specDecoder_faithful filled given
      have kept := extra.field (show "spec" ∈ keys by decide) value
      constructor <;> simp [Decoder.member_insertMember_self inner,
        Decoder.member_insertMember_of_ne, Field.of, *]
  · intro keep kept held draft name value reads other
    obtain rfl := Option.some.inj kept
    simp only [shape, Field.of, List.forall_mem_cons, List.not_mem_nil, false_implies,
      implies_true, and_true] at other
    obtain ⟨notMetadata, notSpec⟩ := other
    constructor
    · rw [Decoder.member_insertMember_of_ne _ notMetadata.symm, reads.metadata]
    · rw [Decoder.member_insertMember_of_ne _ notSpec.symm, reads.spec]
    · exact reads.extra.other (by simp [keys, notMetadata.symm, notSpec.symm]) value
  · intro none
    contradiction

/-- A document is read from the value of its tree. -/
theorem faithful (kind : Kind) : (decoder kind).Faithful := by
  intro room tree value result read given
  obtain ⟨members, draft, rfl, increasing, reads, finished⟩ :=
    Shape.ofTree_follows (follower (room - 1)) ⟨rfl, rfl, .nil⟩ read given
  change ofMembers kind members = _
  rw [ofMembers, reads.metadata, reads.spec]
  unfold Draft.finish at finished
  split at finished
  · contradiction
  · contradiction
  · next metadata spec givenMetadata givenSpec =>
    rw [← reads.extra.ofMembers_eq increasing, givenMetadata, givenSpec]
    exact finished

end Resource

/-- What a faithful decoder reads from a text is what it reads from the value of the text, if there
is one. -/
theorem Decoder.Faithful.ofValue_of_decodeText {α : Type} {decoder : Decoder α}
    (faithful : decoder.Faithful) {bytes : List UInt8} {result : α} {value : Value}
    (read : decoder.decodeText bytes = .ok result) (parsed : Json.parse bytes = .ok value) :
    decoder.ofValue value = .ok result := by
  obtain ⟨decoded, readTree, rest⟩ := bind_eq_ok_iff.1 (mapError_eq_ok_iff.1 read)
  obtain ⟨_, -, same⟩ := bind_eq_ok_iff.1 rest
  obtain rfl := Except.ok.inj same
  obtain ⟨again, readValue, restAgain⟩ := bind_eq_ok_iff.1 parsed
  obtain ⟨_, -, same⟩ := bind_eq_ok_iff.1 restAgain
  obtain rfl := Except.ok.inj same
  exact faithful readTree readValue

/-- What is decoded from a text is what is decoded from the value of the text, if it has one. -/
theorem Resource.ofValue_of_decodeText {kind : Kind} {bytes : List UInt8}
    {document : Resource kind} {value : Value}
    (read : (decoder kind).decodeText bytes = .ok document)
    (parsed : Json.parse bytes = .ok value) : (decoder kind).ofValue value = .ok document :=
  Decoder.Faithful.ofValue_of_decodeText (faithful kind) read parsed

end HealthLedger.Document
