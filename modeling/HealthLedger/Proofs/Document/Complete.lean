import HealthLedger.Proofs.Document.Faithful
import HealthLedger.Proofs.Json.Scanned

/-!
# Reading a text whose value can be read

A decoder is complete if it reads something from every tree whose value it can read. What it reads
is then what it reads from the value, because decoders are faithful, so that only the success is
left to be shown. It depends on two properties of the tree: a member that is no field can be passed
over, and no field is given twice. While an object is read member by member, a field that has no
member so far is still missing in the draft (`Shape.Vacant`), and whether a field can be read from a
tree does not depend on the draft (`Field.Accepts`).
-/

namespace HealthLedger.Document

open Json (Value Members Object Tree Items Entries insertMember findMember)

/-- What can be read from the value of a tree can be read from the tree. -/
def Decoder.Complete {α : Type} (decoder : Decoder α) : Prop :=
  ∀ {room : Nat} {tree : Tree} {value : Value} {result : α},
    tree.read room = .ok value → tree.Passable → tree.Distinct →
      decoder.ofValue value = .ok result → ∃ again, decoder.ofTree room tree = .ok again

/-- An array or an object is entered where there is room. -/
theorem enter_of_room {room start : Nat} (fits : 1 < room) :
    liftFault (Json.enter room start) = .ok (room - 1) :=
  mapError_eq_ok_iff.2 (Json.enter_eq_ok_iff.2 ⟨fits, rfl⟩)

namespace Decoder

/-- A truth value that can be read from a value can be read from its tree. -/
theorem bool_complete : bool.Complete := by
  intro room tree value result given _ _ read
  cases Tree.reads_of_read given with
  | bool => exact ⟨_, rfl⟩
  | null | number | string | array | object => contradiction

/-- A string with a meaning that can be read from a value can be read from its tree. -/
theorem stringWith_complete {α : Type} (expected : String)
    (meaning : String → Except Mismatch α) : (stringWith expected meaning).Complete := by
  intro room tree value result given _ _ read
  cases Tree.reads_of_read given with
  | @string _ _ _ text =>
    have meant : meaning text = .ok result := read
    exact ⟨result, bind_eq_ok_iff.2 ⟨text, rfl, mapError_eq_ok_iff.2 meant⟩⟩
  | null | bool | number | array | object => contradiction

/-- A string that can be read from a value can be read from its tree. -/
theorem string_complete : string.Complete := stringWith_complete _ _

/-- An instant that can be read from a value can be read from its tree. -/
theorem instant_complete : instant.Complete := stringWith_complete _ _

/-- What may be null can be read from a tree if it can when it is there. -/
theorem Complete.optional {α : Type} {decoder : Decoder α} (complete : decoder.Complete) :
    decoder.optional.Complete := by
  intro room tree value result given passable distinct read
  cases Tree.reads_of_read given with
  | null => exact ⟨none, rfl⟩
  | bool | number | string | array | object =>
    obtain ⟨inner, readInner, -⟩ := map_eq_ok_iff.1 read
    obtain ⟨again, readAgain⟩ := complete given passable distinct readInner
    exact ⟨some again, map_eq_ok_iff.2 ⟨again, readAgain, rfl⟩⟩

/-- What stands for something else can be read from a tree if that can. -/
theorem Complete.map {α β : Type} {decoder : Decoder α} (complete : decoder.Complete)
    (f : α → β) : (decoder.map f).Complete := by
  intro room tree value result given passable distinct read
  obtain ⟨inner, readInner, -⟩ := map_eq_ok_iff.1 read
  obtain ⟨again, readAgain⟩ := complete given passable distinct readInner
  exact ⟨f again, map_eq_ok_iff.2 ⟨again, readAgain, rfl⟩⟩

/-- Items that can be read from their values can be read from their trees. -/
theorem Complete.readItems {α : Type} {decoder : Decoder α} (complete : decoder.Complete)
    {room : Nat} {items : Items} {values : List Value} {results : List α}
    (given : items.read room = .ok values) (passable : items.Passable) (distinct : items.Distinct)
    (read : values.mapM decoder.ofValue = .ok results) :
    ∃ again, decoder.readItems room items = .ok again := by
  induction values generalizing items results with
  | nil =>
    cases Items.reads_of_read given
    exact ⟨[], rfl⟩
  | cons value others ih =>
    cases Items.reads_of_read given with
    | item givenFirst givenMore =>
      rw [List.mapM_cons] at read
      obtain ⟨head, readHead, read⟩ := bind_eq_ok_iff.1 read
      obtain ⟨tail, readTail, -⟩ := bind_eq_ok_iff.1 read
      obtain ⟨first, readFirst⟩ := complete givenFirst passable.1 distinct.1 readHead
      obtain ⟨more, readMore⟩ := ih givenMore passable.2 distinct.2 readTail
      exact ⟨first :: more, bind_eq_ok_iff.2 ⟨first, readFirst,
        bind_eq_ok_iff.2 ⟨more, readMore, rfl⟩⟩⟩

/-- A list can be read from its tree if its items can. -/
theorem Complete.list {α : Type} {decoder : Decoder α} (complete : decoder.Complete) :
    decoder.list.Complete := by
  intro room tree value result given passable distinct read
  cases Tree.reads_of_read given with
  | @array start items values fits givenItems =>
    have readItems : values.mapM decoder.ofValue = .ok result := read
    obtain ⟨again, readAgain⟩ := complete.readItems givenItems passable distinct readItems
    exact ⟨again, bind_eq_ok_iff.2 ⟨room - 1, enter_of_room fits, readAgain⟩⟩
  | null | bool | number | string | object => contradiction

/-- A choice that is the only key of its object can be read from the tree of the object. -/
theorem readChoiceEntries_complete {α : Type} {meaning : String → Except Mismatch α} {room : Nat}
    {entries : Entries} {name : String} {value : Value} {chosen : α}
    (given : entries.read room = .ok [(name, value)]) (meant : meaning name = .ok chosen)
    (null : unit.ofValue value = .ok ()) :
    readChoiceEntries meaning room entries = .ok chosen := by
  cases Entries.reads_of_read given with
  | @member start key tree rest _ _ _ named first others =>
    cases Entries.reads_of_read others
    have tree : unit.ofTree room tree = .ok () := by
      cases Tree.reads_of_read first with
      | null => rfl
      | bool | number | string | array | object => contradiction
    rw [readChoiceEntries]
    exact bind_eq_ok_iff.2 ⟨name, mapError_eq_ok_iff.2 named, bind_eq_ok_iff.2 ⟨chosen,
      mapError_eq_ok_iff.2 meant, bind_eq_ok_iff.2 ⟨(), tree, rfl⟩⟩⟩

/-- A choice that can be read from a value can be read from its tree. -/
theorem choice_complete {α : Type} (choices : List (String × α)) (known : List String) :
    (choice choices known).Complete := by
  intro room tree value result given passable distinct read
  cases Tree.reads_of_read given with
  | @string _ _ _ text =>
    have meant : choose choices known text = .ok result := read
    exact ⟨result, bind_eq_ok_iff.2 ⟨text, rfl, mapError_eq_ok_iff.2 meant⟩⟩
  | @object start entries members fits givenMembers =>
    have nodup : (members.map (·.1)).Nodup := Json.Entries.names_of_read givenMembers ▸ distinct.1
    cases sorted : Json.sortMembers members with
    | nil =>
      rw [sorted] at read
      contradiction
    | cons member more =>
      cases more with
      | cons second further =>
        rw [sorted] at read
        contradiction
      | nil =>
        obtain ⟨name, held⟩ := member
        rw [sorted] at read
        obtain ⟨chosen, meant, read⟩ := bind_eq_ok_iff.1 read
        obtain ⟨_, null, -⟩ := bind_eq_ok_iff.1 read
        obtain rfl := Json.eq_singleton_of_sortMembers nodup sorted
        exact ⟨chosen, bind_eq_ok_iff.2 ⟨room - 1, enter_of_room fits,
          readChoiceEntries_complete givenMembers meant null⟩⟩
  | null | bool | number | array => contradiction

end Decoder

/-- The field can be read from every tree of the value, whatever was read before. -/
def Field.Accepts {δ : Type} (field : Field δ) (room : Nat) (value : Value) : Prop :=
  ∀ (draft : δ) {tree : Tree}, tree.read room = .ok value → tree.Passable → tree.Distinct →
    ∃ next, field.read room draft tree = .ok next

/-- A field that is a part of the draft accepts the value of its member if its decoder can read
it. -/
theorem Field.of_accepts {δ α : Type} {name : String} {decoder : Decoder α} {get : δ → Option α}
    {set : δ → α → δ} {members : Members} {result : Option α} (complete : decoder.Complete)
    (read : decoder.member name members = .ok result) {value : Value}
    (found : findMember name members = some value) (room : Nat) :
    (Field.of name decoder get set).Accepts room value := by
  intro draft tree given passable distinct
  rw [Decoder.member, found] at read
  obtain ⟨inner, readInner, -⟩ := map_eq_ok_iff.1 read
  obtain ⟨again, readAgain⟩ := complete given passable distinct readInner
  exact ⟨set draft again, map_eq_ok_iff.2 ⟨again, readAgain, rfl⟩⟩

/-- A part of the draft is missing while there is no member for it. -/
theorem Field.of_given_eq_false {δ α : Type} {name : String} {decoder : Decoder α}
    {get : δ → Option α} {set : δ → α → δ} {held : Members} {draft : δ}
    (read : decoder.member name held = .ok (get draft)) (absent : findMember name held = none) :
    (Field.of name decoder get set).given draft = false := by
  rw [Decoder.member, absent] at read
  have missing : none = get draft := Except.ok.inj read
  change (get draft).isSome = false
  rw [← missing]
  rfl

namespace Shape

variable {δ : Type} {shape : Shape δ} {room : Nat} {motive : Members → δ → Prop}

/-- A field that has no member so far is missing in the draft. -/
def Vacant (shape : Shape δ) (motive : Members → δ → Prop) : Prop :=
  ∀ field ∈ shape.fields, ∀ {held draft}, motive held draft →
    findMember field.name held = none → field.given draft = false

/-- A member that is no field can be read from a tree that can be read. -/
theorem readOther_complete (shape : Shape δ) (draft : δ) (name : String) {tree : Tree}
    {value : Value} (given : tree.read room = .ok value) (passable : tree.Passable) :
    ∃ next, shape.readOther room draft name tree = .ok next := by
  unfold readOther
  split
  · next keep _ =>
    exact ⟨keep draft name value, bind_eq_ok_iff.2 ⟨value, mapError_eq_ok_iff.2 given, rfl⟩⟩
  · exact ⟨draft, bind_eq_ok_iff.2 ⟨(), mapError_eq_ok_iff.2 (passable.skip given), rfl⟩⟩

/-- A member that is new to a draft can be read, whatever follows it, if the field of its name
accepts it or there is no such field. -/
theorem Follower.member_complete (follower : shape.Follower room motive)
    (vacant : shape.Vacant motive) {held : Members} {draft : δ} (start : motive held draft)
    {key : Json.Key} {name : String} (named : key.reading = .ok name)
    (absent : findMember name held = none) {tree : Tree} {value : Value}
    (given : tree.read room = .ok value) (passable : tree.Passable) (distinct : tree.Distinct)
    (accepts : ∀ field ∈ shape.fields, field.name = name → field.Accepts room value) :
    ∃ next, motive (insertMember name value held) next ∧ ∀ (offset : Nat) (rest : Entries)
      (result : δ × Nat), shape.readEntries room next rest = .ok result →
        shape.readEntries room draft (.member offset key tree rest) = .ok result := by
  cases found : shape.fields.find? (·.name == name) with
  | some field =>
    have same : field.name = name := by simpa using List.find?_some found
    have inside := List.mem_of_find?_eq_some found
    have missing := vacant field inside start (same ▸ absent)
    have chosen : shape.fieldFor draft name key = .ok (some field) := by
      simp only [fieldFor, found, missing, Bool.false_eq_true, if_false]
    obtain ⟨next, filled⟩ := accepts field inside same draft given passable distinct
    refine ⟨next, same ▸ follower.fields field inside held draft tree value next start filled given,
      fun offset rest result whole => ?_⟩
    exact bind_eq_ok_iff.2 ⟨_, mapError_eq_ok_iff.2 named,
      bind_eq_ok_iff.2 ⟨_, chosen, bind_eq_ok_iff.2 ⟨next, filled, whole⟩⟩⟩
  | none =>
    have other : ∀ field ∈ shape.fields, field.name ≠ name := by
      intro field inside
      simpa using List.find?_eq_none.1 found field inside
    have chosen : shape.fieldFor draft name key = .ok none := by
      simp only [fieldFor, found]
    obtain ⟨next, kept⟩ := shape.readOther_complete draft name given passable
    refine ⟨next, follower.readOther start other kept given, fun offset rest result whole => ?_⟩
    exact bind_eq_ok_iff.2 ⟨_, mapError_eq_ok_iff.2 named,
      bind_eq_ok_iff.2 ⟨_, chosen, bind_eq_ok_iff.2 ⟨next, kept, whole⟩⟩⟩

/-- Members that are new to a draft can be read if every field accepts its member. -/
theorem Follower.readEntries_complete (follower : shape.Follower room motive)
    (vacant : shape.Vacant motive) {held members : Members} {draft : δ} {entries : Entries}
    (start : motive held draft) (given : entries.read room = .ok members)
    (passable : entries.Passable) (distinct : entries.Distinct)
    (nodup : (members.map (·.1)).Nodup)
    (new : ∀ member ∈ members, findMember member.1 held = none)
    (accepts : ∀ field ∈ shape.fields, ∀ value, (field.name, value) ∈ members →
      field.Accepts room value) :
    ∃ result, shape.readEntries room draft entries = .ok result := by
  induction members generalizing held draft entries with
  | nil =>
    cases Entries.reads_of_read given
    exact ⟨_, rfl⟩
  | cons member others ih =>
    cases Entries.reads_of_read given with
    | @member _ key tree rest name value _ named givenFirst givenOthers =>
      obtain ⟨-, passableFirst, passableOthers⟩ := passable
      obtain ⟨apart, nodupOthers⟩ := List.nodup_cons.1 nodup
      obtain ⟨next, moved, first⟩ := follower.member_complete vacant start named
        (new _ List.mem_cons_self) givenFirst passableFirst distinct.1
        fun field inside same => accepts field inside value (same ▸ List.mem_cons_self)
      have newer : ∀ member ∈ others,
          findMember member.1 (insertMember name value held) = none := by
        intro member inside
        have different : name ≠ member.1 :=
          fun same => apart (List.mem_map.2 ⟨member, inside, same.symm⟩)
        rw [Json.findMember_insertMember, if_neg different]
        exact new member (List.mem_cons_of_mem _ inside)
      obtain ⟨result, whole⟩ := ih moved givenOthers passableOthers distinct.2 nodupOthers newer
        fun field inside value there => accepts field inside value (List.mem_cons_of_mem _ there)
      exact ⟨result, first _ _ result whole⟩

/-- An object can be read from its tree if every field accepts its member and the draft of the
members can be finished. -/
theorem Follower.ofTree_complete {α : Type} {title : String} {empty : δ}
    {finish : δ → Except Mismatch α} {tree : Tree} {members : Members}
    (follower : shape.Follower (room - 1) motive) (vacant : shape.Vacant motive)
    (start : motive [] empty) (given : tree.read room = .ok (.object members))
    (passable : tree.Passable) (distinct : tree.Distinct)
    (accepts : ∀ field ∈ shape.fields, ∀ value, findMember field.name members = some value →
      field.Accepts (room - 1) value)
    (finishes : ∀ draft, motive members draft → ∃ result, finish draft = .ok result) :
    ∃ result, shape.ofTree title empty finish room tree = .ok result := by
  cases Tree.reads_of_read given with
  | @object offset entries members fits givenMembers =>
    have nodup : (members.map (·.1)).Nodup := Json.Entries.names_of_read givenMembers ▸ distinct.1
    obtain ⟨⟨draft, stop⟩, read⟩ := follower.readEntries_complete vacant start givenMembers passable
      distinct.2 nodup (fun _ _ => rfl) fun field inside value there => by
        refine accepts field inside value ?_
        rw [Json.findMember_sortMembers_of_nodup nodup]
        exact Json.findMember_of_mem nodup there
    have moved := follower.readEntries start read givenMembers
    obtain ⟨result, finished⟩ := finishes draft moved
    exact ⟨result, bind_eq_ok_iff.2 ⟨room - 1, enter_of_room fits,
      bind_eq_ok_iff.2 ⟨(draft, stop), read, mapError_eq_ok_iff.2 finished⟩⟩⟩

/-- Items can be read into fields if there are not too many and every field accepts its item. -/
theorem readItems_complete {fields : List (Field δ)} {draft : δ} {items : Items}
    {values : List Value} (given : items.read room = .ok values) (passable : items.Passable)
    (distinct : items.Distinct) (short : values.length ≤ fields.length)
    (accepts : ∀ (number : Nat) (field : Field δ) (value : Value),
      fields[number]? = some field → values[number]? = some value → field.Accepts room value) :
    ∃ result, readItems room draft fields items = .ok result ∧ result.2.close = .ok () := by
  induction fields generalizing draft items values with
  | nil =>
    obtain rfl := List.length_eq_zero_iff.1 (Nat.le_zero.1 short)
    cases Items.reads_of_read given
    exact ⟨_, rfl, rfl⟩
  | cons field fields ih =>
    cases Items.reads_of_read given with
    | done => exact ⟨_, rfl, rfl⟩
    | @item tree rest value others givenFirst givenOthers =>
      obtain ⟨next, filled⟩ := accepts 0 field value rfl rfl draft givenFirst passable.1
        distinct.1
      obtain ⟨result, read, closed⟩ := @ih next _ _ givenOthers passable.2 distinct.2
        (Nat.le_of_succ_le_succ short)
        fun number field value here there => accepts (number + 1) field value here there
      exact ⟨result, bind_eq_ok_iff.2 ⟨next, filled, read⟩, closed⟩

end Shape

namespace Metadata

/-- A part of the draft is missing while there is no member for it. -/
theorem vacant : shape.Vacant Draft.Reads := by
  intro field inside held draft reads absent
  simp only [shape, List.mem_cons, List.not_mem_nil, or_false] at inside
  rcases inside with rfl | rfl | rfl | rfl
  · exact Field.of_given_eq_false reads.name absent
  · exact Field.of_given_eq_false reads.space absent
  · exact Field.of_given_eq_false reads.version absent
  · exact Field.of_given_eq_false reads.uid absent

/-- Metadata that can be read from a value can be read from its tree. -/
theorem complete : decoder.Complete := by
  intro room tree value result given passable distinct read
  obtain ⟨members, rfl, name, space, version, uid, givenName, givenSpace, givenVersion, givenUid,
    -⟩ := ofValue_eq_ok_iff.1 read
  refine (follower (room - 1)).ofTree_complete vacant ⟨rfl, rfl, rfl, rfl, .nil⟩ given passable
    distinct (fun field inside value found => ?_) fun draft reads => ?_
  · simp only [shape, List.mem_cons, List.not_mem_nil, or_false] at inside
    rcases inside with rfl | rfl | rfl | rfl
    · exact Field.of_accepts Decoder.string_complete givenName found _
    · exact Field.of_accepts Decoder.string_complete givenSpace found _
    · exact Field.of_accepts Decoder.string_complete.optional givenVersion found _
    · exact Field.of_accepts Decoder.string_complete.optional givenUid found _
  · have same : some name = draft.name := Except.ok.inj (givenName.symm.trans reads.name)
    unfold Draft.finish
    rw [← same]
    exact ⟨_, rfl⟩

end Metadata

namespace JobSpec

/-- The phase is missing while there is no member for it. -/
theorem vacant : shape.Vacant Draft.Reads := by
  intro field inside held draft reads absent
  obtain rfl := List.mem_singleton.1 inside
  exact Field.of_given_eq_false reads.phase absent

/-- A specification of a job that can be read from a value can be read from its tree. -/
theorem complete : decoder.Complete := by
  intro room tree value result given passable distinct read
  obtain ⟨members, rfl, phase, givenPhase, -⟩ := ofValue_eq_ok_iff.1 read
  refine (follower (room - 1)).ofTree_complete vacant ⟨rfl, .nil⟩ given passable
    distinct (fun field inside value found => ?_) fun draft reads => ⟨_, rfl⟩
  obtain rfl := List.mem_singleton.1 inside
  exact Field.of_accepts (Decoder.string_complete.map _) givenPhase found _

end JobSpec

/-- A workload that can be read from a value can be read from its tree. -/
theorem Workload.complete : decoder.Complete := Decoder.choice_complete _ _

namespace Details

/-- A part of the draft is missing while there is no member for it. -/
theorem vacant : shape.Vacant Draft.Reads := by
  intro field inside held draft reads absent
  simp only [shape, List.mem_cons, List.not_mem_nil, or_false] at inside
  rcases inside with rfl | rfl | rfl | rfl | rfl | rfl | rfl | rfl
  · exact Field.of_given_eq_false reads.ok absent
  · exact Field.of_given_eq_false reads.errors absent
  · exact Field.of_given_eq_false reads.runDuration absent
  · exact Field.of_given_eq_false reads.space absent
  · exact Field.of_given_eq_false reads.lastRun absent
  · exact Field.of_given_eq_false reads.authoritativePod absent
  · exact Field.of_given_eq_false reads.currentUuid absent
  · exact Field.of_given_eq_false reads.workload absent

/-- Details that are an object and can be read from a value can be read from its tree. -/
theorem complete_of_object {room : Nat} {tree : Tree} {members : Members} {result : Details}
    (given : tree.read room = .ok (.object members)) (passable : tree.Passable)
    (distinct : tree.Distinct) (read : ofMembers members = .ok result) :
    ∃ again, shape.ofTree title {} (fun draft => .ok draft.finish) room tree = .ok again := by
  obtain ⟨draft, reads, -⟩ := ofMembers_eq_ok_iff.1 read
  refine (follower (room - 1)).ofTree_complete vacant ⟨rfl, rfl, rfl, rfl, rfl, rfl, rfl, rfl⟩
    given passable distinct (fun field inside value found => ?_) fun draft reads => ⟨_, rfl⟩
  simp only [shape, List.mem_cons, List.not_mem_nil, or_false] at inside
  rcases inside with rfl | rfl | rfl | rfl | rfl | rfl | rfl | rfl
  · exact Field.of_accepts Decoder.bool_complete reads.ok found _
  · exact Field.of_accepts Decoder.string_complete.list reads.errors found _
  · exact Field.of_accepts Decoder.string_complete reads.runDuration found _
  · exact Field.of_accepts Decoder.string_complete reads.space found _
  · exact Field.of_accepts Decoder.instant_complete.optional reads.lastRun found _
  · exact Field.of_accepts Decoder.string_complete reads.authoritativePod found _
  · exact Field.of_accepts Decoder.string_complete reads.currentUuid found _
  · exact Field.of_accepts Workload.complete reads.workload found _

/-- A field that is a part of the draft accepts the item of its number if its decoder can read
it. -/
theorem of_accepts_nth {α : Type} {name : String} {decoder : Decoder α} {get : Draft → Option α}
    {set : Draft → α → Draft} {items : List Value} {number : Nat} {result : Option α}
    (complete : decoder.Complete) (read : nth decoder number items = .ok result) {value : Value}
    (found : items[number]? = some value) (room : Nat) :
    (Field.of name decoder get set).Accepts room value := by
  intro draft tree given passable distinct
  obtain ⟨rest, dropped⟩ : ∃ rest, items.drop number = value :: rest := by
    rw [← List.head?_drop] at found
    exact List.head?_eq_some_iff.1 found
  rw [nth, dropped] at read
  obtain ⟨inner, readInner, -⟩ := map_eq_ok_iff.1 read
  obtain ⟨again, readAgain⟩ := complete given passable distinct readInner
  exact ⟨set draft again, map_eq_ok_iff.2 ⟨again, readAgain, rfl⟩⟩

/-- Details that are an array and can be read from a value can be read from its tree. -/
theorem complete_of_array {room : Nat} {items : Items} {values : List Value} {result : Details}
    (given : items.read room = .ok values) (passable : items.Passable) (distinct : items.Distinct)
    (read : ofItems values = .ok result) :
    ∃ draft, Shape.readItems room {} shape.fields items = .ok draft ∧ draft.2.close = .ok () := by
  obtain ⟨short, draft, reads, -⟩ := ofItems_eq_ok_iff.1 read
  refine Shape.readItems_complete given passable distinct short
    fun number field value here there => ?_
  rcases number with _ | _ | _ | _ | _ | _ | _ | _ | number
  · obtain rfl := Option.some.inj here
    exact of_accepts_nth Decoder.bool_complete reads.ok there room
  · obtain rfl := Option.some.inj here
    exact of_accepts_nth Decoder.string_complete.list reads.errors there room
  · obtain rfl := Option.some.inj here
    exact of_accepts_nth Decoder.string_complete reads.runDuration there room
  · obtain rfl := Option.some.inj here
    exact of_accepts_nth Decoder.string_complete reads.space there room
  · obtain rfl := Option.some.inj here
    exact of_accepts_nth Decoder.instant_complete.optional reads.lastRun there room
  · obtain rfl := Option.some.inj here
    exact of_accepts_nth Decoder.string_complete reads.authoritativePod there room
  · obtain rfl := Option.some.inj here
    exact of_accepts_nth Decoder.string_complete reads.currentUuid there room
  · obtain rfl := Option.some.inj here
    exact of_accepts_nth Workload.complete reads.workload there room
  · contradiction

/-- Details that can be read from a value can be read from its tree. -/
theorem complete : decoder.Complete := by
  intro room tree value result given passable distinct read
  have same := Tree.reads_of_read given
  cases same with
  | @array start items values fits givenItems =>
    obtain ⟨⟨draft, rest⟩, readItems, closed⟩ :=
      complete_of_array givenItems passable distinct read
    exact ⟨draft.finish, bind_eq_ok_iff.2 ⟨room - 1, enter_of_room fits,
      bind_eq_ok_iff.2 ⟨(draft, rest), readItems,
        bind_eq_ok_iff.2 ⟨(), mapError_eq_ok_iff.2 closed, rfl⟩⟩⟩⟩
  | object fits givenMembers => exact complete_of_object given passable distinct read
  | null | bool | number | string => contradiction

end Details

/-- A specification that can be read from a value can be read from its tree. -/
theorem Kind.specDecoder_complete (kind : Kind) : kind.specDecoder.Complete := by
  cases kind with
  | checkState => exact Details.complete
  | checkJob => exact JobSpec.complete

namespace Resource

variable {kind : Kind}

/-- A part of the draft is missing while there is no member for it. -/
theorem vacant : (shape kind).Vacant Draft.Reads := by
  intro field inside held draft reads absent
  simp only [shape, List.mem_cons, List.not_mem_nil, or_false] at inside
  rcases inside with rfl | rfl
  · exact Field.of_given_eq_false reads.metadata absent
  · exact Field.of_given_eq_false reads.spec absent

/-- A document that can be read from a value can be read from its tree. -/
theorem complete (kind : Kind) : (decoder kind).Complete := by
  intro room tree value result given passable distinct read
  obtain ⟨members, rfl, metadata, spec, givenMetadata, givenSpec, -⟩ := ofValue_eq_ok_iff.1 read
  refine (follower (room - 1)).ofTree_complete vacant ⟨rfl, rfl, .nil⟩ given passable
    distinct (fun field inside value found => ?_) fun draft reads => ?_
  · simp only [shape, List.mem_cons, List.not_mem_nil, or_false] at inside
    rcases inside with rfl | rfl
    · exact Field.of_accepts Metadata.complete givenMetadata found _
    · exact Field.of_accepts kind.specDecoder_complete givenSpec found _
  · have sameMetadata : some metadata = draft.metadata :=
      Except.ok.inj (givenMetadata.symm.trans reads.metadata)
    have sameSpec : some spec = draft.spec := Except.ok.inj (givenSpec.symm.trans reads.spec)
    unfold Draft.finish
    rw [← sameMetadata, ← sameSpec]
    exact ⟨_, rfl⟩

end Resource

/-- From a text without repeated keys a decoder reads what it reads from the value of the text, if
it is faithful and complete. -/
theorem Decoder.decodeText_eq_ok_iff_decodeValue {α : Type} {decoder : Decoder α}
    (faithful : decoder.Faithful) (complete : decoder.Complete) {bytes : List UInt8}
    {value : Value} (parsed : Json.parse bytes = .ok value)
    (distinct : (Json.scan bytes).tree.Distinct) {result : α} :
    decoder.decodeText bytes = .ok result ↔ decoder.decodeValue value = .ok result := by
  obtain ⟨again, given, rest⟩ := bind_eq_ok_iff.1 parsed
  obtain ⟨_, nothing, same⟩ := bind_eq_ok_iff.1 rest
  obtain rfl := Except.ok.inj same
  constructor
  · intro read
    exact mapError_eq_ok_iff.2 (faithful.ofValue_of_decodeText read parsed)
  · intro read
    have readValue := mapError_eq_ok_iff.1 read
    obtain ⟨again, readTree⟩ := complete given (Json.scan_passable bytes) distinct readValue
    obtain rfl := Except.ok.inj ((faithful readTree given).symm.trans readValue)
    exact mapError_eq_ok_iff.2 (bind_eq_ok_iff.2 ⟨again, readTree, bind_eq_ok_iff.2 ⟨(),
      mapError_eq_ok_iff.2 nothing, rfl⟩⟩)

end HealthLedger.Document
