import HealthLedger.Json.Printer
import HealthLedger.Json.Tree.Scan
import HealthLedger.Proofs.Json.Members
import HealthLedger.Proofs.Json.Reading

/-!
# Trees that say a value

A tree without a flaw says a value: the members of its objects stand in the order of the text.
A value can be sent if a reader has room for its nesting, its numbers are read as they are
printed and the keys of its objects increase. A tree that says such a value is read as the value
(`Tree.Says.read`). A value that was read from a tree can be sent again if its numbers can
(`Tree.sendable_of_read`).
-/

namespace HealthLedger.Json

mutual

/-- The tree has no flaw and holds the value. -/
inductive Tree.Says : Tree → Value → Prop where
  /-- The null literal. -/
  | null {start stop : Nat} : Tree.Says (.null start stop) .null
  /-- A truth literal. -/
  | bool {start stop : Nat} {value : Bool} : Tree.Says (.bool start stop value) (.bool value)
  /-- A number. -/
  | number {start stop : Nat} {value : Number} :
      Tree.Says (.number start stop (.ok value) none) (.number value)
  /-- A string. -/
  | string {start stop : Nat} {text : String} :
      Tree.Says (.string start stop (.ok text) none) (.string text)
  /-- An array. -/
  | array {start : Nat} {items : Items} {values : List Value} (said : Items.Says items values) :
      Tree.Says (.array start items) (.array values)
  /-- An object. -/
  | object {start : Nat} {entries : Entries} {members : Members}
      (said : Entries.Says entries members) : Tree.Says (.object start entries) (.object members)

/-- The rest of an array has no flaw and holds the values. -/
inductive Items.Says : Items → List Value → Prop where
  /-- The end. -/
  | done {stop : Nat} : Items.Says (.done stop) []
  /-- An item and the rest. -/
  | item {tree : Tree} {rest : Items} {value : Value} {values : List Value}
      (first : Tree.Says tree value) (others : Items.Says rest values) :
      Items.Says (.item tree rest) (value :: values)

/-- The rest of an object has no flaw and holds the members. -/
inductive Entries.Says : Entries → Members → Prop where
  /-- The end. -/
  | done {start stop : Nat} : Entries.Says (.done start stop) []
  /-- A member and the rest. -/
  | member {start stop resume : Nat} {name : String} {tree : Tree} {rest : Entries}
      {value : Value} {members : Members} (first : Tree.Says tree value)
      (others : Entries.Says rest members) :
      Entries.Says (.member start ⟨.ok name, none, stop, resume⟩ tree rest)
        ((name, value) :: members)

end

/-- The reader makes of the text of the number what was printed. -/
structure Number.Readable (number : Number) : Prop where
  /-- The number is read. -/
  reading : (scanNumber ⟨0, Text.Utf8.encode number.text⟩).reading = .ok number
  /-- Nobody finds anything wrong. -/
  skipping : (scanNumber ⟨0, Text.Utf8.encode number.text⟩).skipping = none
  /-- Nothing is left of the text. -/
  whole : (scanNumber ⟨0, Text.Utf8.encode number.text⟩).after.rest = []

mutual

/-- The value can be sent to a reader with some room for nesting. -/
def Value.Sendable (room : Nat) : Value → Prop
  | .number number => number.Readable
  | .array items => 1 < room ∧ SendableItems (room - 1) items
  | .object members => 1 < room ∧ Increasing members ∧ SendableMembers (room - 1) members
  | _ => True

/-- Every item can be sent. -/
def SendableItems (room : Nat) : List Value → Prop
  | [] => True
  | item :: rest => item.Sendable room ∧ SendableItems room rest

/-- The value of every member can be sent. -/
def SendableMembers (room : Nat) : Members → Prop
  | [] => True
  | (_, value) :: rest => value.Sendable room ∧ SendableMembers room rest

end

/-- The members can be sent if the value of each of them can. -/
theorem sendableMembers_iff {room : Nat} {members : Members} :
    SendableMembers room members ↔ ∀ member ∈ members, member.2.Sendable room := by
  induction members with
  | nil => simp [SendableMembers]
  | cons first rest ih =>
    rw [SendableMembers, ih, List.forall_mem_cons]

/-- An object of members that can be sent can be sent where there is room for it. -/
theorem sendable_ofMembers {room : Nat} (fits : 1 < room) {members : Members}
    (sendable : ∀ member ∈ members, member.2.Sendable (room - 1)) :
    (Value.ofMembers members).Sendable room := by
  rw [Value.ofMembers, Value.Sendable, sendableMembers_iff]
  exact ⟨fits, increasing_sortMembers members,
    fun member found => sendable member (mem_of_mem_sortMembers found)⟩

mutual

/-- A tree that says a value is read as the value if it can be sent. -/
theorem Tree.Says.read {tree : Tree} {value : Value} (said : tree.Says value) {room : Nat}
    (sendable : value.Sendable room) : tree.read room = .ok value := by
  cases said with
  | null => rfl
  | bool => rfl
  | number => rfl
  | string => rfl
  | array said =>
    obtain ⟨fits, items⟩ := sendable
    rw [Tree.read, enter_of_room fits]
    exact bind_eq_ok_iff.2 ⟨_, rfl, bind_eq_ok_iff.2 ⟨_, said.read items, rfl⟩⟩
  | object said =>
    obtain ⟨fits, increasing, members⟩ := sendable
    rw [Tree.read, enter_of_room fits]
    refine bind_eq_ok_iff.2 ⟨_, rfl, bind_eq_ok_iff.2 ⟨_, said.read members, ?_⟩⟩
    rw [Value.ofMembers, sortMembers_of_increasing increasing]

/-- The rest of an array that says some values is read as the values. -/
theorem Items.Says.read {items : Items} {values : List Value} (said : items.Says values)
    {room : Nat} (sendable : SendableItems room values) : items.read room = .ok values := by
  cases said with
  | done => rfl
  | item first others =>
    rw [Items.read]
    refine bind_eq_ok_iff.2 ⟨_, first.read sendable.1, bind_eq_ok_iff.2 ⟨_, ?_, rfl⟩⟩
    exact others.read sendable.2

/-- The rest of an object that says some members is read as the members. -/
theorem Entries.Says.read {entries : Entries} {members : Members} (said : entries.Says members)
    {room : Nat} (sendable : SendableMembers room members) :
    entries.read room = .ok members := by
  cases said with
  | done => rfl
  | member first others =>
    rw [Entries.read]
    refine bind_eq_ok_iff.2 ⟨_, rfl, bind_eq_ok_iff.2 ⟨_, first.read sendable.1, ?_⟩⟩
    exact bind_eq_ok_iff.2 ⟨_, others.read sendable.2, rfl⟩

end

mutual

/-- Every number in the value is read as it is printed. -/
def Value.Readable : Value → Prop
  | .number number => number.Readable
  | .array items => ReadableItems items
  | .object members => ReadableMembers members
  | _ => True

/-- Every number in the items is read as it is printed. -/
def ReadableItems : List Value → Prop
  | [] => True
  | item :: rest => item.Readable ∧ ReadableItems rest

/-- Every number in the members is read as it is printed. -/
def ReadableMembers : Members → Prop
  | [] => True
  | (_, value) :: rest => value.Readable ∧ ReadableMembers rest

end

/-- The numbers in members are read as they are printed if those of the value of each of them
are. -/
theorem readableMembers_iff {members : Members} :
    ReadableMembers members ↔ ∀ member ∈ members, member.2.Readable := by
  induction members with
  | nil => simp [ReadableMembers]
  | cons first rest ih =>
    rw [ReadableMembers, ih, List.forall_mem_cons]

mutual

/-- A value that was read can be sent if its numbers can. -/
theorem Tree.sendable_of_read (tree : Tree) {room : Nat} {value : Value}
    (read : tree.read room = .ok value) (readable : value.Readable) : value.Sendable room := by
  cases Tree.reads_of_read read with
  | null => trivial
  | bool => trivial
  | number => exact readable
  | string => trivial
  | @array start items values fits given => exact ⟨fits, items.sendable_of_read given readable⟩
  | @object start entries members fits given =>
    have numbers := readableMembers_iff.1 readable
    refine ⟨fits, increasing_sortMembers members, sendableMembers_iff.2 fun member found => ?_⟩
    exact entries.sendable_of_read given member (mem_of_mem_sortMembers found)
      (numbers member found)

/-- Items that were read can be sent if their numbers can. -/
theorem Items.sendable_of_read (items : Items) {room : Nat} {values : List Value}
    (read : items.read room = .ok values) (readable : ReadableItems values) :
    SendableItems room values := by
  cases Items.reads_of_read read with
  | done => trivial
  | @item tree rest value values first others =>
    exact ⟨tree.sendable_of_read first readable.1, rest.sendable_of_read others readable.2⟩

/-- A member that was read can be sent if its numbers can. -/
theorem Entries.sendable_of_read (entries : Entries) {room : Nat} {members : Members}
    (read : entries.read room = .ok members) :
    ∀ member ∈ members, member.2.Readable → member.2.Sendable room := by
  cases Entries.reads_of_read read with
  | done => exact fun member found => nomatch found
  | @member start key tree rest name value members named first others =>
    exact List.forall_mem_cons.2
      ⟨fun readable => tree.sendable_of_read first readable, rest.sendable_of_read others⟩

end

end HealthLedger.Json
