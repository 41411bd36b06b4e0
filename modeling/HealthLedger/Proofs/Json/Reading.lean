import HealthLedger.Json.Tree
import HealthLedger.Proofs.Results

/-!
# What is read of a tree

A tree that can be read has the shape of its value. `Tree.Reads`, `Items.Reads` and
`Entries.Reads` list the shapes, each with what is read inside, so that a proof about what was
read goes through the kinds of values and not through the flaws of a text.
-/

namespace HealthLedger.Json

/-- An array or an object is entered if there is room, and then there is less room inside. -/
theorem enter_eq_ok_iff {room start inner : Nat} :
    enter room start = .ok inner ↔ 1 < room ∧ inner = room - 1 := by
  unfold enter
  split
  · simp
    omega
  · simp only [Except.ok.injEq]
    omega

/-- There is room in an array or an object that can be sent. -/
theorem enter_of_room {room : Nat} (fits : 1 < room) (start : Nat) :
    enter room start = .ok (room - 1) :=
  enter_eq_ok_iff.2 ⟨fits, rfl⟩

/-- A tree and its value, with the values or members inside. -/
inductive Tree.Reads (room : Nat) : Tree → Value → Prop where
  /-- The null literal. -/
  | null {start stop : Nat} : Reads room (.null start stop) .null
  /-- A truth literal. -/
  | bool {start stop : Nat} {value : Bool} : Reads room (.bool start stop value) (.bool value)
  /-- A number. -/
  | number {start stop : Nat} {skipping : Option Fault} {value : Number} :
      Reads room (.number start stop (.ok value) skipping) (.number value)
  /-- A string. -/
  | string {start stop : Nat} {skipping : Option Fault} {text : String} :
      Reads room (.string start stop (.ok text) skipping) (.string text)
  /-- An array. -/
  | array {start : Nat} {items : Items} {values : List Value} (fits : 1 < room)
      (given : items.read (room - 1) = .ok values) : Reads room (.array start items) (.array values)
  /-- An object. -/
  | object {start : Nat} {entries : Entries} {members : Members} (fits : 1 < room)
      (given : entries.read (room - 1) = .ok members) :
      Reads room (.object start entries) (.object (sortMembers members))

/-- A tree that is read has its value. -/
theorem Tree.reads_of_read {tree : Tree} {room : Nat} {value : Value}
    (given : tree.read room = .ok value) : tree.Reads room value := by
  cases tree with
  | missing | broken => contradiction
  | null =>
    obtain rfl := Except.ok.inj given
    exact .null
  | bool =>
    obtain rfl := Except.ok.inj given
    exact .bool
  | number =>
    obtain ⟨_, rfl, rfl⟩ := map_eq_ok_iff.1 given
    exact .number
  | string =>
    obtain ⟨_, rfl, rfl⟩ := map_eq_ok_iff.1 given
    exact .string
  | array =>
    obtain ⟨_, entered, given⟩ := bind_eq_ok_iff.1 given
    obtain ⟨fits, rfl⟩ := enter_eq_ok_iff.1 entered
    obtain ⟨_, givenItems, same⟩ := bind_eq_ok_iff.1 given
    obtain rfl := Except.ok.inj same
    exact .array fits givenItems
  | object =>
    obtain ⟨_, entered, given⟩ := bind_eq_ok_iff.1 given
    obtain ⟨fits, rfl⟩ := enter_eq_ok_iff.1 entered
    obtain ⟨_, givenMembers, same⟩ := bind_eq_ok_iff.1 given
    obtain rfl := Except.ok.inj same
    exact .object fits givenMembers

/-- The rest of an array and its values, one after the other. -/
inductive Items.Reads (room : Nat) : Items → List Value → Prop where
  /-- The end. -/
  | done {stop : Nat} : Reads room (.done stop) []
  /-- An item and the rest. -/
  | item {tree : Tree} {rest : Items} {value : Value} {values : List Value}
      (first : tree.read room = .ok value) (others : rest.read room = .ok values) :
      Reads room (.item tree rest) (value :: values)

/-- The rest of an array that is read has its values. -/
theorem Items.reads_of_read {items : Items} {room : Nat} {values : List Value}
    (given : items.read room = .ok values) : items.Reads room values := by
  cases items with
  | done =>
    obtain rfl := Except.ok.inj given
    exact .done
  | broken => contradiction
  | item =>
    obtain ⟨_, first, given⟩ := bind_eq_ok_iff.1 given
    obtain ⟨_, others, same⟩ := bind_eq_ok_iff.1 given
    obtain rfl := Except.ok.inj same
    exact .item first others

/-- The rest of an object and its members, one after the other. -/
inductive Entries.Reads (room : Nat) : Entries → Members → Prop where
  /-- The end. -/
  | done {start stop : Nat} : Reads room (.done start stop) []
  /-- A member and the rest. -/
  | member {start : Nat} {key : Key} {tree : Tree} {rest : Entries} {name : String}
      {value : Value} {members : Members} (named : key.reading = .ok name)
      (first : tree.read room = .ok value) (others : rest.read room = .ok members) :
      Reads room (.member start key tree rest) ((name, value) :: members)

/-- The rest of an object that is read has its members. -/
theorem Entries.reads_of_read {entries : Entries} {room : Nat} {members : Members}
    (given : entries.read room = .ok members) : entries.Reads room members := by
  cases entries with
  | done =>
    obtain rfl := Except.ok.inj given
    exact .done
  | broken | misplaced => contradiction
  | unpaired =>
    obtain ⟨_, -, failed⟩ := bind_eq_ok_iff.1 given
    contradiction
  | member =>
    obtain ⟨_, named, given⟩ := bind_eq_ok_iff.1 given
    obtain ⟨_, first, given⟩ := bind_eq_ok_iff.1 given
    obtain ⟨_, others, same⟩ := bind_eq_ok_iff.1 given
    obtain rfl := Except.ok.inj same
    exact .member named first others

end HealthLedger.Json
