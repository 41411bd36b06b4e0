import HealthLedger.Number.Double

/-!
# JSON values

A number is an integer of 64 bits, with or without a sign, or a double. The members of an
object are a list of keys and values. `insertMember` puts a member where its key belongs, and
`ofMembers` builds an object of any members: in increasing key order, where a later member
replaces an earlier one of the same key. `Ordered` says of a value that all its objects are of
this kind.
-/

namespace HealthLedger.Json

/-- A JSON number. -/
inductive Number where
  /-- An integer between `-2^63` and `2^64 - 1`. -/
  | integer (value : Int)
  /-- Any other number, as the double it was read as. -/
  | float (value : Number.Double)
  deriving Repr, DecidableEq

/-- A JSON value. -/
inductive Value where
  /-- The null value. -/
  | null
  /-- A truth value. -/
  | bool (value : Bool)
  /-- A number. -/
  | number (value : Number)
  /-- A string. -/
  | string (value : String)
  /-- An array. -/
  | array (items : List Value)
  /-- An object, as its members in order. -/
  | object (members : List (String × Value))
  deriving Repr, Inhabited

/-- The members of an object. -/
abbrev Members := List (String × Value)

/-- Put a member where its key belongs in key order, in place of one with the same key. -/
def insertMember (key : String) (value : Value) : Members → Members
  | [] => [(key, value)]
  | (other, held) :: rest =>
    if key < other then (key, value) :: (other, held) :: rest
    else if key = other then (key, value) :: rest
    else (other, held) :: insertMember key value rest

/-- The members in key order, of several with one key the last. -/
def sortMembers (members : Members) : Members :=
  members.foldl (fun sorted member => insertMember member.1 member.2 sorted) []

/-- The keys of the members strictly increase. -/
def Increasing (members : Members) : Prop :=
  members.Pairwise fun earlier later => earlier.1 < later.1

/-- The value of a key. -/
def findMember (key : String) : Members → Option Value
  | [] => none
  | (other, value) :: rest => if other = key then some value else findMember key rest

namespace Value

/-- The object with the given members, in key order. -/
def ofMembers (members : Members) : Value := .object (sortMembers members)

mutual

/-- Every object in the value has its keys in strictly increasing order. -/
def Ordered : Value → Prop
  | .array items => OrderedItems items
  | .object members => Increasing members ∧ OrderedMembers members
  | _ => True

/-- Every item of the list is ordered. -/
def OrderedItems : List Value → Prop
  | [] => True
  | item :: rest => item.Ordered ∧ OrderedItems rest

/-- The value of every member is ordered. -/
def OrderedMembers : Members → Prop
  | [] => True
  | (_, value) :: rest => value.Ordered ∧ OrderedMembers rest

end

end Value

/-- A key below all keys of increasing members stays below them after an insertion of a greater
key. -/
theorem forall_lt_insertMember {bound key : String} {value : Value} {members : Members}
    (greater : bound < key) (above : ∀ member ∈ members, bound < member.1) :
    ∀ member ∈ insertMember key value members, bound < member.1 := by
  induction members with
  | nil => simpa [insertMember] using greater
  | cons first rest ih =>
    obtain ⟨other, held⟩ := first
    have rests : ∀ member ∈ rest, bound < member.1 := fun m hm => above m (.tail _ hm)
    unfold insertMember
    split
    · intro member found
      cases found with
      | head => exact greater
      | tail _ found => exact above member found
    · split
      · intro member found
        cases found with
        | head => exact greater
        | tail _ found => exact rests member found
      · intro member found
        cases found with
        | head => exact above _ (.head _)
        | tail _ found => exact ih rests member found

/-- Insertion keeps the keys increasing. -/
theorem Increasing.insertMember {members : Members} (increasing : Increasing members)
    (key : String) (value : Value) : Increasing (insertMember key value members) := by
  induction members with
  | nil => simp [Json.insertMember, Increasing]
  | cons first rest ih =>
    obtain ⟨other, held⟩ := first
    have parts := List.pairwise_cons.1 increasing
    unfold Json.insertMember
    split
    · next less =>
      refine List.pairwise_cons.2 ⟨?_, increasing⟩
      intro member found
      cases found with
      | head => exact less
      | tail _ found => exact String.lt_trans less (parts.1 member found)
    · split
      · next same =>
        refine List.pairwise_cons.2 ⟨?_, parts.2⟩
        intro member found
        exact same ▸ parts.1 member found
      · next notLess notSame =>
        have greater : other < key := by
          rcases String.le_total key other with below | above
          · exact absurd (String.le_antisymm below (String.not_lt.1 notLess)) notSame
          · exact Decidable.byContradiction fun no =>
              notSame (String.le_antisymm (String.not_lt.1 no) above)
        exact List.pairwise_cons.2
          ⟨forall_lt_insertMember greater parts.1, ih parts.2⟩

/-- Sorted members have strictly increasing keys. -/
theorem increasing_sortMembers (members : Members) : Increasing (sortMembers members) := by
  suffices general : ∀ sorted : Members, Increasing sorted →
      Increasing (members.foldl (fun sorted member => insertMember member.1 member.2 sorted)
        sorted) from general [] List.Pairwise.nil
  induction members with
  | nil => exact fun _ increasing => increasing
  | cons first rest ih => exact fun sorted increasing => ih _ (increasing.insertMember _ _)

/-- An object whose keys strictly increase: a map from keys to values. -/
structure Object where
  /-- The members in key order. -/
  members : Members
  /-- The keys strictly increase. -/
  increasing : Increasing members

namespace Object

/-- The object without members. -/
def empty : Object := ⟨[], List.Pairwise.nil⟩

instance : Inhabited Object := ⟨empty⟩

/-- The object of any members, of several with one key the last. -/
def ofMembers (members : Members) : Object := ⟨sortMembers members, increasing_sortMembers members⟩

/-- Two objects with the same members are the same. -/
@[ext] theorem ext {left right : Object} (same : left.members = right.members) : left = right := by
  cases left
  cases right
  simp_all

end Object

end HealthLedger.Json
