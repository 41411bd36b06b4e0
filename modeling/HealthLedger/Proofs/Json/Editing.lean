import HealthLedger.Json.MergePatch
import HealthLedger.Proofs.Json.Sendable

/-!
# Editing objects

An object that is a map is known by its members. Putting a member in, taking one out and changing
one lead from maps to maps (`Value.IsMap`), and each is known by what is found afterwards. All
objects in a value that was parsed are maps (`ordered_of_parse`).
-/

namespace HealthLedger.Json

/-- What is found where null counts as nothing. -/
def notNull : Option Value → Option Value
  | some .null => none
  | found => found

namespace Value

/-- A value without the member of a key. -/
def withoutMember (value : Value) (key : String) : Value :=
  match value with
  | .object members => .object (removeMember key members)
  | value => value

/-- A value without the member of a key if that is null. -/
def withoutNull (value : Value) (key : String) : Value :=
  match value.member? key with
  | some .null => value.withoutMember key
  | _ => value

/-- A value with a member of a key if there is none. -/
def withDefault (value : Value) (key : String) (default : Value) : Value :=
  match value.member? key with
  | some _ => value
  | none => value.withMember key default

/-- A value with the member of a key changed if there is one. -/
def withChanged (value : Value) (key : String) (change : Value → Value) : Value :=
  match value.member? key with
  | some member => value.withMember key (change member)
  | none => value

/-- The value is an object with increasing keys. -/
def IsMap (value : Value) : Prop := ∃ members, value = .object members ∧ Increasing members

/-- An object of any members is a map. -/
theorem isMap_ofMembers (members : Members) : (ofMembers members).IsMap :=
  ⟨_, rfl, increasing_sortMembers members⟩

variable {value : Value}

/-- Maps that hold the same under every key are the same. -/
theorem IsMap.ext {other : Value} (map : value.IsMap) (mapAgain : other.IsMap)
    (same : ∀ key, value.member? key = other.member? key) : value = other := by
  obtain ⟨members, rfl, increasing⟩ := map
  obtain ⟨others, rfl, increasingAgain⟩ := mapAgain
  exact congrArg object (increasing.ext increasingAgain same)

/-- A map stays one when a member is put in. -/
theorem IsMap.withMember (map : value.IsMap) (key : String) (member : Value) :
    (value.withMember key member).IsMap := by
  obtain ⟨members, rfl, increasing⟩ := map
  exact ⟨_, rfl, increasing.insertMember key member⟩

/-- A member that is put in is found, and under other keys what was there. -/
theorem IsMap.member?_withMember (map : value.IsMap) (key other : String) (member : Value) :
    (value.withMember key member).member? other =
      if key = other then some member else value.member? other := by
  obtain ⟨members, rfl, -⟩ := map
  exact findMember_insertMember key other member members

/-- A map with a default for a key is the map with what is there or the default. -/
theorem IsMap.withDefault_eq (map : value.IsMap) (key : String) (default : Value) :
    value.withDefault key default = value.withMember key ((value.member? key).getD default) := by
  unfold Value.withDefault
  split
  · next member found =>
    refine map.ext (map.withMember key _) fun other => ?_
    rw [map.member?_withMember, found]
    by_cases same : key = other
    · subst same
      simp [found]
    · simp [same]
  · next nothing => rw [nothing, Option.getD_none]

/-- A map stays one when a member is taken out. -/
theorem IsMap.withoutMember (map : value.IsMap) (key : String) :
    (value.withoutMember key).IsMap := by
  obtain ⟨members, rfl, increasing⟩ := map
  exact ⟨_, rfl, increasing.filter _⟩

/-- A member that is taken out is not found, and under other keys what was there. -/
theorem IsMap.member?_withoutMember (map : value.IsMap) (key other : String) :
    (value.withoutMember key).member? other =
      if key = other then none else value.member? other := by
  obtain ⟨members, rfl, -⟩ := map
  have filtered := findMember_filter other (fun name => name != key) members
  by_cases same : key = other
  · subst same
    simpa [Value.withoutMember, member?, removeMember] using filtered
  · have different : (other != key) = true := bne_iff_ne.2 (Ne.symm same)
    simpa [Value.withoutMember, member?, removeMember, same, different] using filtered

/-- A map stays one when null is taken out. -/
theorem IsMap.withoutNull (map : value.IsMap) (key : String) :
    (value.withoutNull key).IsMap := by
  unfold Value.withoutNull
  split
  · exact map.withoutMember key
  · exact map

/-- Under a key from which null was taken out stands what was there but null, and under other keys
what was there. -/
theorem IsMap.member?_withoutNull (map : value.IsMap) (key other : String) :
    (value.withoutNull key).member? other =
      if key = other then notNull (value.member? other) else value.member? other := by
  unfold Value.withoutNull
  split
  · next null =>
    rw [map.member?_withoutMember]
    by_cases same : key = other
    · subst same
      simp [null, notNull]
    · simp [same]
  · next held =>
    by_cases same : key = other
    · subst same
      rw [if_pos rfl]
      cases found : value.member? key with
      | none => rfl
      | some member =>
        cases member with
        | null => exact absurd found held
        | bool | number | string | array | object => rfl
    · rw [if_neg same]

/-- A map stays one when a member is changed. -/
theorem IsMap.withChanged (map : value.IsMap) (key : String) (change : Value → Value) :
    (value.withChanged key change).IsMap := by
  unfold Value.withChanged
  split
  · exact map.withMember key _
  · exact map

/-- Under the key of a member that was changed stands the changed member, and under other keys what
was there. -/
theorem IsMap.member?_withChanged (map : value.IsMap) (key other : String)
    (change : Value → Value) :
    (value.withChanged key change).member? other =
      if key = other then (value.member? other).map change else value.member? other := by
  unfold Value.withChanged
  split
  · next member found =>
    rw [map.member?_withMember]
    by_cases same : key = other
    · subst same
      simp [found]
    · simp [same]
  · next nothing =>
    by_cases same : key = other
    · subst same
      simp [nothing]
    · simp [same]

end Value

/-- Members are ordered if the value of each of them is. -/
theorem orderedMembers_iff {members : Members} :
    Value.OrderedMembers members ↔ ∀ member ∈ members, member.2.Ordered := by
  induction members with
  | nil => simp [Value.OrderedMembers]
  | cons first rest ih =>
    rw [Value.OrderedMembers, ih, List.forall_mem_cons]

/-- An object of members with ordered values is ordered. -/
theorem Value.ordered_ofMembers {members : Members}
    (ordered : ∀ member ∈ members, member.2.Ordered) : (Value.ofMembers members).Ordered :=
  ⟨increasing_sortMembers members,
    orderedMembers_iff.2 fun member found => ordered member (mem_of_mem_sortMembers found)⟩

mutual

/-- A value that was read is ordered. -/
theorem Tree.ordered_of_read (tree : Tree) {room : Nat} {value : Value}
    (read : tree.read room = .ok value) : value.Ordered := by
  cases tree with
  | missing | broken => contradiction
  | null | bool =>
    obtain rfl := Except.ok.inj read
    trivial
  | number | string =>
    obtain ⟨_, -, rfl⟩ := map_eq_ok_iff.1 read
    trivial
  | array start items =>
    obtain ⟨inner, -, readItems⟩ := bind_eq_ok_iff.1 read
    obtain ⟨values, given, same⟩ := bind_eq_ok_iff.1 readItems
    obtain rfl := Except.ok.inj same
    exact items.ordered_of_read given
  | object start entries =>
    obtain ⟨inner, -, readEntries⟩ := bind_eq_ok_iff.1 read
    obtain ⟨members, given, same⟩ := bind_eq_ok_iff.1 readEntries
    obtain rfl := Except.ok.inj same
    exact Value.ordered_ofMembers (entries.ordered_of_read given)

/-- Items that were read are ordered. -/
theorem Items.ordered_of_read (items : Items) {room : Nat} {values : List Value}
    (read : items.read room = .ok values) : Value.OrderedItems values := by
  cases items with
  | done =>
    obtain rfl := Except.ok.inj read
    trivial
  | broken => contradiction
  | item tree rest =>
    obtain ⟨value, first, readRest⟩ := bind_eq_ok_iff.1 read
    obtain ⟨others, given, same⟩ := bind_eq_ok_iff.1 readRest
    obtain rfl := Except.ok.inj same
    exact ⟨tree.ordered_of_read first, rest.ordered_of_read given⟩

/-- The values of members that were read are ordered. -/
theorem Entries.ordered_of_read (entries : Entries) {room : Nat} {members : Members}
    (read : entries.read room = .ok members) : ∀ member ∈ members, member.2.Ordered := by
  cases entries with
  | done =>
    obtain rfl := Except.ok.inj read
    exact fun member found => nomatch found
  | broken | misplaced => contradiction
  | unpaired =>
    obtain ⟨_, -, failed⟩ := bind_eq_ok_iff.1 read
    contradiction
  | member start key tree rest =>
    obtain ⟨name, -, readValue⟩ := bind_eq_ok_iff.1 read
    obtain ⟨value, first, readRest⟩ := bind_eq_ok_iff.1 readValue
    obtain ⟨others, given, same⟩ := bind_eq_ok_iff.1 readRest
    obtain rfl := Except.ok.inj same
    exact List.forall_mem_cons.2 ⟨tree.ordered_of_read first, rest.ordered_of_read given⟩

end

/-- A value that was parsed is ordered. -/
theorem ordered_of_parse {bytes : List UInt8} {value : Value} (parsed : parse bytes = .ok value) :
    value.Ordered := by
  obtain ⟨read, given, rest⟩ := bind_eq_ok_iff.1 parsed
  obtain ⟨_, -, same⟩ := bind_eq_ok_iff.1 rest
  obtain rfl := Except.ok.inj same
  exact Tree.ordered_of_read _ given

/-- An object that is ordered is a map. -/
theorem Value.Ordered.isMap {members : Members} (ordered : (Value.object members).Ordered) :
    (Value.object members).IsMap :=
  ⟨members, rfl, ordered.1⟩

/-- What an ordered value holds is ordered. -/
theorem Value.Ordered.member? {value member : Value} {key : String} (ordered : value.Ordered)
    (found : value.member? key = some member) : member.Ordered := by
  cases value with
  | object members =>
    exact orderedMembers_iff.1 ordered.2 (key, member) (mem_of_findMember found)
  | null | bool | number | string | array => contradiction

end HealthLedger.Json
