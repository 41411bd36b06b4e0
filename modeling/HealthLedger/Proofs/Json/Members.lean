import HealthLedger.Json.Value

/-!
# Objects as maps

An object is known by what it holds under each key. Lookup after an insertion, in sorted
members and in a part of them says what every operation on members does to this map, and two
objects that hold the same under every key are the same. An object avoids some keys if it has
no member under them; this is what keeps a written field and a kept member apart.
-/

namespace HealthLedger.Json

/-- Nothing is found under a key that no member has. -/
theorem findMember_eq_none {key : String} {members : Members}
    (absent : ∀ member ∈ members, member.1 ≠ key) : findMember key members = none := by
  induction members with
  | nil => rfl
  | cons first rest ih =>
    have other : first.1 ≠ key := absent first List.mem_cons_self
    simp only [findMember, if_neg other]
    exact ih fun member found => absent member (List.mem_cons_of_mem _ found)

/-- What is found under a key is a member. -/
theorem mem_of_findMember {key : String} {value : Value} {members : Members}
    (found : findMember key members = some value) : (key, value) ∈ members := by
  induction members with
  | nil => simp [findMember] at found
  | cons first rest ih =>
    obtain ⟨other, held⟩ := first
    by_cases same : other = key
    · simp only [findMember, if_pos same, Option.some.injEq] at found
      rw [same, found]
      exact List.mem_cons_self
    · simp only [findMember, if_neg same] at found
      exact List.mem_cons_of_mem _ (ih found)

/-- Of two parts the first one that has the key decides. -/
theorem findMember_append (key : String) (first second : Members) :
    findMember key (first ++ second) = (findMember key first).or (findMember key second) := by
  induction first with
  | nil => simp [findMember]
  | cons head rest ih =>
    by_cases same : head.1 = key
    · simp [findMember, same]
    · simp [findMember, same, ih]

/-- Inserting a member changes what is found under its key only. -/
theorem findMember_insertMember (key other : String) (value : Value) (members : Members) :
    findMember other (insertMember key value members) =
      if key = other then some value else findMember other members := by
  induction members with
  | nil => simp [insertMember, findMember]
  | cons first rest ih =>
    obtain ⟨head, held⟩ := first
    unfold insertMember
    split
    · simp [findMember]
    · split
      · next same =>
        subst same
        by_cases asked : key = other <;> simp [findMember, asked]
      · next different =>
        by_cases asked : head = other
        · have : key ≠ other := asked ▸ different
          simp [findMember, asked, this]
        · simp [findMember, asked, ih]

/-- In a part of the members that is chosen by key, the chosen keys hold what they held. -/
theorem findMember_filter (key : String) (chosen : String → Bool) (members : Members) :
    findMember key (members.filter fun member => chosen member.1) =
      if chosen key then findMember key members else none := by
  induction members with
  | nil => simp [findMember]
  | cons first rest ih =>
    obtain ⟨head, held⟩ := first
    by_cases same : head = key
    · subst same
      by_cases kept : chosen head = true
      · simp [findMember, kept]
      · simp [kept, ih]
    · by_cases kept : chosen head = true
      · simp [findMember, kept, same, ih]
      · simp [findMember, kept, same, ih]

/-- A part of increasing members is increasing. -/
theorem Increasing.filter {members : Members} (increasing : Increasing members)
    (chosen : String × Value → Bool) : Increasing (members.filter chosen) :=
  List.Pairwise.filter _ increasing

/-- No two members of increasing members have the same key. -/
theorem Increasing.nodup {members : Members} (increasing : Increasing members) :
    (members.map (·.1)).Nodup := by
  refine List.pairwise_map.2 (increasing.imp fun {earlier later} less same => ?_)
  exact absurd (same ▸ less) (String.lt_irrefl _)

/-- Under the key of a member of members without repetition stands its value. -/
theorem findMember_of_mem {members : Members} (nodup : (members.map (·.1)).Nodup)
    {key : String} {value : Value} (found : (key, value) ∈ members) :
    findMember key members = some value := by
  induction members with
  | nil => simp at found
  | cons first rest ih =>
    have parts := List.nodup_cons.1 nodup
    cases found with
    | head => simp [findMember]
    | tail _ inside =>
      have other : first.1 ≠ key := by
        intro same
        exact parts.1 (List.mem_map.2 ⟨(key, value), inside, same.symm⟩)
      rw [findMember, if_neg other]
      exact ih parts.2 inside

/-- Members without repeated keys are not repeated. -/
private theorem nodup_of_keys {members : Members} (nodup : (members.map (·.1)).Nodup) :
    members.Nodup :=
  List.Pairwise.of_map _ (fun _ _ different same => different (congrArg _ same)) nodup

/-- Increasing members that hold the same under every key are the same. -/
theorem Increasing.ext {left right : Members} (leftIncreasing : Increasing left)
    (rightIncreasing : Increasing right)
    (same : ∀ key, findMember key left = findMember key right) : left = right := by
  have listed : left.Perm right := by
    refine (List.perm_ext_iff_of_nodup (nodup_of_keys leftIncreasing.nodup)
      (nodup_of_keys rightIncreasing.nodup)).2 fun member => ⟨fun found => ?_, fun found => ?_⟩
    · have held := findMember_of_mem leftIncreasing.nodup found
      exact mem_of_findMember (same member.1 ▸ held)
    · have held := findMember_of_mem rightIncreasing.nodup found
      exact mem_of_findMember ((same member.1).symm ▸ held)
  refine listed.eq_of_pairwise (fun first second _ _ less greater => ?_)
    leftIncreasing rightIncreasing
  exact absurd (String.lt_trans less greater) (String.lt_irrefl _)

/-- What is found in sorted members that start from others. -/
private theorem findMember_foldl_insertMember (key : String) (members sorted : Members) :
    findMember key (members.foldl (fun sorted member => insertMember member.1 member.2 sorted)
      sorted) = (findMember key members.reverse).or (findMember key sorted) := by
  induction members generalizing sorted with
  | nil => simp [findMember]
  | cons first rest ih =>
    rw [List.foldl_cons, ih, findMember_insertMember, List.reverse_cons, findMember_append]
    by_cases same : first.1 = key <;> simp [findMember, same]

/-- Under a key of sorted members stands what the last member of that key holds. -/
theorem findMember_sortMembers (key : String) (members : Members) :
    findMember key (sortMembers members) = findMember key members.reverse := by
  rw [sortMembers, findMember_foldl_insertMember]
  simp [findMember]

/-- Sorting members without repetition changes nothing of what they hold. -/
theorem findMember_sortMembers_of_nodup {members : Members}
    (nodup : (members.map (·.1)).Nodup) (key : String) :
    findMember key (sortMembers members) = findMember key members := by
  rw [findMember_sortMembers]
  cases held : findMember key members with
  | some value =>
    have reversed : (members.reverse.map (·.1)).Nodup := by
      rw [List.map_reverse]
      exact List.pairwise_reverse.2 (nodup.imp fun different => different.symm)
    exact findMember_of_mem reversed (List.mem_reverse.2 (mem_of_findMember held))
  | none =>
    refine findMember_eq_none fun member found same => ?_
    have there := findMember_of_mem nodup (List.mem_reverse.1 found)
    rw [same, held] at there
    contradiction

/-- Sorting members without repetition only puts them in another order. -/
theorem sortMembers_perm {members : Members} (nodup : (members.map (·.1)).Nodup) :
    (sortMembers members).Perm members := by
  have increasing := increasing_sortMembers members
  refine (List.perm_ext_iff_of_nodup (nodup_of_keys increasing.nodup)
    (nodup_of_keys nodup)).2 fun member => ⟨fun found => ?_, fun found => ?_⟩
  · have held := findMember_of_mem increasing.nodup found
    rw [findMember_sortMembers_of_nodup nodup] at held
    exact mem_of_findMember held
  · have held := findMember_of_mem nodup found
    rw [← findMember_sortMembers_of_nodup nodup] at held
    exact mem_of_findMember held

/-- Members without repetition that are one member when they are sorted are this member. -/
theorem eq_singleton_of_sortMembers {members : Members} (nodup : (members.map (·.1)).Nodup)
    {member : String × Value} (sorted : sortMembers members = [member]) : members = [member] := by
  have listed := sortMembers_perm nodup
  rw [sorted] at listed
  exact List.perm_singleton.1 listed.symm

/-- Sorting adds no members. -/
theorem mem_of_mem_sortMembers {members : Members} {member : String × Value}
    (found : member ∈ sortMembers members) : member ∈ members := by
  have held := findMember_of_mem (increasing_sortMembers members).nodup found
  rw [findMember_sortMembers] at held
  exact List.mem_reverse.1 (mem_of_findMember held)

/-- Increasing members are sorted. -/
theorem sortMembers_of_increasing {members : Members} (increasing : Increasing members) :
    sortMembers members = members :=
  (increasing_sortMembers members).ext increasing
    (findMember_sortMembers_of_nodup increasing.nodup)

namespace Object

/-- What an object holds under a key. -/
def find? (object : Object) (key : String) : Option Value := findMember key object.members

/-- The object of some members holds what the sorted members hold. -/
theorem find?_ofMembers (members : Members) (key : String) :
    (ofMembers members).find? key = findMember key (sortMembers members) := rfl

/-- Objects that hold the same under every key are the same. -/
theorem ext_find? {left right : Object} (same : ∀ key, left.find? key = right.find? key) :
    left = right :=
  Object.ext (left.increasing.ext right.increasing same)

/-- A member behind others takes the place of the ones with its key. -/
theorem find?_ofMembers_concat (members : Members) (key other : String) (value : Value) :
    (ofMembers (members ++ [(key, value)])).find? other =
      if key = other then some value else (ofMembers members).find? other := by
  rw [find?_ofMembers, sortMembers, List.foldl_append, ← sortMembers]
  exact findMember_insertMember key other value (sortMembers members)

/-- The object of the members of an object is the object itself. -/
@[simp] theorem ofMembers_members (object : Object) : ofMembers object.members = object :=
  Object.ext (sortMembers_of_increasing object.increasing)

/-- No member of the object has one of the keys. -/
def Avoids (object : Object) (keys : List String) : Prop :=
  ∀ member ∈ object.members, member.1 ∉ keys

/-- The empty object avoids all keys. -/
theorem empty_avoids (keys : List String) : empty.Avoids keys := by
  intro member found
  simp [empty] at found

/-- An object holds nothing under the keys it avoids. -/
theorem Avoids.find?_eq_none {object : Object} {keys : List String} (avoids : object.Avoids keys)
    {key : String} (named : key ∈ keys) : object.find? key = none :=
  findMember_eq_none fun member found same => avoids member found (same ▸ named)

/-- An object avoids the keys under which it holds nothing. -/
theorem avoids_of_find?_eq_none {object : Object} {keys : List String}
    (nothing : ∀ key ∈ keys, object.find? key = none) : object.Avoids keys := by
  intro member found named
  have held : object.find? member.1 = some member.2 :=
    findMember_of_mem object.increasing.nodup found
  rw [nothing member.1 named] at held
  contradiction

end Object

namespace Value

/-- What a value holds under a key, if it is an object. -/
def member? (key : String) : Value → Option Value
  | .object members => findMember key members
  | _ => none

/-- An object with another member under a key. Any other value stays as it is. -/
def withMember (value : Value) (key : String) (member : Value) : Value :=
  match value with
  | .object members => .object (insertMember key member members)
  | value => value

/-- An object holds what its members hold. -/
theorem member?_ofMembers (members : Members) (key : String) :
    (ofMembers members).member? key = (Object.ofMembers members).find? key := rfl

/-- Another member stands behind the others. -/
theorem withMember_ofMembers (members : Members) (key : String) (member : Value) :
    (ofMembers members).withMember key member = ofMembers (members ++ [(key, member)]) := by
  simp only [ofMembers, sortMembers, List.foldl_append, List.foldl_cons, List.foldl_nil,
    withMember]

/-- Members that hold the same under every key form the same object. -/
theorem ofMembers_congr {left right : Members}
    (same : ∀ key, (Object.ofMembers left).find? key = (Object.ofMembers right).find? key) :
    ofMembers left = ofMembers right :=
  congrArg object (congrArg Object.members (Object.ext_find? same))

end Value

end HealthLedger.Json
