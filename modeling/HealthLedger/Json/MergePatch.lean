import HealthLedger.Json.Value

/-!
# Merge patches

A merge patch describes a change of a JSON value by another value. An object changes the
members it names and leaves the others: null removes a member, anything else is merged into it.
Every other patch takes the place of the value.
-/

namespace HealthLedger.Json

/-- The members without the one of a key. -/
def removeMember (key : String) (members : Members) : Members :=
  members.filter fun member => member.1 != key

namespace Value

/-- The members of an object, none of any other value. -/
def membersOf : Value → Members
  | .object members => members
  | _ => []

mutual

/-- A value changed by a patch. -/
def merge (target : Value) : Value → Value
  | .object changes => .object (mergeMembers (sortMembers target.membersOf) changes)
  | patch => patch

/-- Members changed by the members of a patch, one after the other. -/
def mergeMembers (members : Members) : Members → Members
  | [] => members
  | (key, .null) :: changes => mergeMembers (removeMember key members) changes
  | (key, patch) :: changes =>
    let merged := merge ((findMember key members).getD .null) patch
    mergeMembers (insertMember key merged members) changes

end

end Value

end HealthLedger.Json
