import HealthLedger.Toml.Value

/-!
# Building tables

A header opens a table or adds one to an array of tables, and the lines behind it give keys and
values. Nothing may be given twice: neither a key of a table, nor a table by two headers, nor a
table by a header and by a dotted key. A table that so far is only the parent of another one
may still get a header of its own.
-/

namespace HealthLedger.Toml

/-- The table at a path, changed by `change`; parents that are missing are made. `dotted` says that
the path is part of a dotted key, which leads only through tables without a header. -/
def Entries.within (dotted : Bool) (change : Origin → Entries → Option Entries) :
    Origin → List String → Entries → Option Entries
  | origin, [], entries => change origin entries
  | _, key :: path, entries =>
    match entries.find? key with
    | none => do
      let origin := if dotted then Origin.dotted else Origin.parent
      let inner ← Entries.within dotted change origin path []
      some (entries.put key (.table origin inner))
    | some (.table origin inner) =>
      if dotted && origin = .header then none
      else do
        let inner ← Entries.within dotted change origin path inner
        some (entries.put key (.table origin inner))
    | some (.tables (last :: earlier)) => do
      let last ← Entries.within dotted change .header path last
      some (entries.put key (.tables (last :: earlier)))
    | some _ => none

/-- The last part of a key and the parts before it. -/
def splitKey (key : List String) : List String × String := (key.dropLast, key.getLastD "")

/-- Give a key a value, from the table the lines belong to. A dotted key adds only to a table made
by dotted keys. -/
def Entries.give (key : List String) (value : Value) (entries : Entries) : Option Entries :=
  let (path, name) := splitKey key
  entries.within true (fun origin found =>
    if !path.isEmpty && origin ≠ .dotted then none
    else
      match found.find? name with
      | none => some (found.put name (.value value))
      | some _ => none) .header path

/-- Open the table of a header. -/
def Entries.openTable (key : List String) (entries : Entries) : Option Entries :=
  let (path, name) := splitKey key
  entries.within false (fun _ found =>
    match found.find? name with
    | none => some (found.put name (.table .header []))
    | some (.table .parent inner) => some (found.put name (.table .header inner))
    | some _ => none) .header path

/-- Add a table to an array of tables. -/
def Entries.openMember (key : List String) (entries : Entries) : Option Entries :=
  let (path, name) := splitKey key
  entries.within false (fun _ found =>
    match found.find? name with
    | none => some (found.put name (.tables [[]]))
    | some (.tables members) => some (found.put name (.tables ([] :: members)))
    | some _ => none) .header path

/-- Change the table of the header above, which exists. -/
def Entries.inTable (change : Entries → Option Entries) (path : List String)
    (entries : Entries) : Option Entries :=
  entries.within false (fun _ found => change found) .header path

/-- The table of inline keys and values, in which nothing may be given twice. -/
def Entries.ofPairs (pairs : List (List String × Value)) : Option Entries :=
  pairs.foldlM (fun entries pair => entries.give pair.1 pair.2) []

mutual

/-- An item as a value. -/
def Item.toValue : Item → Value
  | .value given => given
  | .table _ entries => .inline (Item.memberValues entries)
  | .tables members => .array (Item.tableValues members).reverse

/-- The values of the items of a table. -/
def Item.memberValues : List (String × Item) → List (String × Value)
  | [] => []
  | (key, item) :: rest => (key, item.toValue) :: Item.memberValues rest

/-- The values of tables. -/
def Item.tableValues : List (List (String × Item)) → List Value
  | [] => []
  | entries :: rest => .inline (Item.memberValues entries) :: Item.tableValues rest

end

end HealthLedger.Toml
