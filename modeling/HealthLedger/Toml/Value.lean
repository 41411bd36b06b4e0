/-!
# TOML values

A value is a scalar, an array or an inline table. Floats and times are kept as they are
written. A document is a table whose items are values, tables and arrays of tables; a table
remembers how it came to be, because that decides what may still be added to it.
-/

namespace HealthLedger.Toml

/-- A value on the right of an equals sign. -/
inductive Value where
  /-- A string. -/
  | string (value : String)
  /-- An integer of 64 bits. -/
  | integer (value : Int)
  /-- A float, as it is written. -/
  | float (text : String)
  /-- A truth value. -/
  | boolean (value : Bool)
  /-- A date, a time of day or both, as it is written. -/
  | datetime (text : String)
  /-- An array. -/
  | array (items : List Value)
  /-- An inline table. -/
  | inline (members : List (String × Value))
  deriving Repr, Inhabited

/-- How a table came to be. -/
inductive Origin where
  /-- By a header or as the root. -/
  | header
  /-- As the parent of a table with a header. -/
  | parent
  /-- By the first parts of a dotted key. -/
  | dotted
  deriving Repr, DecidableEq

/-- An item of a document. -/
inductive Item where
  /-- A value. -/
  | value (value : Value)
  /-- A table. -/
  | table (origin : Origin) (entries : List (String × Item))
  /-- An array of tables, the last one first. -/
  | tables (members : List (List (String × Item)))
  deriving Repr, Inhabited

/-- The items of a table. -/
abbrev Entries := List (String × Item)

/-- The item of a key. -/
def Entries.find? (entries : Entries) (key : String) : Option Item := entries.lookup key

/-- The entries with an item in place of the one of its key, or behind the others. -/
def Entries.put (key : String) (item : Item) : Entries → Entries
  | [] => [(key, item)]
  | (other, held) :: rest =>
    if other = key then (key, item) :: rest else (other, held) :: Entries.put key item rest

/-- Putting an item changes the item of one key. -/
theorem find?_put (entries : Entries) (key other : String) (item : Item) :
    Entries.find? (Entries.put key item entries) other =
      if other = key then some item else entries.find? other := by
  simp only [Entries.find?]
  induction entries with
  | nil =>
    by_cases same : other = key
    · simp [Entries.put, same]
    · simp [Entries.put, List.lookup_cons, same, beq_eq_false_iff_ne.2 same]
  | cons first rest ih =>
    obtain ⟨head, held⟩ := first
    by_cases found : head = key
    · subst found
      by_cases same : other = head
      · simp [Entries.put, same]
      · simp [Entries.put, List.lookup_cons, same, beq_eq_false_iff_ne.2 same]
    · by_cases same : other = head
      · subst same
        simp [Entries.put, found]
      · simp [Entries.put, found, List.lookup_cons, beq_eq_false_iff_ne.2 same, ih]

end HealthLedger.Toml
