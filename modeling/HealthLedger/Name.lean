import HealthLedger.Text.Lowercase

/-!
# Resource names

A check is addressed by a name that people write in many ways. `Name.sanitize` gives the form
under which its state is stored: lowercase, with a hyphen for every space. All other
characters stay as they are, so a name that no store would accept is not repaired.
-/

namespace HealthLedger.Name

/-- A hyphen for a space. -/
def hyphenate (c : Char) : Char := if c = ' ' then '-' else c

/-- The stored form of a name: lowercase, with hyphens for spaces. -/
def sanitize (raw : String) : String := (Text.lowercase raw).map hyphenate

/-- A name that is sanitized has no space. -/
theorem space_notMem_sanitize (raw : String) : ' ' ∉ (sanitize raw).toList := by
  simp only [sanitize, String.toList_map, List.mem_map, not_exists, not_and]
  intro c _ hyphenated
  by_cases space : c = ' ' <;> simp [hyphenate, space] at hyphenated

end HealthLedger.Name
