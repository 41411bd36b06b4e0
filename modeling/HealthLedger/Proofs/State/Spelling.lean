import HealthLedger.Proofs.State.Isolation
import HealthLedger.Proofs.Text.Lowercase
import Mathlib.Data.List.Forall2

/-!
# The spellings of a name

A check is addressed by its sanitized name, so a name may be spelled in many ways. The sanitized
form is one of them, and every operation does with it what it does with the name
(`sanitized_name_suffices`). A name is sanitized word by word, and it makes no difference whether a
space or a hyphen stands between two words (`words_sanitized_apart`): both end the search for the
letters that decide the form of a sigma, and the hyphens are put in when the name is lowercase.
-/

namespace HealthLedger.Name

open Text (lowercase lowerAt lowerFrom meetsLetter IsSmall EndsWord)

/-- The characters of a sanitized name. -/
theorem toList_sanitize (raw : String) :
    (sanitize raw).toList = (lowercase raw).toList.map hyphenate := by
  rw [sanitize, String.toList_map]

/-- A sanitized name is made of small characters. -/
theorem isSmall_of_mem_sanitize {raw : String} : ∀ c ∈ (sanitize raw).toList, IsSmall c := by
  intro c found
  rw [toList_sanitize] at found
  obtain ⟨d, lowered, rfl⟩ := List.mem_map.1 found
  unfold hyphenate
  split
  · decide
  · exact Text.isSmall_of_mem_lowercase d lowered

/-- Characters without a space stay as they are. -/
theorem map_hyphenate {chars : List Char} (plain : ' ' ∉ chars) : chars.map hyphenate = chars := by
  have same : ∀ c ∈ chars, hyphenate c = c := fun c found =>
    if_neg fun (space : c = ' ') => plain (space ▸ found)
  exact (List.map_congr_left same).trans (List.map_id' chars)

/-- A name is its own sanitized form if and only if it has no space and all its characters are
small. -/
theorem sanitize_eq_self_iff {name : String} :
    sanitize name = name ↔ ' ' ∉ name.toList ∧ ∀ c ∈ name.toList, IsSmall c := by
  constructor
  · intro same
    rw [← same]
    exact ⟨space_notMem_sanitize name, isSmall_of_mem_sanitize⟩
  · rintro ⟨plain, small⟩
    refine String.toList_inj.1 ?_
    rw [toList_sanitize, Text.lowercase_eq_self_iff.2 small, map_hyphenate plain]

/-- A sanitized name is its own sanitized form. -/
theorem sanitize_sanitize (raw : String) : sanitize (sanitize raw) = sanitize raw :=
  sanitize_eq_self_iff.2 ⟨space_notMem_sanitize raw, isSmall_of_mem_sanitize⟩

/-- The characters that stand between the words of a name. -/
def IsSeparator (c : Char) : Prop := c = ' ' ∨ c = '-'

/-- A word ends at a separator. -/
theorem IsSeparator.endsWord {c : Char} (separator : IsSeparator c) : EndsWord c := by
  rcases separator with rfl | rfl <;> decide +kernel

/-- A separator is small. -/
theorem IsSeparator.isSmall {c : Char} (separator : IsSeparator c) : IsSmall c := by
  rcases separator with rfl | rfl <;> decide

/-- A separator becomes a hyphen. -/
theorem IsSeparator.hyphenate_eq {c : Char} (separator : IsSeparator c) : hyphenate c = '-' := by
  rcases separator with rfl | rfl <;> rfl

/-- Two names with a separator between them are sanitized on their own. -/
theorem IsSeparator.sanitize_append {c : Char} (separator : IsSeparator c)
    (first second : String) :
    sanitize (first ++ String.singleton c ++ second) =
      sanitize first ++ "-" ++ sanitize second := by
  refine String.toList_inj.1 ?_
  have parts := separator.endsWord.lowercase_append separator.isSmall first second
  simp only [String.toList_append, toList_sanitize, parts, String.toList_singleton,
    List.map_append, List.map_singleton, separator.hyphenate_eq]
  rfl

/-- The characters are the same, or both stand between words. -/
def SameLetter (c d : Char) : Prop := c = d ∨ IsSeparator c ∧ IsSeparator d

/-- The names differ in nothing but spaces in the place of hyphens, and hyphens in the place of
spaces. -/
def Respaced (first second : String) : Prop := List.Forall₂ SameLetter first.toList second.toList

/-- A search finds the same in characters that differ in separators only. -/
theorem meetsLetter_congr {first second : List Char} (same : List.Forall₂ SameLetter first second) :
    meetsLetter first = meetsLetter second := by
  induction same with
  | nil => rfl
  | @cons c d first second here _ ih =>
    rcases here with rfl | ⟨separator, again⟩
    · exact Text.meetsLetter_cons_congr ih c
    · rw [separator.endsWord.meetsLetter_cons, again.endsWord.meetsLetter_cons]

/-- Characters that differ in separators only are the same when they are lowercase and have hyphens
for spaces. -/
theorem map_hyphenate_lowerFrom {before other first second : List Char}
    (alike : meetsLetter before = meetsLetter other)
    (same : List.Forall₂ SameLetter first second) :
    (lowerFrom before first).map hyphenate = (lowerFrom other second).map hyphenate := by
  induction same generalizing before other with
  | nil => rfl
  | @cons c d first second here rest ih =>
    rw [lowerFrom, lowerFrom, List.map_append, List.map_append]
    rcases here with rfl | ⟨separator, again⟩
    · rw [Text.lowerAt_congr alike (meetsLetter_congr rest),
        ih (Text.meetsLetter_cons_congr alike c)]
    · have stops : meetsLetter (c :: before) = meetsLetter (d :: other) := by
        rw [separator.endsWord.meetsLetter_cons, again.endsWord.meetsLetter_cons]
      rw [separator.isSmall.lowerAt_eq, again.isSmall.lowerAt_eq, ih stops, List.map_singleton,
        List.map_singleton, separator.hyphenate_eq, again.hyphenate_eq]

/-- Names that differ in separators only have the same sanitized form. -/
theorem Respaced.sanitize_eq {first second : String} (respaced : Respaced first second) :
    sanitize first = sanitize second := by
  refine String.toList_inj.1 ?_
  rw [toList_sanitize, toList_sanitize, Text.toList_lowercase, Text.toList_lowercase]
  exact map_hyphenate_lowerFrom rfl respaced

end HealthLedger.Name

namespace HealthLedger.State

open Name (sanitize Respaced)

namespace Operation

/-- The operation with another name for its check. A job goes by its name as it is given, and a
single call by that of its key. -/
def named (name : String) : Operation → Operation
  | .ensure _ space workload => .ensure name space workload
  | .read _ space workload => .read name space workload
  | .write pod _ space details => .write pod name space details
  | operation => operation

/-- An operation does the same under names with the same sanitized form, and addresses the same
document. -/
theorem named_congr {first second : String} (same : sanitize first = sanitize second)
    (operation : Operation) :
    (operation.named first).program = (operation.named second).program ∧
      (operation.named first).key = (operation.named second).key := by
  cases operation with
  | ensure | read | write =>
    simp only [named, program, key, State.ensure, State.read, State.write, same, and_self]
  | setPhase | ask => exact ⟨rfl, rfl⟩

end Operation

/-- A sanitized name is its own sanitized form, and the names that are their own sanitized forms are
those without spaces of which every character is small. An operation on a check is the same program
under the name of the check, under the sanitized name and under any other name with this sanitized
form: it makes the same calls, tells the same events and comes to the same, whatever store answers
and whatever the clock shows, and it addresses the same document. -/
theorem sanitized_name_suffices (name : String) :
    sanitize (sanitize name) = sanitize name ∧
      (sanitize name = name ↔ ' ' ∉ name.toList ∧ ∀ c ∈ name.toList, Text.IsSmall c) ∧
      (∀ operation : Operation,
        (operation.named (sanitize name)).program = (operation.named name).program) ∧
      ∀ other, sanitize other = sanitize name → ∀ operation : Operation,
        (operation.named other).program = (operation.named name).program ∧
          (operation.named other).key = (operation.named name).key := by
  have again := Name.sanitize_sanitize name
  exact ⟨again, Name.sanitize_eq_self_iff,
    fun operation => (Operation.named_congr again operation).1,
    fun _ same operation => Operation.named_congr same operation⟩

/-- A state is written under a name in capitals as it is under the name in small letters. -/
theorem capitals_suffice :
    sanitize "ΟΔΟΣ.Α İ" = sanitize "οδοσ.α i\u0307" ∧
      ∀ details, (State.Operation.write "pod" "ΟΔΟΣ.Α İ" "ops" details).program =
        (State.Operation.write "pod" "οδοσ.α i\u0307" "ops" details).program := by
  have same : sanitize "ΟΔΟΣ.Α İ" = sanitize "οδοσ.α i\u0307" := by decide +kernel
  exact ⟨same, fun details => ((sanitized_name_suffices "οδοσ.α i\u0307").2.2.2 "ΟΔΟΣ.Α İ" same
    (.write "pod" "" "ops" details)).1⟩

/-- Two names with a space or with a hyphen between them are sanitized on their own, with a hyphen
between them. So names that differ in spaces and hyphens only have one sanitized form, and every
operation on a check is the same program under them and addresses the same document. -/
theorem words_sanitized_apart :
    (∀ first second : String,
      sanitize (first ++ " " ++ second) = sanitize first ++ "-" ++ sanitize second ∧
        sanitize (first ++ "-" ++ second) = sanitize first ++ "-" ++ sanitize second) ∧
      ∀ name other : String, Respaced name other → sanitize name = sanitize other ∧
        ∀ operation : Operation,
          (operation.named name).program = (operation.named other).program ∧
            (operation.named name).key = (operation.named other).key := by
  refine ⟨fun first second => ⟨?_, ?_⟩, fun name other respaced => ⟨respaced.sanitize_eq, ?_⟩⟩
  · exact Name.IsSeparator.sanitize_append (.inl rfl) first second
  · exact Name.IsSeparator.sanitize_append (.inr rfl) first second
  · exact fun operation => Operation.named_congr respaced.sanitize_eq operation

/-- A final sigma stays final when the space behind it becomes a hyphen. -/
theorem sigma_respaced :
    Respaced "ΟΔΟΣ Α-Β" "ΟΔΟΣ-Α Β" ∧ sanitize "ΟΔΟΣ Α-Β" = sanitize "ΟΔΟΣ-Α Β" ∧
      sanitize "ΟΔΟΣ Α-Β" = "οδος-α-β" := by
  have respaced : Respaced "ΟΔΟΣ Α-Β" "ΟΔΟΣ-Α Β" := by
    simp [Respaced, Name.SameLetter, Name.IsSeparator]
  exact ⟨respaced, (words_sanitized_apart.2 _ _ respaced).1, by decide +kernel⟩

end HealthLedger.State
