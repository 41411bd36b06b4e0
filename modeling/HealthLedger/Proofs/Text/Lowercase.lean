import HealthLedger.Text.Lowercase

/-!
# What lowercasing does to a text

A character is small if lowercasing leaves it as it is. The letters that the runs of the table lead
to lie in no run (`CaseRun.misses_of_mem`), and neither they nor the two characters with rules of
their own become anything else than small characters. So a text that was lowercased is made of them
(`isSmall_of_mem_lowercase`), and a text stays as it is exactly if it is made of them
(`lowercase_eq_self_iff`). A word ends at a character that no search for a letter passes over and
that is no letter: what stands before it and what stands behind it are lowercased on their own
(`EndsWord.lowercase_append`), a final sigma included.
-/

namespace HealthLedger.Text

namespace CaseRun

/-- The code point that a run leads to. -/
def image (run : CaseRun) (point : Nat) : Nat := (point + run.shift).toNat

/-- Whether no code point of another run is one that the run leads to. Runs that overlap are made of
every other code point, and those of one lie between those of the other. -/
def misses (run other : CaseRun) : Bool :=
  (run.image run.last).blt other.first || other.last.blt (run.image run.first) ||
    other.step == 2 && (run.step == 2 || run.first == run.last) &&
      (run.image run.first + other.first) % 2 == 1

/-- Whether the run leads to characters behind the signs of ASCII, and not to the capital I with a
dot. -/
def lands (run : CaseRun) : Bool :=
  Nat.ble 0x61 (run.image run.first) &&
    ((run.image run.last).blt 0xD800 ||
      Nat.blt 0xDFFF (run.image run.first) && (run.image run.last).blt 0x110000) &&
    ((run.image run.last).blt 0x130 || Nat.blt 0x130 (run.image run.first))

/-- No run of the table leads to a code point of any run. -/
theorem misses_of_mem {run other : CaseRun} (inTable : run ∈ caseRuns)
    (alsoInTable : other ∈ caseRuns) : run.misses other = true := by
  -- Only the ends of the runs are compared, so the table is checked without its code points.
  have all : (caseRuns.all fun run => caseRuns.all run.misses) = true := by decide +kernel
  exact List.all_eq_true.1 (List.all_eq_true.1 all run inTable) other alsoInTable

/-- Every run of the table leads to characters. -/
theorem lands_of_mem {run : CaseRun} (inTable : run ∈ caseRuns) : run.lands = true := by
  have all : caseRuns.all lands = true := by decide +kernel
  exact List.all_eq_true.1 all run inTable

/-- A code point of a run lies between its ends, a number of steps behind the first. -/
theorem contains_iff {run : CaseRun} {point : Nat} :
    run.contains point = true ↔
      run.first ≤ point ∧ point ≤ run.last ∧ (point - run.first) % run.step = 0 := by
  simp [contains, and_assoc]

/-- Where a run leads to. -/
structure Lands (run : CaseRun) (point : Nat) : Prop where
  /-- The signs of ASCII lie before it. -/
  visible : 0x61 ≤ run.image point
  /-- It is a character. -/
  valid : (run.image point).isValidChar
  /-- It is not the capital I with a dot. -/
  undotted : run.image point ≠ 0x130

/-- Where a code point of a run is led to. -/
theorem Lands.of_mem {run : CaseRun} (inTable : run ∈ caseRuns) {point : Nat}
    (belongs : run.contains point = true) : run.Lands point := by
  obtain ⟨low, high, -⟩ := contains_iff.1 belongs
  have checked := lands_of_mem inTable
  simp only [lands, Bool.and_eq_true, Bool.or_eq_true, Nat.ble_eq, Nat.blt_eq] at checked
  obtain ⟨⟨visible, valid⟩, undotted⟩ := checked
  have lowest : run.image run.first ≤ run.image point := by
    unfold image
    omega
  have highest : run.image point ≤ run.image run.last := by
    unfold image
    omega
  refine ⟨by omega, ?_, by omega⟩
  show run.image point < 0xD800 ∨ 0xDFFF < run.image point ∧ run.image point < 0x110000
  omega

/-- A run that misses another one leads to none of its code points. -/
theorem not_contains_image {run other : CaseRun} (misses : run.misses other = true) {point : Nat}
    (belongs : run.contains point = true) (lands : run.Lands run.first) :
    other.contains (run.image point) = false := by
  obtain ⟨low, high, steps⟩ := contains_iff.1 belongs
  have visible := lands.visible
  refine Bool.eq_false_iff.2 fun inside => ?_
  obtain ⟨lowOther, highOther, stepsOther⟩ := contains_iff.1 inside
  simp only [CaseRun.misses, Bool.and_eq_true, Bool.or_eq_true, Nat.blt_eq, beq_iff_eq] at misses
  unfold image at *
  rcases misses with (below | above) | ⟨⟨everyOther, spaced⟩, odd⟩
  · omega
  · omega
  · rw [everyOther] at stepsOther
    rcases spaced with everyOtherToo | single
    · rw [everyOtherToo] at steps
      omega
    · omega

/-- The letter of a code point of a run is the one that the run leads to. -/
theorem toNat_lower {run : CaseRun} {c : Char} (lands : run.Lands c.toNat) :
    (run.lower c).toNat = run.image c.toNat := by
  show (Char.ofNat (run.image c.toNat)).toNat = _
  rw [Char.ofNat, dif_pos lands.valid]
  rfl

end CaseRun

/-- A character is its own lowercase letter, or some run of the table leads from it to this
letter. -/
theorem simpleLower_cases (c : Char) :
    simpleLower c = c ∨
      ∃ run ∈ caseRuns, run.contains c.toNat = true ∧ simpleLower c = run.lower c := by
  unfold simpleLower
  cases found : caseRuns.find? (·.contains c.toNat) with
  | none => exact .inl rfl
  | some run =>
    have belongs : run.contains c.toNat = true :=
      List.find?_some (p := fun run => CaseRun.contains run c.toNat) found
    exact .inr ⟨run, List.mem_of_find?_eq_some found, belongs, rfl⟩

/-- A lowercase letter is its own lowercase letter. -/
theorem simpleLower_simpleLower (c : Char) : simpleLower (simpleLower c) = simpleLower c := by
  rcases simpleLower_cases c with same | ⟨run, inTable, belongs, same⟩
  · rw [same, same]
  · -- What a run misses is known from where its first code point leads to.
    have first : run.contains run.first = true := by
      obtain ⟨low, high, -⟩ := CaseRun.contains_iff.1 belongs
      exact CaseRun.contains_iff.2 ⟨Nat.le_refl _, Nat.le_trans low high, by simp⟩
    have absent : caseRuns.find? (·.contains (run.lower c).toNat) = none := by
      refine List.find?_eq_none.2 fun other alsoInTable => ?_
      rw [CaseRun.toNat_lower (.of_mem inTable belongs), CaseRun.not_contains_image
        (CaseRun.misses_of_mem inTable alsoInTable) belongs (.of_mem inTable first)]
      exact Bool.noConfusion
    rw [same, simpleLower, absent]

/-- The character is its own lowercase form when it stands alone. -/
def IsSmall (c : Char) : Prop := lowerAt [] c [] = [c]

instance (c : Char) : Decidable (IsSmall c) := inferInstanceAs (Decidable (_ = _))

/-- The small characters are those with a simple mapping that is their own lowercase letter. -/
theorem isSmall_iff {c : Char} : IsSmall c ↔ c ≠ 'İ' ∧ simpleLower c = c := by
  unfold IsSmall lowerAt
  split
  · next sigma =>
    subst sigma
    exact iff_of_false (by decide) (fun small => absurd small.2 (by decide))
  · split
    · next dotted => simp [dotted]
    · next plain => simp [plain]

/-- A small character is its own lowercase form wherever it stands. -/
theorem IsSmall.lowerAt_eq {c : Char} (small : IsSmall c) (before after : List Char) :
    lowerAt before c after = [c] := by
  obtain ⟨plain, same⟩ := isSmall_iff.1 small
  have notSigma : c ≠ 'Σ' := by
    rintro rfl
    exact absurd same (by decide)
  rw [lowerAt, if_neg notSigma, if_neg plain, same]

/-- The lowercase letter of a character that is not the capital I with a dot is small. -/
theorem isSmall_simpleLower {c : Char} (plain : c ≠ 'İ') : IsSmall (simpleLower c) := by
  refine isSmall_iff.2 ⟨fun dotted => ?_, simpleLower_simpleLower c⟩
  rcases simpleLower_cases c with same | ⟨run, inTable, belongs, same⟩
  · exact plain (same.symm.trans dotted)
  · have lands := CaseRun.Lands.of_mem inTable belongs
    have point := CaseRun.toNat_lower lands
    rw [← same, dotted] at point
    exact lands.undotted point.symm

/-- A lowercase form is made of small characters. -/
theorem isSmall_of_mem_lowerAt {before after : List Char} {c d : Char}
    (found : d ∈ lowerAt before c after) : IsSmall d := by
  unfold lowerAt lowerSigma at found
  split at found
  · obtain rfl := List.mem_singleton.1 found
    split <;> decide
  · split at found
    · simp only [List.mem_cons, List.not_mem_nil, or_false] at found
      rcases found with rfl | rfl <;> decide
    · next plain =>
      obtain rfl := List.mem_singleton.1 found
      exact isSmall_simpleLower plain

/-- What was lowercased is made of small characters. -/
theorem isSmall_of_mem_lowerFrom {before chars : List Char} :
    ∀ c ∈ lowerFrom before chars, IsSmall c := by
  induction chars generalizing before with
  | nil => exact fun _ found => nomatch found
  | cons c rest ih =>
    exact List.forall_mem_append.2 ⟨fun _ found => isSmall_of_mem_lowerAt found, ih⟩

/-- Small characters stay as they are. -/
theorem lowerFrom_of_isSmall {before chars : List Char} (small : ∀ c ∈ chars, IsSmall c) :
    lowerFrom before chars = chars := by
  induction chars generalizing before with
  | nil => rfl
  | cons c rest ih =>
    obtain ⟨first, others⟩ := List.forall_mem_cons.1 small
    rw [lowerFrom, first.lowerAt_eq, ih others]
    rfl

/-- The characters of a text that was lowercased. -/
@[simp] theorem toList_lowercase (text : String) :
    (lowercase text).toList = lowerFrom [] text.toList := String.toList_ofList

/-- A text that was lowercased is made of small characters. -/
theorem isSmall_of_mem_lowercase {text : String} : ∀ c ∈ (lowercase text).toList, IsSmall c := by
  rw [toList_lowercase]
  exact isSmall_of_mem_lowerFrom

/-- A text stays as it is when it is lowercased if and only if all its characters are small. -/
theorem lowercase_eq_self_iff {text : String} :
    lowercase text = text ↔ ∀ c ∈ text.toList, IsSmall c := by
  constructor
  · intro same
    rw [← same]
    exact isSmall_of_mem_lowercase
  · intro small
    rw [lowercase, lowerFrom_of_isSmall small, String.ofList_toList]

/-- A search for a letter ends at the character and finds none. -/
def EndsWord (c : Char) : Prop := isCaseIgnorable c = false ∧ isCased c = false

instance (c : Char) : Decidable (EndsWord c) := inferInstanceAs (Decidable (_ ∧ _))

/-- A search that ends at the first character finds no letter. -/
theorem EndsWord.meetsLetter_cons {c : Char} (ends : EndsWord c) (rest : List Char) :
    meetsLetter (c :: rest) = false := by
  rw [meetsLetter, List.dropWhile_cons_of_neg (by simp [ends.1])]
  exact ends.2

/-- What a search finds behind a character depends on nothing but what it finds there. -/
theorem meetsLetter_cons_congr {first second : List Char}
    (same : meetsLetter first = meetsLetter second) (c : Char) :
    meetsLetter (c :: first) = meetsLetter (c :: second) := by
  unfold meetsLetter at *
  by_cases passed : isCaseIgnorable c = true
  · rw [List.dropWhile_cons_of_pos passed, List.dropWhile_cons_of_pos passed]
    exact same
  · rw [List.dropWhile_cons_of_neg passed, List.dropWhile_cons_of_neg passed]

/-- The search does not look behind the end of a word. -/
theorem EndsWord.meetsLetter_append {c : Char} (ends : EndsWord c) (chars rest : List Char) :
    meetsLetter (chars ++ c :: rest) = meetsLetter chars := by
  induction chars with
  | nil => exact ends.meetsLetter_cons rest
  | cons first chars ih => exact meetsLetter_cons_congr ih first

/-- The lowercase form of a character depends on nothing but what the two searches find. -/
theorem lowerAt_congr {before other after behind : List Char}
    (same : meetsLetter before = meetsLetter other)
    (alike : meetsLetter after = meetsLetter behind) (c : Char) :
    lowerAt before c after = lowerAt other c behind := by
  unfold lowerAt lowerSigma
  rw [same, alike]

/-- The lowercase form of characters depends on nothing but what the search before them finds. -/
theorem lowerFrom_congr {before other : List Char}
    (same : meetsLetter before = meetsLetter other) (chars : List Char) :
    lowerFrom before chars = lowerFrom other chars := by
  induction chars generalizing before other with
  | nil => rfl
  | cons c rest ih =>
    rw [lowerFrom, lowerFrom, lowerAt_congr same rfl, ih (meetsLetter_cons_congr same c)]

/-- What stands before the end of a word and what stands behind it are lowercased on their own. -/
theorem EndsWord.lowerFrom_append {c : Char} (ends : EndsWord c) (small : IsSmall c)
    (before chars rest : List Char) :
    lowerFrom before (chars ++ c :: rest) = lowerFrom before chars ++ c :: lowerFrom [] rest := by
  induction chars generalizing before with
  | nil =>
    have none : meetsLetter (c :: before) = meetsLetter [] := ends.meetsLetter_cons before
    rw [List.nil_append, lowerFrom, lowerFrom, small.lowerAt_eq, lowerFrom_congr none]
    rfl
  | cons first chars ih =>
    -- The search behind the first character ends with its word, whatever comes after it.
    have within := lowerAt_congr (Eq.refl (meetsLetter before)) (ends.meetsLetter_append chars rest)
      first
    rw [List.cons_append, lowerFrom, within, ih, lowerFrom, List.append_assoc]

/-- A text with the end of a word in it is lowercased in two parts. -/
theorem EndsWord.lowercase_append {c : Char} (ends : EndsWord c) (small : IsSmall c)
    (first second : String) :
    lowercase (first ++ String.singleton c ++ second) =
      lowercase first ++ String.singleton c ++ lowercase second := by
  refine String.toList_inj.1 ?_
  have parts := ends.lowerFrom_append small [] first.toList second.toList
  simpa using parts

end HealthLedger.Text
