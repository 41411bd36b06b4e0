import HealthLedger.Http.Url

/-!
# Addresses that are read as they are written

A reader of addresses forgives much, and so an address may not be read as it was written. A
plain address is: an origin with a path of segments whose characters have no meaning of their
own and which do not move within the path. The address of such a text has exactly the segments
that were written (`Url.parse?_plain`), and it can be asked if and only if it is not too long
(`Url.ofText?_plain`).
-/

namespace HealthLedger.Http

namespace Url

/-- What holds of every character when they are gone through holds of each of them. -/
theorem forall_mem_of_all {holds : Char → Prop} [DecidablePred holds] {chars : List Char}
    (all : chars.all (fun c => decide (holds c)) = true) : ∀ c ∈ chars, holds c :=
  fun c found => of_decide_eq_true (List.all_eq_true.1 all c found)

/-- Whether a character stands for itself in a segment. -/
def isPlain (c : Char) : Bool := c.isLower || c.isDigit || c = '-' || c = '.'

/-- A plain character is no other character. -/
theorem ne_of_isPlain {c other : Char} (plain : isPlain c = true)
    (special : isPlain other = false) : c ≠ other := by
  rintro rfl
  rw [special] at plain
  contradiction

/-- A plain character is a visible character of ASCII. -/
theorem isPlain_bounds {c : Char} (plain : isPlain c = true) :
    0x20 < c.toNat ∧ c.toNat < 0x7F := by
  simp only [isPlain, Bool.or_eq_true, decide_eq_true_eq] at plain
  rcases plain with ((lower | digit) | rfl) | rfl
  · have bounds := Bool.and_eq_true_iff.1 lower
    have low : 97 ≤ c.toNat := UInt32.le_iff_toNat_le.1 (of_decide_eq_true bounds.1)
    have high : c.toNat ≤ 122 := UInt32.le_iff_toNat_le.1 (of_decide_eq_true bounds.2)
    omega
  · have bounds := Bool.and_eq_true_iff.1 digit
    have low : 48 ≤ c.toNat := UInt32.le_iff_toNat_le.1 (of_decide_eq_true bounds.1)
    have high : c.toNat ≤ 57 := UInt32.le_iff_toNat_le.1 (of_decide_eq_true bounds.2)
    omega
  · decide
  · decide

/-- A plain character does not separate segments. -/
theorem isSlash_of_isPlain {c : Char} (plain : isPlain c = true) : isSlash c = false := by
  have slash : c ≠ '/' := ne_of_isPlain plain (by decide)
  have backslash : c ≠ '\\' := ne_of_isPlain plain (by decide)
  simp [isSlash, slash, backslash]

/-- A plain character does not end a path. -/
theorem endsPath_of_isPlain {c : Char} (plain : isPlain c = true) : endsPath c = false := by
  have question : c ≠ '?' := ne_of_isPlain plain (by decide)
  have number : c ≠ '#' := ne_of_isPlain plain (by decide)
  simp [endsPath, question, number]

/-- Plain characters are not encoded. -/
theorem encode_plain {chars : List Char} (plain : ∀ c ∈ chars, isPlain c = true) :
    Text.Percent.encode reservedInPath chars = chars := by
  induction chars with
  | nil => rfl
  | cons c rest ih =>
    have here := plain c List.mem_cons_self
    have bounds := isPlain_bounds here
    have free : reservedInPath.contains c = false := by
      refine Bool.eq_false_iff.2 fun found => ?_
      have special : ∀ reserved ∈ reservedInPath, isPlain reserved = false :=
        forall_mem_of_all (by decide)
      exact ne_of_isPlain here (special c (List.contains_iff_mem.1 found)) rfl
    have one : Text.Percent.encodeChar reservedInPath c = [c] := by
      rw [Text.Percent.encodeChar, free]
      refine if_neg ?_
      simp only [Bool.or_false, Bool.or_eq_true, decide_eq_true_eq]
      omega
    have others := ih fun other found => plain other (List.mem_cons_of_mem _ found)
    rw [Text.Percent.encode, List.flatMap_cons, one, ← Text.Percent.encode, others]
    rfl

/-- A segment of plain characters that does not move within the path. -/
structure IsSegment (segment : List Char) : Prop where
  /-- Every character stands for itself. -/
  plain : ∀ c ∈ segment, isPlain c = true
  /-- The segment does not name the place where it stands. -/
  here : segment ≠ ['.']
  /-- The segment does not name the place above. -/
  above : segment ≠ ['.', '.']

/-- In plain characters no dot is encoded. -/
theorem plainDots_plain {chars : List Char} (plain : ∀ c ∈ chars, isPlain c = true) :
    plainDots chars = chars := by
  induction chars with
  | nil => rfl
  | cons c rest ih =>
    have percent : c ≠ '%' := ne_of_isPlain (plain c List.mem_cons_self) (by decide)
    have others := ih fun other found => plain other (List.mem_cons_of_mem _ found)
    rw [plainDots.eq_3, others]
    · intro rest same
      exact absurd same percent
    · intro rest same
      exact absurd same percent

end Url

/-- A text that can name a document or a namespace: small letters and digits of ASCII and hyphens,
at least one of them. -/
structure IsLabel (text : String) : Prop where
  /-- There is a character. -/
  nonempty : text ≠ ""
  /-- Every character is a small letter, a digit or a hyphen. -/
  chars : ∀ c ∈ text.toList, c.isLower = true ∨ c.isDigit = true ∨ c = '-'

namespace Url

/-- A text without dots is a plain segment if its characters are plain. -/
theorem isSegment_of_no_dot {segment : List Char}
    (plain : ∀ c ∈ segment, isPlain c = true ∧ c ≠ '.') : IsSegment segment := by
  refine ⟨fun c found => (plain c found).1, ?_, ?_⟩
  · rintro rfl
    exact (plain '.' List.mem_cons_self).2 rfl
  · rintro rfl
    exact (plain '.' List.mem_cons_self).2 rfl

/-- A label is a plain segment. -/
theorem isSegment_of_label {text : String} (label : IsLabel text) : IsSegment text.toList := by
  refine isSegment_of_no_dot fun c found => ?_
  rcases label.chars c found with lower | digit | rfl
  · refine ⟨by simp [isPlain, lower], ?_⟩
    rintro rfl
    contradiction
  · refine ⟨by simp [isPlain, digit], ?_⟩
    rintro rfl
    contradiction
  · decide

/-- A plain segment stays in the path. -/
theorem IsSegment.stays {segment : List Char} (plain : IsSegment segment) :
    isAbove segment = false ∧ isHere segment = false := by
  rw [isAbove, isHere, plainDots_plain plain.plain]
  exact ⟨decide_eq_false plain.above, decide_eq_false plain.here⟩

/-- A walk over segments that do not move appends them. -/
theorem walk_still {moves : List (List Char)}
    (still : ∀ segment ∈ moves, isAbove segment = false ∧ isHere segment = false)
    (path : List (List Char)) : walk path moves = path ++ moves := by
  induction moves generalizing path with
  | nil => simp [walk]
  | cons segment rest ih =>
    have stays := still segment List.mem_cons_self
    have others := ih fun other found => still other (List.mem_cons_of_mem _ found)
    cases rest with
    | nil => simp [walk, stays.1, stays.2]
    | cons next more =>
      rw [walk, stays.1, stays.2]
      · simp [others]
      · simp

/-- A walk over plain segments appends them. -/
theorem walk_plain {moves : List (List Char)} (plain : ∀ segment ∈ moves, IsSegment segment)
    (path : List (List Char)) : walk path moves = path ++ moves :=
  walk_still (fun segment found => (plain segment found).stays) path

/-- The text of a path. -/
def pathText (path : List (List Char)) : List Char := path.flatMap ('/' :: ·)

/-- The pieces of a text whose characters separate nothing. -/
theorem segments_of_no_slash {chars : List Char} (none : ∀ c ∈ chars, isSlash c = false) :
    segments chars = [chars] := by
  induction chars with
  | nil => rfl
  | cons c rest ih =>
    have others := ih fun other found => none other (List.mem_cons_of_mem _ found)
    rw [segments, none c List.mem_cons_self, others]
    rfl

/-- The pieces in front of a slash and behind it. -/
theorem segments_append (chars rest : List Char) :
    segments (chars ++ '/' :: rest) = segments chars ++ segments rest := by
  induction chars with
  | nil => rfl
  | cons c more ih =>
    rw [List.cons_append, segments, segments, ih]
    cases pieces : segments more with
    | nil => exact absurd pieces (segments_ne_nil more)
    | cons first others => split <;> rfl

/-- A piece ends at a slash. -/
theorem segments_append_slash {chars : List Char} (none : ∀ c ∈ chars, isSlash c = false)
    (rest : List Char) : segments (chars ++ '/' :: rest) = chars :: segments rest := by
  rw [segments_append, segments_of_no_slash none, List.singleton_append]

/-- The pieces of the text of a path are its segments. -/
theorem segments_pathText {first : List Char} {path : List (List Char)}
    (plain : ∀ segment ∈ first :: path, IsSegment segment) :
    segments (first ++ pathText path) = first :: path := by
  induction path generalizing first with
  | nil =>
    have whole := plain first List.mem_cons_self
    rw [pathText, List.flatMap_nil, List.append_nil]
    exact segments_of_no_slash fun c found => isSlash_of_isPlain (whole.plain c found)
  | cons next rest ih =>
    have whole := plain first List.mem_cons_self
    have others := ih fun segment found => plain segment (List.mem_cons_of_mem _ found)
    rw [pathText, List.flatMap_cons, ← pathText, List.cons_append,
      segments_append_slash fun c found => isSlash_of_isPlain (whole.plain c found), others]

/-- The text of a path of plain segments is read as the path. -/
theorem pathOf_pathText {path : List (List Char)} (some_segment : path ≠ [])
    (plain : ∀ segment ∈ path, IsSegment segment) : pathOf (pathText path) = path := by
  cases path with
  | nil => exact absurd rfl some_segment
  | cons first rest =>
    have encoded : (first :: rest).map (Text.Percent.encode reservedInPath) = first :: rest := by
      refine (List.map_congr_left fun segment found => ?_).trans (List.map_id _)
      exact encode_plain (plain segment found).plain
    change walk [] ((segments (first ++ pathText rest)).map _) = _
    rw [segments_pathText plain, encoded, walk_plain plain, List.nil_append]

/-- Every character of the text of a path of plain segments is a slash or plain. -/
theorem slash_or_plain {path : List (List Char)} (plain : ∀ segment ∈ path, IsSegment segment) :
    ∀ c ∈ pathText path, c = '/' ∨ isPlain c = true := by
  intro c found
  obtain ⟨segment, inside, within⟩ := List.mem_flatMap.1 found
  rcases List.mem_cons.1 within with slash | within
  · exact .inl slash
  · exact .inr ((plain segment inside).plain c within)

end Url

/-- The text of a port behind a host. -/
def portText : Option Nat → List Char
  | some port => ':' :: (toString port).toList
  | none => []

/-- A scheme, a host and a port whose text is read as what was written. -/
structure Origin where
  /-- The scheme. -/
  scheme : Scheme
  /-- The host. -/
  host : List Char
  /-- The port, unless it is the one of the scheme. -/
  port : Option Nat
  /-- The host and the port are read from their text. -/
  readable : Url.hostAndPort? scheme (host ++ portText port) = some (host, port)
  /-- Every character of this text is visible and belongs to it. -/
  visible : ∀ c ∈ host ++ portText port, 0x20 < c.toNat ∧ Url.endsAuthority c = false

namespace Origin

/-- The host with the port. -/
def authority (origin : Origin) : List Char := origin.host ++ portText origin.port

/-- The text of an origin. -/
def text (origin : Origin) : List Char :=
  origin.scheme.name.toList ++ "://".toList ++ origin.authority

/-- The address of a path at an origin. -/
def url (origin : Origin) (path : List (List Char)) : Url :=
  ⟨origin.scheme, origin.host, origin.port, path, none, none⟩

/-- The text of an address is the origin with the path. -/
theorem text_url (origin : Origin) (path : List (List Char)) :
    (origin.url path).text = origin.text ++ Url.pathText path := by
  cases port : origin.port <;>
    simp [url, Url.text, Url.target, text, authority, portText, port, Url.pathText]

/-- There is a host. -/
theorem authority_ne_nil (origin : Origin) : origin.authority ≠ [] := by
  intro empty
  have read := origin.readable
  rw [authority] at empty
  rw [empty] at read
  contradiction

/-- The name of a scheme holds no colon and only visible characters. -/
theorem scheme_name_visible (scheme : Scheme) :
    ∀ c ∈ scheme.name.toList, 0x20 < c.toNat ∧ c ≠ ':' := by
  cases scheme <;> exact Url.forall_mem_of_all (by decide)

end Origin

namespace Url

/-- A visible character is neither a margin nor a break. -/
theorem not_isMargin_of_visible {c : Char} (visible : 0x20 < c.toNat) :
    isMargin c = false ∧ isBreak c = false := by
  constructor
  · simp only [isMargin, decide_eq_false_iff_not]
    omega
  · have tab : c ≠ '\t' := by
      rintro rfl
      contradiction
    have line : c ≠ '\n' := by
      rintro rfl
      contradiction
    have start : c ≠ '\r' := by
      rintro rfl
      contradiction
    simp [isBreak, tab, line, start]

/-- Nothing is dropped from a list without items of a kind. -/
private theorem dropWhile_eq_self {α : Type} {p : α → Bool} {list : List α}
    (none : ∀ item ∈ list, p item = false) : list.dropWhile p = list := by
  cases list with
  | nil => rfl
  | cons first rest => rw [List.dropWhile_cons, none first List.mem_cons_self]; rfl

/-- All characters of a visible text count. -/
theorem significant_of_visible {text : List Char} (visible : ∀ c ∈ text, 0x20 < c.toNat) :
    significant text = text := by
  have started : text.dropWhile isMargin = text :=
    dropWhile_eq_self fun c found => (not_isMargin_of_visible (visible c found)).1
  have ended : text.reverse.dropWhile isMargin = text.reverse :=
    dropWhile_eq_self fun c found =>
      (not_isMargin_of_visible (visible c (List.mem_reverse.1 found))).1
  rw [significant, started, ended, List.reverse_reverse]
  refine List.filter_eq_self.2 fun c found => ?_
  rw [(not_isMargin_of_visible (visible c found)).2]
  rfl

/-- Characters of a kind in front of another one are taken and dropped as a whole. -/
theorem span_append {p : Char → Bool} (first rest : List Char)
    (taken : ∀ c ∈ first, p c = true) (stop : ∀ c ∈ rest.head?, p c = false) :
    (first ++ rest).takeWhile p = first ∧ (first ++ rest).dropWhile p = rest := by
  rw [List.takeWhile_append_of_pos taken, List.dropWhile_append_of_pos taken]
  cases rest with
  | nil => simp
  | cons c more =>
    have ends := stop c rfl
    simp [ends]

/-- Nothing of an origin with a path of plain segments is trimmed. -/
theorem visible_plain (origin : Origin) {path : List (List Char)}
    (plain : ∀ segment ∈ path, IsSegment segment) :
    ∀ c ∈ origin.text ++ pathText path, 0x20 < c.toNat := by
  intro c found
  simp only [Origin.text, List.mem_append] at found
  rcases found with ((name | colon) | authority) | inside
  · exact (Origin.scheme_name_visible _ c name).1
  · have slashes : ∀ c ∈ "://".toList, 0x20 < c.toNat := forall_mem_of_all (by decide)
    exact slashes c colon
  · exact (origin.visible c authority).1
  · rcases slash_or_plain plain c inside with rfl | char
    · decide
    · exact (isPlain_bounds char).1

/-- The name of a scheme reaches to the colon. -/
theorem span_scheme (scheme : Scheme) (rest : List Char) :
    (scheme.name.toList ++ ':' :: rest).takeWhile (· ≠ ':') = scheme.name.toList ∧
      (scheme.name.toList ++ ':' :: rest).dropWhile (· ≠ ':') = ':' :: rest := by
  refine span_append _ _ (fun c found => ?_) fun c found => ?_
  · exact decide_eq_true (Origin.scheme_name_visible _ c found).2
  · obtain rfl := Option.some.inj found
    rfl

/-- The slashes reach to the authority. -/
theorem dropWhile_slashes (origin : Origin) (rest : List Char) :
    ('/' :: '/' :: (origin.authority ++ rest)).dropWhile isSlash = origin.authority ++ rest := by
  cases host : origin.authority with
  | nil => exact absurd host origin.authority_ne_nil
  | cons c others =>
    have inside : c ∈ origin.authority := host ▸ List.mem_cons_self
    have slash : isSlash c = false := (Bool.or_eq_false_iff.1 (origin.visible c inside).2).1
    simp [slash, show isSlash '/' = true from rfl]

/-- The authority reaches to the path. -/
theorem span_authority (origin : Origin) {path : List (List Char)} (some_segment : path ≠ []) :
    (origin.authority ++ pathText path).takeWhile (!endsAuthority ·) = origin.authority ∧
      (origin.authority ++ pathText path).dropWhile (!endsAuthority ·) = pathText path := by
  refine span_append _ _ (fun c found => ?_) fun c found => ?_
  · rw [(origin.visible c found).2]
    rfl
  · cases path with
    | nil => exact absurd rfl some_segment
    | cons first rest =>
      obtain rfl := Option.some.inj found
      rfl

/-- A path of plain segments reaches to the end. -/
theorem span_pathText {path : List (List Char)} (plain : ∀ segment ∈ path, IsSegment segment) :
    (pathText path).takeWhile (!endsPath ·) = pathText path ∧
      (pathText path).dropWhile (!endsPath ·) = [] := by
  have parts := span_append (p := (!endsPath ·)) (pathText path) [] (fun c found => ?_) (by simp)
  · rwa [List.append_nil] at parts
  · rcases slash_or_plain plain c found with rfl | char
    · rfl
    · rw [endsPath_of_isPlain char]
      rfl

/-- An origin with a path of plain segments is read as it was written. -/
theorem parse?_plain (origin : Origin) {path : List (List Char)} (some_segment : path ≠ [])
    (plain : ∀ segment ∈ path, IsSegment segment) :
    parse? (origin.text ++ pathText path) = some (origin.url path) := by
  -- The text falls into the name of the scheme, the slashes, the authority and the path.
  have text : origin.text ++ pathText path = origin.scheme.name.toList ++
      ':' :: '/' :: '/' :: (origin.authority ++ pathText path) := by
    simp [Origin.text]
  have scheme : Scheme.ofName? origin.scheme.name.toList = some origin.scheme := by
    cases origin.scheme <;> rfl
  have host : hostAndPort? origin.scheme origin.authority = some (origin.host, origin.port) :=
    origin.readable
  rw [parse?, significant_of_visible (visible_plain origin plain), text]
  simp only [span_scheme, scheme, after?, dropWhile_slashes, span_authority origin some_segment,
    span_pathText plain, host, bind, Option.bind, if_pos]
  simp [pathOf_pathText some_segment plain, Origin.url]

/-- An origin with a path of plain segments can be asked if and only if it is not too long. -/
theorem ofText?_plain (origin : Origin) {path : List (List Char)} (some_segment : path ≠ [])
    (plain : ∀ segment ∈ path, IsSegment segment) {text : String}
    (written : text.toList = origin.text ++ pathText path) :
    ofText? text = if text.length ≤ maxLength then some (origin.url path) else none := by
  have length : (origin.url path).text.length = text.length := by
    rw [origin.text_url, ← written, String.length_toList]
  rw [ofText?, written, parse?_plain origin some_segment plain]
  simp only [Option.filter, length, decide_eq_true_eq]

end Url

end HealthLedger.Http
