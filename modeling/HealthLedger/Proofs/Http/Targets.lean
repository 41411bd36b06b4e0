import HealthLedger.Proofs.Http.Address
import HealthLedger.Proofs.Text.Percent

/-!
# What is asked for below a collection

The address of an object is the address of its collection with a slash and a name behind it, and
nothing of the name is encoded before the address is read. What is asked for in the end depends on
the name alone if the name is intact (`Url.Intact`): no character is dropped from it, begins a
fragment, is taken for a slash or may belong to an encoding, and no segment of it moves within the
path. Then two names below one collection are never asked for in the same words
(`Url.target_inj`). A name that is plain is intact (`Url.IsSegment.intact`).
-/

namespace HealthLedger.Http.Url

open Text.Percent (encode)

section Spans

variable {p : Char → Bool}

/-- What follows a character that ends a span changes nothing of the span. -/
theorem span_within {first : List Char} {c : Char} (found : c ∈ first) (stops : p c = false)
    (rest : List Char) :
    (first ++ rest).takeWhile p = first.takeWhile p ∧
      (first ++ rest).dropWhile p = first.dropWhile p ++ rest := by
  induction first with
  | nil => contradiction
  | cons d more ih =>
    cases taken : p d with
    | false => simp [taken]
    | true =>
      obtain rfl | found := List.mem_cons.1 found
      · rw [stops] at taken
        contradiction
      · simp [taken, ih found]

/-- A span may take in everything. -/
theorem span_whole {first : List Char} (all : ∀ c ∈ first, p c = true) :
    first.takeWhile p = first ∧ first.dropWhile p = [] := by
  have whole := span_append first [] all nofun
  rwa [List.append_nil] at whole

/-- A span goes on at most to a character that ends it. -/
theorem span_behind (first : List Char) {rest : List Char}
    (stops : ∀ c ∈ rest.head?, p c = false) :
    (first ++ rest).takeWhile p = first.takeWhile p ∧
      (first ++ rest).dropWhile p = first.dropWhile p ++ rest := by
  by_cases ends : ∃ c ∈ first, p c = false
  · obtain ⟨c, found, stops⟩ := ends
    exact span_within found stops rest
  · have all : ∀ c ∈ first, p c = true := by simpa using ends
    rw [(span_whole all).1, (span_whole all).2]
    exact span_append first rest all stops

/-- A character that does not occur is not met. -/
theorem all_ne {chars : List Char} {c : Char} (absent : c ∉ chars) :
    ∀ d ∈ chars, decide (d ≠ c) = true := by
  intro d found
  refine decide_eq_true ?_
  rintro rfl
  exact absent found

end Spans

/-- Nothing of a name is lost or read as something else behind an address. -/
structure Intact (name : List Char) : Prop where
  /-- No character is dropped within the name. -/
  breaks : ∀ c ∈ name, isBreak c = false
  /-- No character is dropped at its end. -/
  ends : ∀ c ∈ name.getLast?, isMargin c = false
  /-- No character begins a fragment, is taken for a slash or may belong to an encoding. -/
  marks : '#' ∉ name ∧ '\\' ∉ name ∧ '%' ∉ name
  /-- No segment moves within the path. -/
  still : ∀ segment ∈ segments (name.takeWhile (!endsPath ·)),
    segment ≠ ['.'] ∧ segment ≠ ['.', '.']

instance (name : List Char) : Decidable (Intact name) :=
  decidable_of_iff
    (name.all (!isBreak ·) = true ∧ name.getLast?.all (!isMargin ·) = true ∧
      ('#' ∉ name ∧ '\\' ∉ name ∧ '%' ∉ name) ∧
      (segments (name.takeWhile (!endsPath ·))).all
        (fun segment => segment ≠ ['.'] && segment ≠ ['.', '.']) = true) <| by
    simp only [List.all_eq_true, Option.all_eq_true, Bool.not_eq_true', Bool.and_eq_true,
      decide_eq_true_eq]
    exact ⟨fun ⟨breaks, ends, marks, still⟩ => ⟨breaks, ends, marks, still⟩,
      fun ⟨breaks, ends, marks, still⟩ => ⟨breaks, ends, marks, still⟩⟩

/-- A plain segment is intact. -/
theorem IsSegment.intact {name : List Char} (plain : IsSegment name) : Intact name where
  breaks c found := (not_isMargin_of_visible (isPlain_bounds (plain.plain c found)).1).2
  ends c last := by
    have found := List.mem_of_getLast? last
    exact (not_isMargin_of_visible (isPlain_bounds (plain.plain c found)).1).1
  marks := by
    have other {c : Char} (special : isPlain c = false) : c ∉ name :=
      fun found => ne_of_isPlain (plain.plain c found) special rfl
    exact ⟨other rfl, other rfl, other rfl⟩
  still := by
    have whole : name.takeWhile (!endsPath ·) = name :=
      (span_whole fun c found => by simp [endsPath_of_isPlain (plain.plain c found)]).1
    rw [whole, segments_of_no_slash fun c found => isSlash_of_isPlain (plain.plain c found)]
    exact List.forall_mem_singleton.2 ⟨plain.here, plain.above⟩

/-- The characters of an address that count are those of the first part that count, with the rest,
if nothing of the rest is dropped. -/
theorem significant_append (first : List Char) {c : Char} {rest : List Char}
    (visible : isMargin c = false) (breaks : ∀ d ∈ c :: rest, isBreak d = false)
    (ends : ∀ d ∈ (c :: rest).getLast?, isMargin d = false) :
    significant (first ++ c :: rest) =
      (first.dropWhile isMargin).filter (!isBreak ·) ++ c :: rest := by
  have head : ∀ d ∈ (c :: rest).head?, isMargin d = false := fun d head =>
    Option.some.inj head ▸ visible
  have last : ∀ d ∈ (first.dropWhile isMargin ++ c :: rest).reverse.head?,
      isMargin d = false := by
    rwa [List.head?_reverse, List.getLast?_append, List.getLast?_cons, Option.some_or,
      ← List.getLast?_cons]
  have started : (first ++ c :: rest).dropWhile isMargin =
      first.dropWhile isMargin ++ c :: rest := (span_behind first head).2
  have ended : (first.dropWhile isMargin ++ c :: rest).reverse.dropWhile isMargin =
      (first.dropWhile isMargin ++ c :: rest).reverse := (span_behind [] last).2
  have kept : (c :: rest).filter (!isBreak ·) = c :: rest :=
    List.filter_eq_self.2 fun d found => by simp [breaks d found]
  rw [significant, started, ended, List.reverse_reverse, List.filter_append, kept]

/-- The text of a query that follows a path, with what stands in front of a fragment. -/
def queryText (rest : List Char) : List Char :=
  match (after? '?' (rest.takeWhile (· ≠ '#'))).map (encode reservedInQuery) with
  | some query => '?' :: query
  | none => []

/-- What is asked for, by what follows the host. -/
def targetOf (behind : List Char) : List Char :=
  pathText (pathOf (behind.takeWhile (!endsPath ·))) ++ queryText (behind.dropWhile (!endsPath ·))

/-- What an address asks for depends on what follows the host. -/
theorem target_of_parse? {text : List Char} {url : Url} (read : parse? text = some url) :
    (Scheme.ofName? ((significant text).takeWhile (· ≠ ':'))).isSome ∧
      ∃ rest, after? ':' ((significant text).dropWhile (· ≠ ':')) = some rest ∧
        url.target = targetOf ((rest.dropWhile isSlash).dropWhile (!endsAuthority ·)) := by
  obtain ⟨scheme, named, read⟩ := Option.bind_eq_some_iff.1 read
  obtain ⟨rest, behind, read⟩ := Option.bind_eq_some_iff.1 read
  obtain ⟨host, -, read⟩ := Option.bind_eq_some_iff.1 read
  obtain rfl := Option.some.inj read
  exact ⟨by rw [named]; rfl, rest, behind, rfl⟩

/-- The name of a scheme holds no slash. -/
theorem slash_notMem_of_scheme {name : List Char} (named : (Scheme.ofName? name).isSome) :
    '/' ∉ name := by
  intro found
  obtain ⟨scheme, read⟩ := Option.isSome_iff_exists.1 named
  have same : scheme.name.toList = name.map Char.toLower := by
    simpa using List.find?_some read
  have inside : '/' ∈ scheme.name.toList := same ▸ List.mem_map.2 ⟨'/', found, by decide⟩
  cases scheme <;> exact absurd inside (by decide)

/-- A slash with an intact name behind it is kept as it is. -/
theorem Intact.below {name : List Char} (intact : Intact name) :
    (∀ d ∈ 's' :: '/' :: name, isBreak d = false) ∧
      ∀ d ∈ ('s' :: '/' :: name).getLast?, isMargin d = false := by
  constructor
  · exact List.forall_mem_cons.2 ⟨by decide, List.forall_mem_cons.2 ⟨by decide, intact.breaks⟩⟩
  · intro d last
    cases name with
    | nil =>
      obtain rfl := Option.some.inj last
      decide
    | cons c rest => exact intact.ends d (by simpa using last)

/-- What follows the host, in what follows the scheme. -/
def behindHost (rest : List Char) : List Char :=
  (rest.dropWhile isSlash).dropWhile (!endsAuthority ·)

/-- A name below a collection is behind the host. -/
theorem behindHost_append (after name : List Char) :
    behindHost (after ++ 's' :: '/' :: name) = behindHost (after ++ ['s']) ++ '/' :: name := by
  have slashes (rest : List Char) :
      (after ++ 's' :: rest).dropWhile isSlash = after.dropWhile isSlash ++ 's' :: rest :=
    (span_behind after fun c head => Option.some.inj head ▸ rfl).2
  have host : (after.dropWhile isSlash ++ ['s'] ++ '/' :: name).dropWhile (!endsAuthority ·) =
      (after.dropWhile isSlash ++ ['s']).dropWhile (!endsAuthority ·) ++ '/' :: name :=
    (span_behind _ fun c head => Option.some.inj head ▸ rfl).2
  rw [behindHost, behindHost, slashes, slashes, ← host, List.append_assoc, List.singleton_append]

/-- What follows the host occurs in the address. -/
theorem mem_of_mem_behindHost {rest : List Char} {c : Char} (found : c ∈ behindHost rest) :
    c ∈ rest :=
  (List.dropWhile_suffix _).subset ((List.dropWhile_suffix _).subset found)

/-- What follows the host is the same below one collection, but for the name. -/
theorem exists_behind {first : List Char} (marks : '#' ∉ first) :
    ∃ behind, '#' ∉ behind ∧ ∀ name, Intact name → ∀ url,
      parse? (first ++ 's' :: '/' :: name) = some url →
        url.target = targetOf (behind ++ '/' :: name) := by
  let counted := (first.dropWhile isMargin).filter (!isBreak ·)
  have kept name (intact : Intact name) :
      significant (first ++ 's' :: '/' :: name) = counted ++ 's' :: '/' :: name :=
    significant_append first (by decide) intact.below.1 intact.below.2
  by_cases colon : ':' ∈ counted
  · obtain ⟨scheme, after, cut, before⟩ := List.eq_append_cons_of_mem colon
    refine ⟨behindHost (after ++ ['s']), fun found => ?_, fun name intact url read => ?_⟩
    · obtain inside | last := List.mem_append.1 (mem_of_mem_behindHost found)
      · have inCounted : '#' ∈ counted := by simp [cut, inside]
        exact marks ((List.dropWhile_suffix _).subset (List.mem_filter.1 inCounted).1)
      · exact absurd last (by decide)
    · obtain ⟨-, rest, follows, target⟩ := target_of_parse? read
      have behind : (counted ++ 's' :: '/' :: name).dropWhile (· ≠ ':') =
          ':' :: (after ++ 's' :: '/' :: name) := by
        rw [cut, List.append_assoc]
        refine (span_append scheme _ (all_ne before) fun c head => ?_).2
        exact Option.some.inj head ▸ rfl
      rw [kept name intact, behind] at follows
      obtain rfl := Option.some.inj follows
      rw [target, ← behindHost_append]
      rfl
  · -- Without a colon the slash would belong to the name of the scheme.
    refine ⟨[], nofun, fun name intact url read => ?_⟩
    obtain ⟨named, -⟩ := target_of_parse? read
    rw [kept name intact, List.takeWhile_append_of_pos (all_ne colon)] at named
    exact absurd (by simp) (slash_notMem_of_scheme named)

/-- A walk goes on from somewhere, whatever it goes on with. -/
theorem exists_walk_append (path moves : List (List Char)) :
    ∃ place, ∀ next, next ≠ [] → walk path (moves ++ next) = walk place next := by
  induction moves generalizing path with
  | nil => exact ⟨path, fun next _ => rfl⟩
  | cons segment rest ih =>
    let place := if isAbove segment then path.dropLast
      else if isHere segment then path else path ++ [segment]
    obtain ⟨last, goes⟩ := ih place
    refine ⟨last, fun next some_move => ?_⟩
    rw [← goes next some_move, List.cons_append, walk]
    · simp only [place]
      split
      · rfl
      · split <;> rfl
    · simpa using fun _ => some_move

/-- The text of a path in two parts. -/
theorem pathText_append (first second : List (List Char)) :
    pathText (first ++ second) = pathText first ++ pathText second := by
  simp [pathText]

/-- The pieces of a text without backslashes, with the slashes between them, are the text. -/
theorem pathText_segments {chars : List Char} (plain : '\\' ∉ chars) :
    pathText ((segments chars).map (encode reservedInPath)) =
      '/' :: encode reservedInPath chars := by
  induction chars with
  | nil => rfl
  | cons c rest ih =>
    have others := ih (List.not_mem_of_not_mem_cons plain)
    rw [segments]
    split
    · next slash =>
      have own : c = '/' := by
        have backslash : c ≠ '\\' := Ne.symm (List.ne_of_not_mem_cons plain)
        simpa [isSlash, backslash] using slash
      subst own
      have free : Text.Percent.encodeChar reservedInPath '/' = ['/'] := by decide
      rw [List.map_cons, pathText, List.flatMap_cons, ← pathText, others]
      simp [encode, free]
    · cases pieces : segments rest with
      | nil => exact absurd pieces (segments_ne_nil rest)
      | cons first more =>
        rw [pieces, List.map_cons, pathText, List.flatMap_cons, ← pathText, List.cons_append]
          at others
        have tail := (List.cons.inj others).2
        rw [List.map_cons, pathText, List.flatMap_cons, ← pathText]
        simp only [encode, List.flatMap_cons, List.cons_append, List.append_assoc] at tail ⊢
        rw [tail]

/-- Dots that may be encoded stand for the bytes of dots. -/
theorem bytes_of_dots {chars : List Char} (dots : ∀ c ∈ plainDots chars, c = '.') :
    Text.Percent.bytes chars = (plainDots chars).flatMap String.utf8EncodeChar := by
  fun_induction plainDots chars with
  | case1 rest ih | case2 rest ih =>
    rw [Text.Percent.bytes, ih fun c found => dots c (List.mem_cons_of_mem _ found),
      List.flatMap_cons]
    rfl
  | case3 c rest _ _ ih =>
    obtain rfl := dots c List.mem_cons_self
    rw [Text.Percent.bytes_cons (by decide),
      ih fun c found => dots c (List.mem_cons_of_mem _ found), List.flatMap_cons]
  | case4 => rfl

/-- A segment without percent signs moves within the path only if it is one or two dots. -/
theorem stays_encoded {segment : List Char} (percent : '%' ∉ segment) (here : segment ≠ ['.'])
    (above : segment ≠ ['.', '.']) :
    isAbove (encode reservedInPath segment) = false ∧
      isHere (encode reservedInPath segment) = false := by
  have dotted {dots : List Char} (all : ∀ c ∈ dots, c = '.')
      (same : plainDots (encode reservedInPath segment) = dots) : segment = dots := by
    subst same
    refine Text.Percent.utf8_inj ?_
    rw [← Text.Percent.bytes_encode reservedInPath percent, bytes_of_dots all]
  constructor
  · exact decide_eq_false fun same => above (dotted (forall_mem_of_all (by decide)) same)
  · exact decide_eq_false fun same => here (dotted (forall_mem_of_all (by decide)) same)

/-- A piece of a text is made of its characters. -/
theorem mem_of_mem_segments {chars segment : List Char} (piece : segment ∈ segments chars)
    {c : Char} (found : c ∈ segment) : c ∈ chars := by
  induction chars generalizing segment with
  | nil =>
    obtain rfl := List.mem_singleton.1 piece
    contradiction
  | cons d rest ih =>
    rw [segments] at piece
    split at piece
    · obtain rfl | piece := List.mem_cons.1 piece
      · contradiction
      · exact List.mem_cons_of_mem _ (ih piece found)
    · cases pieces : segments rest with
      | nil => exact absurd pieces (segments_ne_nil rest)
      | cons first others =>
        rw [pieces] at piece ih
        obtain rfl | piece := List.mem_cons.1 piece
        · exact (List.mem_cons.1 found).elim (fun same => same ▸ List.mem_cons_self)
            fun found => List.mem_cons_of_mem _ (ih List.mem_cons_self found)
        · exact List.mem_cons_of_mem _ (ih (List.mem_cons_of_mem _ piece) found)

/-- The path of a place with a slash and more behind it, if nothing of it moves. -/
theorem exists_pathOf_append (behind : List Char) :
    ∃ front, ∀ name, '\\' ∉ name → '%' ∉ name →
      (∀ segment ∈ segments name, segment ≠ ['.'] ∧ segment ≠ ['.', '.']) →
        pathText (pathOf (behind ++ '/' :: name)) =
          front ++ '/' :: encode reservedInPath name := by
  -- What stands in front is the same for all names, with or without a slash at its beginning.
  obtain ⟨pieces, rooted⟩ : ∃ pieces, ∀ name, pathOf (behind ++ '/' :: name) =
      walk [] (pieces ++ (segments name).map (encode reservedInPath)) := by
    cases behind with
    | nil => exact ⟨[], fun name => rfl⟩
    | cons c rest =>
      refine ⟨(segments (if isSlash c then rest else c :: rest)).map (encode reservedInPath),
        fun name => ?_⟩
      rw [← List.map_append, ← segments_append]
      change walk [] ((segments (if isSlash c then rest ++ '/' :: name
        else c :: (rest ++ '/' :: name))).map _) = _
      split <;> rfl
  obtain ⟨place, goes⟩ := exists_walk_append [] pieces
  refine ⟨pathText place, fun name backslash percent still => ?_⟩
  have some_move : (segments name).map (encode reservedInPath) ≠ [] := by
    simpa using segments_ne_nil name
  have stays : ∀ segment ∈ (segments name).map (encode reservedInPath),
      isAbove segment = false ∧ isHere segment = false := by
    intro encoded found
    obtain ⟨segment, piece, rfl⟩ := List.mem_map.1 found
    have plain : '%' ∉ segment := fun inside => percent (mem_of_mem_segments piece inside)
    exact stays_encoded plain (still segment piece).1 (still segment piece).2
  rw [rooted, goes _ some_move, walk_still stays, pathText_append, pathText_segments backslash]

/-- What is asked for below a path. -/
def pathTail (name : List Char) : List Char :=
  encode reservedInPath (name.takeWhile (!endsPath ·)) ++
    encode reservedInQuery (name.dropWhile (!endsPath ·))

/-- What follows a path is a query, and is asked for as it is but for its encoding, if no fragment
follows. -/
theorem queryText_eq {rest : List Char} (fragment : '#' ∉ rest)
    (begins : ∀ c ∈ rest.head?, c = '?') : queryText rest = encode reservedInQuery rest := by
  cases rest with
  | nil => rfl
  | cons c query =>
    obtain rfl := begins c rfl
    rw [queryText, (span_whole (all_ne fragment)).1]
    rfl

/-- What does not belong to a path without fragment behind it begins with a question mark. -/
theorem head?_behindPath {chars : List Char} (fragment : '#' ∉ chars) :
    ∀ c ∈ (chars.dropWhile (!endsPath ·)).head?, c = '?' := by
  intro c head
  have stops := List.head?_dropWhile_not (!endsPath ·) chars
  rw [head] at stops
  have inside : c ∈ chars := (List.dropWhile_suffix _).subset (List.mem_of_head? head)
  have other : c ≠ '#' := fun same => fragment (same ▸ inside)
  simpa [endsPath, other] using stops

/-- What is asked for below a path. -/
theorem targetOf_path {behind : List Char} (fragment : '#' ∉ behind) (query : '?' ∉ behind) :
    ∃ front, ∀ name, Intact name →
      targetOf (behind ++ '/' :: name) = front ++ '/' :: pathTail name := by
  obtain ⟨front, path⟩ := exists_pathOf_append behind
  refine ⟨front, fun name intact => ?_⟩
  obtain ⟨noFragment, backslash, percent⟩ := intact.marks
  have all : ∀ c ∈ behind ++ ['/'], (!endsPath c) = true := by
    intro c found
    obtain inside | last := List.mem_append.1 found
    · have other : c ≠ '?' := fun same => query (same ▸ inside)
      have another : c ≠ '#' := fun same => fragment (same ▸ inside)
      simp [endsPath, other, another]
    · exact List.mem_singleton.1 last ▸ rfl
  have part : ∀ c ∈ name.takeWhile (!endsPath ·), c ∈ name :=
    fun c found => (List.takeWhile_prefix _).subset found
  have rest : '#' ∉ name.dropWhile (!endsPath ·) :=
    fun found => noFragment ((List.dropWhile_suffix _).subset found)
  rw [targetOf, ← List.singleton_append, ← List.append_assoc, List.takeWhile_append_of_pos all,
    List.dropWhile_append_of_pos all, List.append_assoc, List.singleton_append,
    path _ (fun found => backslash (part _ found)) (fun found => percent (part _ found))
      intact.still,
    queryText_eq rest (head?_behindPath noFragment), List.append_assoc, List.cons_append, pathTail]

/-- What is asked for in a query. -/
theorem targetOf_query {behind : List Char} (fragment : '#' ∉ behind) (query : '?' ∈ behind) :
    ∃ front, ∀ name, Intact name →
      targetOf (behind ++ '/' :: name) = front ++ encode reservedInQuery name := by
  refine ⟨pathText (pathOf (behind.takeWhile (!endsPath ·))) ++
    encode reservedInQuery (behind.dropWhile (!endsPath ·) ++ ['/']), fun name intact => ?_⟩
  have parts := span_within (p := (!endsPath ·)) query rfl ('/' :: name)
  have whole : '#' ∉ behind ++ '/' :: name := by
    simp only [List.mem_append, List.mem_cons, not_or]
    exact ⟨fragment, by decide, intact.marks.1⟩
  have rest : '#' ∉ (behind ++ '/' :: name).dropWhile (!endsPath ·) :=
    fun found => whole ((List.dropWhile_suffix _).subset found)
  rw [targetOf, queryText_eq rest (head?_behindPath whole), parts.1, parts.2, List.append_assoc,
    ← Text.Percent.encode_append, List.append_assoc, List.singleton_append]

/-- What is asked for below a path is cut where the path ends. -/
theorem cut_pathTail {name : List Char} (intact : Intact name) :
    (pathTail name).takeWhile (· ≠ '?') = encode reservedInPath (name.takeWhile (!endsPath ·)) ∧
      (pathTail name).dropWhile (· ≠ '?') =
        encode reservedInQuery (name.dropWhile (!endsPath ·)) := by
  have noMark : '?' ∉ encode reservedInPath (name.takeWhile (!endsPath ·)) :=
    Text.Percent.notMem_encode (by decide) (by decide) (by decide) _
  refine span_append _ _ (all_ne noMark) ?_
  have begins := head?_behindPath intact.marks.1
  cases query : name.dropWhile (!endsPath ·) with
  | nil => nofun
  | cons c rest =>
    obtain rfl := begins c (by rw [query]; rfl)
    intro d head
    obtain rfl : '?' = d := Option.some.inj head
    rfl

/-- What is asked for below a path tells intact names apart. -/
theorem pathTail_inj {name other : List Char} (intact : Intact name) (intactAlso : Intact other)
    (same : pathTail name = pathTail other) : name = other := by
  have path := (cut_pathTail intact).1
  have query := (cut_pathTail intact).2
  rw [same, (cut_pathTail intactAlso).1] at path
  rw [same, (cut_pathTail intactAlso).2] at query
  have percent {chars : List Char} (plain : Intact chars) :
      '%' ∉ chars.takeWhile (!endsPath ·) ∧ '%' ∉ chars.dropWhile (!endsPath ·) :=
    ⟨fun found => plain.marks.2.2 ((List.takeWhile_prefix _).subset found),
      fun found => plain.marks.2.2 ((List.dropWhile_suffix _).subset found)⟩
  have samePath := Text.Percent.encode_inj (percent intactAlso).1 (percent intact).1 path
  have sameQuery := Text.Percent.encode_inj (percent intactAlso).2 (percent intact).2 query
  calc name = name.takeWhile (!endsPath ·) ++ name.dropWhile (!endsPath ·) :=
        List.takeWhile_append_dropWhile.symm
    _ = other.takeWhile (!endsPath ·) ++ other.dropWhile (!endsPath ·) := by
        rw [samePath, sameQuery]
    _ = other := List.takeWhile_append_dropWhile

/-- Different intact names below one collection are not asked for in the same words. -/
theorem target_inj {first : List Char} (fragment : '#' ∉ first) {name other : List Char}
    (intact : Intact name) (intactAlso : Intact other) {url urlOther : Url}
    (read : parse? (first ++ 's' :: '/' :: name) = some url)
    (readOther : parse? (first ++ 's' :: '/' :: other) = some urlOther)
    (same : url.target = urlOther.target) : name = other := by
  obtain ⟨behind, noFragment, target⟩ := exists_behind fragment
  rw [target name intact url read, target other intactAlso urlOther readOther] at same
  by_cases query : '?' ∈ behind
  · obtain ⟨front, inQuery⟩ := targetOf_query noFragment query
    rw [inQuery name intact, inQuery other intactAlso] at same
    exact Text.Percent.encode_inj intact.marks.2.2 intactAlso.marks.2.2
      (List.append_cancel_left same)
  · obtain ⟨front, inPath⟩ := targetOf_path noFragment query
    rw [inPath name intact, inPath other intactAlso] at same
    exact pathTail_inj intact intactAlso (List.cons.inj (List.append_cancel_left same)).2

end HealthLedger.Http.Url
