import HealthLedger.Log.FieldValue
import HealthLedger.Log.Pattern.Support
import HealthLedger.Text.Alphanumeric
import HealthLedger.Text.Blank
import HealthLedger.Text.Utf8

/-!
# Directives of a log filter

A directive allows the events of a target, of a span or with a field up to a level. It is
written `target[span{field=value}]=level`, and each of its parts may be left out. The reader
takes one character after the other and remembers where the current part began.
-/

namespace HealthLedger.Log

/-- A field an event must have, and the value it must have if one is given. -/
structure FieldMatch where
  /-- The name of the field. -/
  name : String
  /-- The value of the field. -/
  value : Option FieldValue
  deriving Repr, DecidableEq

/-- The text of a field. -/
def FieldMatch.text (field : FieldMatch) : String :=
  match field.value with
  | none => field.name
  | some value => field.name ++ "=" ++ value.text

/-- What a part of a filter allows. -/
structure Directive where
  /-- The target of the events. -/
  target : Option String
  /-- The name of the span they are in. -/
  span : Option String
  /-- The field they have. -/
  field : Option FieldMatch
  /-- The most that is allowed. -/
  level : Verbosity
  deriving Repr, DecidableEq

/-- Why a text is no filter. -/
inductive FilterFlaw where
  /-- A part is no directive. -/
  | directive
  /-- A level is none of the known ones. -/
  | level
  /-- The value of a field cannot be used as a pattern. -/
  | pattern (flaw : Pattern.Flaw)
  deriving Repr, DecidableEq

/-- The wording of a flaw. -/
def FilterFlaw.message : FilterFlaw → String
  | .directive => "invalid filter directive"
  | .level =>
    "error parsing level filter: expected one of \"off\", \"error\", \"warn\", " ++
      "\"info\", \"debug\", \"trace\", or a number 0-5"
  | .pattern flaw => "invalid field filter: " ++ flaw.message

/-- What a reader of a directive is at, and where that starts. -/
inductive Stage where
  /-- The beginning. -/
  | start
  /-- A level or a target. -/
  | levelOrTarget (first : Nat)
  /-- The name of a span. -/
  | span (first : Nat)
  /-- A field. -/
  | field (first : Nat)
  /-- The end of the fields. -/
  | fieldEnd
  /-- The end of the span. -/
  | spanEnd
  /-- The level. -/
  | level (first : Nat)

namespace Directive

/-- The bytes of a text from one offset up to another, as a text. -/
def slice (bytes : List UInt8) (first last : Nat) : String :=
  String.ofList (Text.Utf8.replace ((bytes.take last).drop first))

/-- The value of a field as it is written. A pattern must be one that can be used. -/
def valueOf (text : String) : Except FilterFlaw FieldValue :=
  match FieldValue.ofText text with
  | .pattern pattern =>
    match Pattern.flaw? pattern with
    | some flaw => .error (.pattern flaw)
    | none => .ok (.pattern pattern)
  | value => .ok value

/-- A field as it is written. Behind a second equals sign nothing counts. -/
def fieldOf (text : String) : Except FilterFlaw FieldMatch :=
  match text.splitOn "=" with
  | name :: value :: _ => do
    let value ← valueOf value
    .ok ⟨name, some value⟩
  | _ => .ok ⟨text, none⟩

/-- Whether a directive may begin with a character. -/
def begins (c : Char) : Bool := c = '-' || c = ':' || c = '_' || Text.isAlphanumeric c

/-- Read one character, which stands at an offset. -/
def step (bytes : List UInt8) (read : Directive × Stage) (offset : Nat) (c : Char) :
    Except FilterFlaw (Directive × Stage) :=
  let (directive, stage) := read
  let behind := offset + 1
  match stage with
  | .start =>
    if c = '[' then .ok (directive, .span behind)
    else if begins c then .ok (directive, .levelOrTarget offset)
    else .error .directive
  | .levelOrTarget first =>
    let target := some (slice bytes first offset)
    if c = '=' then .ok ({ directive with target }, .level behind)
    else if c = '[' then .ok ({ directive with target }, .span behind)
    else .ok (directive, stage)
  | .span first =>
    let name := slice bytes first offset
    if c = ']' then .ok ({ directive with span := some name }, .spanEnd)
    else if c = '\x7b' then
      .ok ({ directive with span := if name = "" then none else some name }, .field behind)
    else .ok (directive, stage)
  | .field first =>
    if c = '\x7d' then
      let text := slice bytes first offset
      if text = "" then .error .directive
      else do
        let field ← fieldOf text
        .ok ({ directive with field := some field }, .fieldEnd)
    else .ok (directive, stage)
  | .fieldEnd => if c = ']' then .ok (directive, .spanEnd) else .error .directive
  | .spanEnd => if c = '=' then .ok (directive, .level behind) else .error .directive
  | .level _ => .ok (directive, stage)

/-- Read characters with their offsets. -/
def steps (bytes : List UInt8) (read : Directive × Stage) (offset : Nat) :
    List Char → Except FilterFlaw (Directive × Stage)
  | [] => .ok read
  | c :: rest => do
    let read ← step bytes read offset c
    steps bytes read (offset + c.utf8Size) rest

/-- Complete a directive when its text has ended. A text that is no level is a target for which
everything is allowed. -/
def finish (bytes : List UInt8) (read : Directive × Stage) : Except FilterFlaw Directive :=
  let (directive, stage) := read
  match stage with
  | .levelOrTarget first =>
    let text := slice bytes first bytes.length
    match Verbosity.parse? text with
    | some level => .ok { directive with target := none, level }
    | none => .ok { directive with target := some text, level := .trace }
  | .level first =>
    let text := slice bytes first bytes.length
    if text = "" then .ok directive
    else
      match Verbosity.parse? text with
      | some level => .ok { directive with level }
      | none => .error .level
  | .spanEnd => .ok directive
  | _ => .error .directive

/-- Read a directive. The characters are read without the blanks around them, but the parts are
cut from the text as it is, at the same offsets. -/
def parse (text : String) : Except FilterFlaw Directive := do
  let bytes := Text.Utf8.encode text
  let read ← steps bytes (⟨none, none, none, .trace⟩, .start) 0 (Text.trim text.toList)
  finish bytes read

/-- Whether a directive depends on a span or a field. -/
def isDynamic (directive : Directive) : Bool := directive.span.isSome || directive.field.isSome

/-- The directive without what depends on a run, if it has no span and no field value. -/
def static? (directive : Directive) : Option Directive :=
  match directive.span, directive.field with
  | none, none => some directive
  | none, some ⟨_, none⟩ => some directive
  | _, _ => none

/-- The text of a directive. -/
def text (directive : Directive) : String :=
  let target := directive.target.getD ""
  let fields := match directive.field with
    | none => ""
    | some field => "\x7b" ++ field.text ++ "\x7d"
  let span :=
    if directive.isDynamic then "[" ++ directive.span.getD "" ++ fields ++ "]" else ""
  let sign := if directive.target.isSome || directive.isDynamic then "=" else ""
  target ++ span ++ sign ++ directive.level.name

/-- The length of a text that may be absent, which counts as shorter than any other. -/
def lengthOf (text : Option String) : Nat :=
  match text with
  | none => 0
  | some text => text.utf8ByteSize + 1

/-- The order of texts that may be absent. -/
def textOrder : Option String → Option String → Ordering
  | none, none => .eq
  | none, some _ => .lt
  | some _, none => .gt
  | some left, some right => compare left right

/-- The order of fields that may be absent. -/
def fieldOrder : Option FieldMatch → Option FieldMatch → Ordering
  | none, none => .eq
  | none, some _ => .lt
  | some _, none => .gt
  | some left, some right =>
    ((compare (if left.value.isSome then 1 else 0) (if right.value.isSome then 1 else 0)).then
      (compare left.name right.name)).then
      (match left.value, right.value with
        | some left, some right => left.order right
        | _, _ => .eq)

/-- The order of directives by how specific they are: by the length of the target, the presence
of a span and of a field, and then as texts. -/
def order (left right : Directive) : Ordering :=
  (compare (lengthOf left.target) (lengthOf right.target)).then <|
  (compare (if left.span.isSome then 1 else 0) (if right.span.isSome then 1 else 0)).then <|
  (compare (if left.field.isSome then 1 else 0) (if right.field.isSome then 1 else 0)).then <|
  (textOrder left.target right.target).then <|
  (textOrder left.span right.span).then <|
  fieldOrder left.field right.field

/-- Put a directive where it belongs, the most specific first, in place of one it agrees with. -/
def insert (directive : Directive) : List Directive → List Directive
  | [] => [directive]
  | other :: rest =>
    match directive.order other with
    | .gt => directive :: other :: rest
    | .eq => directive :: rest
    | .lt => other :: insert directive rest

end Directive

end HealthLedger.Log
