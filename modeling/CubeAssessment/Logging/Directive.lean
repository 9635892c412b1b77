import CubeAssessment.Logging.FieldFilter
import CubeAssessment.Logging.Level
import CubeAssessment.Text.Blank

/-! # Filter directives

A directive sets the level for the events of a target, inside spans of a name or with a field:
`target[span\x7bfield=value\x7d]=level`, each part of which can be left out. A directive of a level
alone holds for everything. -/

namespace CubeAssessment

/-! ## Parts of a text -/

/-- The characters that take up the first bytes of a text, and those after them; there are none if
the count of bytes ends inside a character. -/
def splitBytes : Nat → List Char → Option (List Char × List Char)
  | 0, cs => some ([], cs)
  | _, [] => none
  | count, c :: cs =>
      if c.utf8Size ≤ count then
        (splitBytes (count - c.utf8Size) cs).map fun (first, rest) => (c :: first, rest)
      else none

/-- The part of a text between two positions, counted in bytes. -/
def bytesBetween (text : String) (start stop : Nat) : Option String := do
  let (_, rest) ← splitBytes start text.toList
  let (part, _) ← splitBytes (stop - start) rest
  return String.ofList part

/-- The number of bytes of a list of characters. -/
def byteCount (cs : List Char) : Nat := (String.ofList cs).utf8ByteSize

/-! ## Directives -/

/-- **A directive.** -/
structure Directive where
  /-- The target, if the directive has one. -/
  target : Option String
  /-- The name of a span, if the directive asks for one. -/
  span : Option String
  /-- A field of a span, if the directive asks for one. -/
  field : Option FieldFilter
  /-- The level. -/
  level : LevelFilter
  deriving DecidableEq, Repr

namespace Directive

/-- The directive of a level for everything. -/
def ofLevel (level : LevelFilter) : Directive := ⟨none, none, none, level⟩

/-- The text of what a directive asks of spans, without the brackets around it. -/
def scopeText (d : Directive) : String :=
  d.span.getD "" ++ (d.field.map fun f => "\x7b" ++ f.text ++ "\x7d").getD ""

/-- Whether a directive asks anything of spans. -/
def hasScope (d : Directive) : Bool := d.span.isSome || d.field.isSome

/-- **The text of a directive.** -/
def text (d : Directive) : String :=
  let scope := if d.hasScope then "[" ++ d.scopeText ++ "]" else ""
  let sign := if d.target.isSome || d.hasScope then "=" else ""
  d.target.getD "" ++ scope ++ sign ++ d.level.name

/-! ## Reading

A directive is read without the white space around it. The positions of its parts found so are then
used in the text as given, which shifts the parts of a directive with white space before it, and
puts white space behind it into its last part. -/

/-- Whether a target can start with a character: a letter, a number, `-`, `:` or `_`. -/
def startsTarget (c : Char) : Bool :=
  Text.isAlphanumeric c || c == '-' || c == ':' || c == '_'

/-- The level from a position to the end of a text; everything when nothing stands there. -/
def levelFrom (text : String) (start : Nat) : Option LevelFilter := do
  let level ← bytesBetween text start text.utf8ByteSize
  if level = "" then return .trace else LevelFilter.parse level

/-- A directive that is a level or a target. A target alone passes everything. -/
def ofWord (text : String) : Directive :=
  match LevelFilter.parse text with
  | some level => ofLevel level
  | none => ⟨some text, none, none, .trace⟩

/-- Read what follows the closing bracket at a position: nothing, or a level. -/
def readAfterScope (text : String) (position : Nat) (target span : Option String)
    (field : Option FieldFilter) : List Char → Option Directive
  | [] => some ⟨target, span, field, .trace⟩
  | '=' :: _ => (levelFrom text (position + 1)).map fun level => ⟨target, span, field, level⟩
  | _ => none

/-- Read a field from a position on, behind its opening brace, and what follows it. -/
def readField (text : String) (start : Nat) (target span : Option String) (cs : List Char) :
    Option Directive := do
  let stop := start + byteCount (cs.takeWhile (· != '\x7d'))
  match cs.dropWhile (· != '\x7d') with
  | '\x7d' :: ']' :: rest =>
      let part ← bytesBetween text start stop
      if part = "" then none
      else
        let field ← FieldFilter.parse part
        readAfterScope text (stop + 2) target span (some field) rest
  | _ => none

/-- Read what a directive asks of spans from a position on, behind the opening bracket, and what
follows it. -/
def readScope (text : String) (start : Nat) (target : Option String) (cs : List Char) :
    Option Directive := do
  let inSpan (c : Char) : Bool := c != ']' && c != '\x7b'
  let stop := start + byteCount (cs.takeWhile inSpan)
  let span ← bytesBetween text start stop
  match cs.dropWhile inSpan with
  | ']' :: rest => readAfterScope text (stop + 1) target (some span) none rest
  | '\x7b' :: rest =>
      readField text (stop + 1) target (if span = "" then none else some span) rest
  | _ => none

/-- **Read a directive.** -/
def parse (text : String) : Option Directive :=
  match Text.trimChars text.toList with
  | [] => none
  | '[' :: rest => readScope text 1 none rest
  | c :: cs =>
      if !startsTarget c then none
      else do
        let inTarget (c : Char) : Bool := c != '=' && c != '['
        let stop := byteCount (c :: cs.takeWhile inTarget)
        match cs.dropWhile inTarget with
        | '=' :: _ =>
            let target ← bytesBetween text 0 stop
            let level ← levelFrom text (stop + 1)
            return ⟨some target, none, none, level⟩
        | '[' :: rest =>
            let target ← bytesBetween text 0 stop
            readScope text (stop + 1) (some target) rest
        | _ => return ofWord text

/-! ## Order -/

/-- **Compare two directives by how specific they are**: by the length of the target, by whether
they ask for a span name and for a field, and then by target, span name and field. The level does
not count. -/
def compareSpecificity (a b : Directive) : Ordering :=
  (compareOption (fun s t => compare s.utf8ByteSize t.utf8ByteSize) a.target b.target).then <|
    (compare a.span.isSome b.span.isSome).then <|
      (compare a.field.isSome b.field.isSome).then <|
        (compareOption compareTexts a.target b.target).then <|
          (compareOption compareTexts a.span b.span).then <|
            compareOption FieldFilter.compareFilter a.field b.field

/-- Put a directive into a list with the most specific first, in place of the one that differs from
it only in the level. -/
def insert (d : Directive) : List Directive → List Directive
  | [] => [d]
  | e :: es =>
      match d.compareSpecificity e with
      | .gt => d :: e :: es
      | .lt => e :: insert d es
      | .eq => d :: es

/-- The directives of a list with the most specific first; of several that differ only in the level
the last counts. -/
def collect (directives : List Directive) : List Directive :=
  directives.foldl (fun kept d => d.insert kept) []

/-! ## Times of decision -/

/-- Whether a directive can be decided once and for all for each place that logs: it asks for no
span name and for no value of a field. -/
def isStatic (d : Directive) : Bool :=
  d.span.isNone && !(d.field.any fun f => f.value.isSome)

/-- Whether a directive has to be looked at whenever a span is entered: it asks for a span name or
a field. -/
def isDynamic (d : Directive) : Bool := d.hasScope

end Directive

end CubeAssessment
