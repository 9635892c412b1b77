import CubeAssessment.Document.Value
import CubeAssessment.Numeric.Literal
import CubeAssessment.Text.Hexadecimal

/-! # TOML texts, numbers and dates

The parts of a TOML 1.0 document that are read character by character: white space and comments,
the four kinds of string, keys, integers, floating-point numbers, dates and times. -/

namespace CubeAssessment.Toml

open Document
open Text (Reader hexValue)
open Text.Reader

/-! ## White space and comments -/

/-- A space or a tab. -/
def isSpace (c : Char) : Bool := c == ' ' || c == '\t'

/-- A character of a string or comment that is neither a control character nor beyond ASCII. -/
def isPrintable (c : Char) : Bool := decide (0x20 ≤ c.toNat) && decide (c.toNat ≤ 0x7E)

/-- A character beyond ASCII. -/
def isBeyondAscii (c : Char) : Bool := decide (0x80 ≤ c.toNat)

/-- A character that may stand in a comment. -/
def isCommentChar (c : Char) : Bool := c == '\t' || isPrintable c || isBeyondAscii c

/-- Spaces and tabs. -/
def spaces : Reader Unit := do
  let _ ← takeWhile isSpace

/-- A line end: a line feed, or a carriage return and a line feed. -/
def lineEnd : Reader Unit := char '\n' <|> word ['\r', '\n']

/-- A comment up to the end of its line. -/
def comment : Reader Unit := do
  char '#'
  let _ ← takeWhile isCommentChar

/-- White space that may contain line ends and comments. A comment ends with its line. -/
def looseSpace : Reader Unit := do
  spaces
  let _ ← many (do
    let _ ← Reader.optional comment
    lineEnd
    spaces)

/-- The rest of a line after a statement. -/
def restOfLine : Reader Unit := do
  spaces
  let _ ← Reader.optional comment
  lineEnd <|> atEnd

/-! ## Strings -/

/-- The character that a letter after a backslash stands for by itself. -/
def shortEscape : Char → Option Char
  | 'b' => some (Char.ofNat 0x08)
  | 't' => some '\t'
  | 'n' => some '\n'
  | 'f' => some (Char.ofNat 0x0C)
  | 'r' => some '\r'
  | '"' => some '"'
  | '\\' => some '\\'
  | _ => none

/-- An escape sequence. -/
def escape : Reader Char := do
  char '\\'
  let c ← satisfy fun _ => true
  if c = 'u' then hexCharacter (pure ()) 4
  else if c = 'U' then hexCharacter (pure ()) 8
  else ofOption (shortEscape c)

/-- A character that stands for itself in a basic string. -/
def isBasicChar (c : Char) : Bool :=
  c == '\t' || (isPrintable c && c != '"' && c != '\\') || isBeyondAscii c

/-- A character that stands for itself in a literal string. -/
def isLiteralChar (c : Char) : Bool :=
  c == '\t' || (isPrintable c && c != '\'') || isBeyondAscii c

/-- A basic string on one line. -/
def basicString : Reader String := do
  char '"'
  let pieces ← many (Reader.run isBasicChar <|> do let c ← escape; return [c])
  char '"'
  return String.ofList pieces.flatten

/-- A literal string on one line. -/
def literalString : Reader String := do
  char '\''
  let cs ← takeWhile isLiteralChar
  char '\''
  return String.ofList cs

/-- One or two quotes inside a multi-line string: a character that is no quote follows. -/
def innerQuotes (quote : Char) : Reader (List Char) :=
  (do word [quote, quote]; ahead (satisfy (· != quote)); return [quote, quote]) <|>
    (do char quote; ahead (satisfy (· != quote)); return [quote])

/-- The closing quotes of a multi-line string. Up to two quotes before them belong to the string. -/
def closingQuotes (quote : Char) : Reader (List Char) :=
  (do word [quote, quote, quote, quote, quote]; return [quote, quote]) <|>
    (do word [quote, quote, quote, quote]; return [quote]) <|>
    (do word [quote, quote, quote]; return [])

/-- A multi-line string: its pieces between triple quotes. A line end right after the opening quotes
is dropped. -/
def multiLine (quote : Char) (piece : Reader (List Char)) : Reader String := do
  word [quote, quote, quote]
  let _ ← Reader.optional lineEnd
  let pieces ← many (piece <|> innerQuotes quote)
  let last ← closingQuotes quote
  return String.ofList (pieces.flatten ++ last)

/-- A backslash at the end of a line: it and all white space up to the next character are
dropped. -/
def lineContinuation : Reader Unit := do
  char '\\'
  spaces
  lineEnd
  let _ ← many (lineEnd <|> (do let _ ← satisfy isSpace))

/-- A line end inside a multi-line string, read as a line feed. -/
def innerLineEnd : Reader (List Char) := do
  lineEnd
  return ['\n']

/-- A multi-line basic string. -/
def multiLineBasic : Reader String :=
  multiLine '"' <|
    Reader.run isBasicChar <|>
      (do lineContinuation; return []) <|>
      (do let c ← escape; return [c]) <|> innerLineEnd

/-- A multi-line literal string. -/
def multiLineLiteral : Reader String :=
  multiLine '\'' <| Reader.run isLiteralChar <|> innerLineEnd

/-- **A string of any kind.** -/
def anyString : Reader String :=
  multiLineBasic <|> basicString <|> multiLineLiteral <|> literalString

/-! ## Keys -/

/-- A character of a bare key. -/
def isBareKeyChar (c : Char) : Bool := c.isAlphanum || c == '_' || c == '-'

/-- One part of a key. -/
def keyPart : Reader String :=
  basicString <|> literalString <|> do
    let cs ← Reader.run isBareKeyChar
    return String.ofList cs

/-- How deep keys and values can be nested. -/
def nestingLimit : Nat := 79

/-- **A key**: parts separated by dots, with spaces around them. The answer is the parents and the
last part. -/
def dottedKey : Reader (List String × String) := do
  let parts ← separated (do spaces; let part ← keyPart; spaces; return part) (char '.')
  check (decide (parts.length ≤ nestingLimit))
  match parts.getLast? with
  | some last => return (parts.dropLast, last)
  | none => failure

/-! ## Numbers -/

/-- Further digits of a number, each with an underscore before it if one is there. -/
def moreDigits (isDigit : Char → Bool) : Reader (List Char) :=
  many (satisfy isDigit <|> do char '_'; satisfy isDigit)

/-- Digits, the first of which may be zero. -/
def digitRun (isDigit : Char → Bool) : Reader (List Char) := do
  let first ← satisfy isDigit
  let rest ← moreDigits isDigit
  return first :: rest

/-- An optional sign. -/
def sign : Reader (List Char) :=
  (do char '-'; return ['-']) <|> (do char '+'; return []) <|> pure []

/-- A decimal integer: a sign and digits that do not start with zero unless zero is all there is. -/
def decimalInteger : Reader (List Char) := do
  let signText ← sign
  let first ← satisfy Char.isDigit
  let rest ← if first = '0' then pure [] else moreDigits Char.isDigit
  return signText ++ first :: rest

/-- The value of digits in a base. -/
def digitsValue (base : Nat) (digits : List Char) : Nat :=
  digits.foldl (fun value c => base * value + (hexValue c).getD 0) 0

/-- An integer of 64 bits with its sign, if it is in range. -/
def signedInRange (n : Int) : Option Value :=
  if -(power 2 63 : Nat) ≤ n ∧ n < (power 2 63 : Nat) then some (.integer n) else none

/-- An integer in another base than ten, behind its two-letter mark. -/
def basedInteger (mark : Char) (base : Nat) : Reader Value := do
  word ['0', mark]
  let digits ← digitRun fun c => match hexValue c with
    | some value => decide (value < base)
    | none => false
  ofOption (signedInRange (digitsValue base digits))

/-- **An integer.** -/
def integer : Reader Value :=
  basedInteger 'x' 16 <|> basedInteger 'o' 8 <|> basedInteger 'b' 2 <|> do
    match ← decimalInteger with
    | '-' :: digits => ofOption (signedInRange (-digitsValue 10 digits))
    | digits => ofOption (signedInRange (digitsValue 10 digits))

/-- The exponent of a floating-point number. -/
def floatExponent : Reader (List Char) := do
  let _ ← satisfy fun c => c == 'e' || c == 'E'
  let signText ← sign
  let digits ← digitRun Char.isDigit
  return 'e' :: signText ++ digits

/-- The point and the fraction digits of a floating-point number. -/
def floatFraction : Reader (List Char) := do
  char '.'
  let digits ← digitRun Char.isDigit
  return '.' :: digits

/-- A floating-point number written in digits. One too large for a double is refused, unless it is
negative. -/
def digitFloat : Reader Value := do
  let whole ← decimalInteger
  let rest ← floatExponent <|> do
    let fraction ← floatFraction
    let exponent ← Reader.optional floatExponent
    return fraction ++ exponent.getD []
  match Literal.read (String.ofList (whole ++ rest)) with
  | some x => do
      check (x != .infinity)
      return .real x
  | none => failure

/-- An infinity or NaN. -/
def specialFloat : Reader Value := do
  let signText ← sign
  (do word ['i', 'n', 'f']; return .real (if signText.isEmpty then .infinity else .negInfinity)) <|>
    (do word ['n', 'a', 'n']; return .real .nan)

/-- **A floating-point number.** -/
def float : Reader Value := digitFloat <|> specialFloat

/-- A truth value. -/
def boolean : Reader Value :=
  (do word ['t', 'r', 'u', 'e']; return .boolean true) <|>
    (do word ['f', 'a', 'l', 's', 'e']; return .boolean false)

/-! ## Dates and times -/

/-- A number of exactly the given count of digits. -/
def fixedNumber : Nat → Nat → Reader Nat
  | 0, value => pure value
  | count + 1, value => do
      let c ← satisfy Char.isDigit
      fixedNumber count (10 * value + (c.toNat - '0'.toNat))

/-- A number of exactly the given count of digits within bounds. -/
def boundedNumber (count low high : Nat) : Reader Nat := do
  let n ← fixedNumber count 0
  check (decide (low ≤ n) && decide (n ≤ high))
  return n

/-- A calendar date. -/
def date : Reader Date := do
  let year ← fixedNumber 4 0
  char '-'
  let month ← boundedNumber 2 1 12
  char '-'
  let day ← boundedNumber 2 1 (daysInMonth year month)
  return { year, month, day }

/-- The fraction of a second in nanoseconds; digits beyond the ninth are dropped. -/
def secondFraction : Reader Nat := do
  char '.'
  let digits ← Reader.run Char.isDigit
  let kept := digits.take 9
  return digitsValue 10 kept * power 10 (9 - kept.length)

/-- A time of day. -/
def timeOfDay : Reader TimeOfDay := do
  let hour ← boundedNumber 2 0 23
  char ':'
  let minute ← boundedNumber 2 0 59
  char ':'
  let second ← boundedNumber 2 0 60
  let nanosecond ← Reader.optional secondFraction
  return { hour, minute, second, nanosecond := nanosecond.getD 0 }

/-- The offset of a time from universal time. -/
def offset : Reader Offset :=
  (do let _ ← satisfy fun c => c == 'Z' || c == 'z'; return .zulu) <|> do
    let signChar ← satisfy fun c => c == '+' || c == '-'
    let hour ← boundedNumber 2 0 23
    char ':'
    let minute ← boundedNumber 2 0 59
    let minutes : Int := hour * 60 + minute
    return .minutes (if signChar = '-' then -minutes else minutes)

/-- The time that may follow a date, behind a `T` or a space. -/
def timeAfterDate : Reader (TimeOfDay × Option Offset) := do
  let _ ← satisfy fun c => c == 'T' || c == 't' || c == ' '
  let time ← timeOfDay
  let offset ← Reader.optional offset
  return (time, offset)

/-- **A date, a time, or both.** -/
def moment : Reader Value :=
  (do
    let date ← date
    match ← Reader.optional timeAfterDate with
    | some (time, offset) => return .moment (.dateTime date time offset)
    | none => return .moment (.date date)) <|>
    (do let time ← timeOfDay; return .moment (.time time))

/-- **A value that contains no other values.** -/
def scalar : Reader Value :=
  (do let s ← anyString; return .text s) <|> moment <|> float <|> integer <|> boolean

end CubeAssessment.Toml
