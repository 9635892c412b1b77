import CubeAssessment.Logging.Pattern.Mode
import CubeAssessment.Text.Hexadecimal

/-! # Elements of patterns

An element is a character or an escape sequence. There are no back references and no classes of
code points by their properties, as patterns are run by finite automata without tables of
properties. -/

namespace CubeAssessment.Pattern

open Text (Reader)
open Text.Reader

/-- **What an element stands for.** -/
inductive Element where
  /-- One character. -/
  | character (c : Char)
  /-- The character of a byte, written with two hexadecimal digits. -/
  | byte (c : Char)
  /-- The ASCII class of digits, white space or word characters. -/
  | asciiClass
  /-- An end of the text. -/
  | textEnd
  /-- A place at the edge of a word, or the absence of one. -/
  | wordEdge
  deriving DecidableEq, Repr

namespace Element

/-- The character an element stands for. -/
def character? : Element → Option Char
  | character c => some c
  | byte c => some c
  | _ => none

/-- Whether a character is an ASCII character. -/
def isAscii (c : Char) : Bool := decide (c.toNat < 0x80)

/-- Whether an element can stand by itself: what a pattern matches must be whole characters, and
words and digits are those of ASCII. -/
def standsAlone (mode : Mode) : Element → Bool
  | character _ => mode.distinguishes
  | byte c => mode.distinguishes && (mode.unicode || isAscii c)
  | asciiClass => !mode.unicode
  | textEnd => true
  | wordEdge => !mode.unicode

/-- Whether an element can be a member of a character class, which holds code points or else ASCII
characters. -/
def isMember (mode : Mode) : Element → Bool
  | character c => mode.distinguishes && (mode.unicode || isAscii c)
  | byte c => mode.distinguishes && (mode.unicode || isAscii c)
  | asciiClass => !mode.unicode
  | textEnd => false
  | wordEdge => false

/-- Whether two elements make a range: both are characters, in their order. -/
def isRange (low high : Element) : Bool :=
  match low.character?, high.character? with
  | some low, some high => decide (low ≤ high)
  | _, _ => false

end Element

/-! ## Escape sequences -/

/-- A character for which a backslash merely stands before it: any ASCII character but letters,
digits and angle brackets. -/
def isQuotable (c : Char) : Bool := Element.isAscii c && !c.isAlphanum && c != '<' && c != '>'

/-- The control character that a letter after a backslash stands for. -/
def controlEscape : Char → Option Char
  | 'a' => some (Char.ofNat 0x07)
  | 'f' => some (Char.ofNat 0x0C)
  | 't' => some '\t'
  | 'n' => some '\n'
  | 'r' => some (Char.ofNat 0x0D)
  | 'v' => some (Char.ofNat 0x0B)
  | _ => none

/-- **An escape sequence.** -/
def escape (mode : Mode) : Reader Element := do
  char '\\'
  let c ← satisfy fun _ => true
  match c with
  | 'x' => return .byte (← hexCharacter mode.skip 2)
  | 'u' => return .character (← hexCharacter mode.skip 4)
  | 'U' => return .character (← hexCharacter mode.skip 8)
  | 'd' | 's' | 'w' => return .asciiClass
  | 'A' | 'z' => return .textEnd
  | 'b' | 'B' | '<' | '>' => return .wordEdge
  | c => return .character (← ofOption (if isQuotable c then some c else controlEscape c))

/-- An escape sequence or any other character. -/
def element (mode : Mode) : Reader Element :=
  escape mode <|> do return .character (← satisfy (· != '\\'))

end CubeAssessment.Pattern
