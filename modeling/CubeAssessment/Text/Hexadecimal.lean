import CubeAssessment.Text.Reader

/-! # Hexadecimal numbers

Code points are written in escape sequences by a fixed count of hexadecimal digits. -/

namespace CubeAssessment.Text

/-- The value of a hexadecimal digit. -/
def hexValue (c : Char) : Option Nat :=
  if c.isDigit then some (c.toNat - '0'.toNat)
  else if decide ('a' ≤ c) && decide (c ≤ 'f') then some (c.toNat - 'a'.toNat + 10)
  else if decide ('A' ≤ c) && decide (c ≤ 'F') then some (c.toNat - 'A'.toNat + 10)
  else none

/-- The character of a code point, which must not be a surrogate. -/
def scalarValue (code : Nat) : Option Char :=
  if code < 0xD800 ∨ (0xE000 ≤ code ∧ code ≤ 0x10FFFF) then some (Char.ofNat code) else none

namespace Reader

/-- A number of the given count of hexadecimal digits, behind digits of the given value; what may
stand before each digit is taken by a reader. -/
def hexNumber (before : Reader Unit) : Nat → Nat → Reader Nat
  | 0, value => pure value
  | count + 1, value => do
      before
      let c ← satisfy fun c => (hexValue c).isSome
      hexNumber before count (16 * value + (hexValue c).getD 0)

/-- The character of a code point written with the given count of hexadecimal digits. -/
def hexCharacter (before : Reader Unit) (count : Nat) : Reader Char := do
  let code ← hexNumber before count 0
  ofOption (scalarValue code)

end Reader

end CubeAssessment.Text
