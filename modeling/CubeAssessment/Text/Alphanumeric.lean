import CubeAssessment.Text.LetterTables
import CubeAssessment.Text.Ranges

/-! # Letters and numbers

Letters are the Unicode property `Alphabetic`, numbers the general category `Number`: superscripts,
fractions and Roman numerals are numbers too, punctuation and pictographs are neither. -/

namespace CubeAssessment.Text

/-- Whether the character is a letter. -/
def isAlphabetic (c : Char) : Bool := inRanges alphabeticRanges c.toNat

/-- Whether the character is a number. -/
def isNumber (c : Char) : Bool := inRanges numberRanges c.toNat

/-- Whether the character is a letter or a number. -/
def isAlphanumeric (c : Char) : Bool := isAlphabetic c || isNumber c

end CubeAssessment.Text
