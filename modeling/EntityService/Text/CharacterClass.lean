import EntityService.Text.Age
import EntityService.Text.Alphabetic
import EntityService.Text.LetterCase
import EntityService.Text.Mark
import EntityService.Text.Numeric

/-! Classes of characters. Each test settles the ASCII characters by itself and asks the tables of
Unicode only for the others. -/
namespace EntityService.Text

def isAscii (c : Char) : Bool := c.toNat < 0x80

def isAlphabetic (c : Char) : Bool :=
  if isAscii c then c.isAlpha else inRanges alphabeticRanges c.toNat

/-- A decimal digit, a letter number or another number. -/
def isNumeric (c : Char) : Bool :=
  if isAscii c then c.isDigit else inRanges numericRanges c.toNat

def isAlphanumeric (c : Char) : Bool := isAlphabetic c || isNumeric c

def isUppercase (c : Char) : Bool :=
  if isAscii c then c.isUpper
  else inRanges uppercaseRanges c.toNat || inAlternating uppercaseAlternating c.toNat

def isLowercase (c : Char) : Bool :=
  if isAscii c then c.isLower
  else inRanges lowercaseRanges c.toNat || inAlternating lowercaseAlternating c.toNat

/-- A letter, a mark, a decimal digit, a connector or a join control. -/
def inWords (n : Nat) : Bool :=
  inRanges alphabeticRanges n || inRanges markRanges n || inRanges decimalRanges n ||
    inRanges joinerRanges n

/-- A character of a word, where only the characters of Unicode 16 make words. -/
def isWord (c : Char) : Bool :=
  if isAscii c then c.isAlphanum || c == '_'
  else inWords c.toNat && !inRanges addedRanges c.toNat

end EntityService.Text
