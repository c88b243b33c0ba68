import EntityService.Text.CharacterClass

/-! Text of any characters in ASCII. The ASCII characters come first; the others follow as numbers,
each of which says how far the next character to be put in is from the one before, by code point and
then by position. Numbers are written to the base 36, the lowest digit first, and the last digit of
each is below a threshold, which follows the size of the numbers so far. -/
namespace EntityService.Url.Punycode

open Text

def digit? (c : Char) : Option Nat :=
  if c.isLower then some (c.toNat - 0x61)
  else if c.isUpper then some (c.toNat - 0x41)
  else if c.isDigit then some (c.toNat - 0x30 + 26)
  else none

def digit (n : Nat) : Char := Char.ofNat (if n < 26 then 0x61 + n else 0x30 + (n - 26))

/-- The least digit that is not the last one. A place is 36 times the number of digits up to it. -/
def threshold (bias place : Nat) : Nat := max 1 (min 26 (place - bias))

theorem threshold_pos (bias place : Nat) : 0 < threshold bias place := by
  unfold threshold
  omega

/-- The bias that suits distances of this size. -/
def settle (delta : Nat) : Nat :=
  if 455 < delta then 36 + settle (delta / 35) else 36 * delta / (delta + 38)
termination_by delta
decreasing_by exact Nat.div_lt_self (by omega) (by omega)

/-- The bias after a number that has put in the last of so many characters. -/
def adapt (delta count : Nat) (first : Bool) : Nat :=
  let scaled := if first then delta / 700 else delta / 2
  settle (scaled + scaled / count)

/-- The digits of a number from a place on. -/
def digits (bias place n : Nat) : List Char :=
  let t := threshold bias place
  if n < t then [digit n]
  else digit (t + (n - t) % (36 - t)) :: digits bias (place + 36) ((n - t) / (36 - t))
termination_by n
decreasing_by
  have := threshold_pos bias place
  have := Nat.div_le_self (n - threshold bias place) (36 - threshold bias place)
  omega

/-- What has been written, the distance to be written next, and the number of characters put in. -/
structure Writer where
  text : List Char := []
  delta : Nat := 0
  bias : Nat := 72
  count : Nat

/-- Passes a character while those with one code point are put in. -/
def Writer.pass (basic code : Nat) (w : Writer) (c : Char) : Writer :=
  if c.toNat < code then { w with delta := w.delta + 1 }
  else if c.toNat = code then
    { text := w.text ++ digits w.bias 36 w.delta
      bias := adapt w.delta (w.count + 1) (w.count == basic)
      count := w.count + 1 }
  else w

/-- Puts in the characters with these code points, from a code point on. -/
def writeCodes (cs : List Char) (basic start : Nat) (w : Writer) : List Nat → Writer
  | [] => w
  | code :: codes =>
    let w := { w with delta := w.delta + (code - start) * (w.count + 1) }
    let w := cs.foldl (Writer.pass basic code) w
    writeCodes cs basic (code + 1) { w with delta := w.delta + 1 } codes

def encode (cs : List Char) : List Char :=
  let basic := cs.filter isAscii
  let codes := ((cs.filter (!isAscii ·)).map Char.toNat).mergeSort.eraseReps
  let w := writeCodes cs basic.length 0x80 { count := basic.length } codes
  basic ++ (if basic.isEmpty then [] else ['-']) ++ w.text

/-- What has been read: the text, the last code point and the position after it, and the part of a
number that is to be read on. -/
structure Reader where
  text : List Char
  code : Nat := 0x80
  position : Nat := 0
  bias : Nat := 72
  sum : Nat := 0
  weight : Nat := 1
  place : Nat := 36

/-- Puts in the character at a distance. -/
def Reader.insert? (r : Reader) (delta : Nat) : Option Reader :=
  let count := r.text.length + 1
  let code := r.code + (r.position + delta) / count
  let position := (r.position + delta) % count
  if code.isValidChar then
    some {
      text := r.text.insertIdx position (Char.ofNat code)
      code
      position := position + 1
      bias := adapt delta count (r.position == 0) }
  else none

def Reader.step? (r : Reader) (c : Char) : Option Reader := do
  let digit ← digit? c
  let t := threshold r.bias r.place
  let sum := r.sum + digit * r.weight
  if digit < t then r.insert? sum
  else return { r with sum, weight := r.weight * (36 - t), place := r.place + 36 }

/-- The ASCII characters end at the last hyphen, if there are any. -/
def decode? (cs : List Char) : Option (List Char) := do
  let basic := ((cs.reverse.dropWhile (· != '-')).drop 1).reverse
  let digits := if basic.isEmpty then cs else (cs.reverse.takeWhile (· != '-')).reverse
  let r ← digits.foldlM Reader.step? { text := basic }
  if basic.all isAscii && r.place == 36 then return r.text else none

end EntityService.Url.Punycode
