import EntityService.Json.Shortest

/-! Numbers of a document. Whole numbers of sixty-four bits are kept as they are; all others, and
negative zero, are binary numbers. -/
namespace EntityService.Json

inductive Number where
  | integer (n : Int)
  | float (negative : Bool) (magnitude : Binary64)
deriving DecidableEq, Repr

namespace Number

/-- Significands have sixty-four bits. -/
def significandBound : Nat := 0x10000000000000000

/-- Adds digits to a significand as long as it stays within its bound, and leaves the others. -/
def addDigits (significand : Nat) : List Char → Nat × List Char
  | [] => (significand, [])
  | c :: cs =>
    let next := significand * 10 + (c.toNat - '0'.toNat)
    if next < significandBound then addDigits next cs else (significand, c :: cs)

/-- The parts of a written number. -/
structure Parts where
  negative : Bool
  whole : List Char
  fraction : Option (List Char)
  exponent : Option Int

def sign : List Char → Bool × List Char
  | '-' :: cs => (true, cs)
  | cs => (false, cs)

/-- Whole digits begin with zero only if it is the only one. -/
def isWhole : List Char → Bool
  | [] => false
  | ['0'] => true
  | '0' :: _ => false
  | _ => true

/-- The digits after a point, and the rest. -/
def readFraction? : List Char → Option (Option (List Char) × List Char)
  | '.' :: cs =>
    let digits := cs.takeWhile Char.isDigit
    if digits.isEmpty then none else some (some digits, cs.dropWhile Char.isDigit)
  | cs => some (none, cs)

/-- The exponent that ends a number, if there is one. -/
def readExponent? : List Char → Option (Option Int)
  | [] => some none
  | mark :: cs =>
    let (negative, digits) := match cs with
      | '+' :: cs => (false, cs)
      | cs => sign cs
    if (mark == 'e' || mark == 'E') && !digits.isEmpty && digits.all Char.isDigit then
      let n : Int := Nat.ofDigitChars 10 digits 0
      some (some (if negative then -n else n))
    else none

def parts? (cs : List Char) : Option Parts := do
  let (negative, rest) := sign cs
  let whole := rest.takeWhile Char.isDigit
  let (fraction, rest) ← readFraction? (rest.dropWhile Char.isDigit)
  let exponent ← readExponent? rest
  if isWhole whole then return ⟨negative, whole, fraction, exponent⟩ else none

/-- The binary number that is written. Digits beyond the significand only count by their place. -/
def Parts.toFloat? (p : Parts) : Option Number := do
  let (significand, left) := addDigits 0 p.whole
  let fraction := p.fraction.getD []
  let (significand, ignored) := addDigits significand fraction
  let exponent : Int := left.length - (fraction.length - ignored.length) + p.exponent.getD 0
  return .float p.negative (← Binary64.ofDecimal? significand exponent)

/-- The integer that is written, if it has no fraction and no exponent and is small enough. -/
def Parts.toInteger? (p : Parts) : Option Number :=
  let n := Nat.ofDigitChars 10 p.whole 0
  if p.fraction.isSome || p.exponent.isSome then none
  else if p.negative then
    if 0 < n && 2 * n ≤ significandBound then some (.integer (-n)) else none
  else if n < significandBound then some (.integer n) else none

def ofText? (cs : List Char) : Option Number := do
  let p ← parts? cs
  p.toInteger?.or p.toFloat?

/-- Digits with a point among or beside them, where the point stands close enough to them. -/
def positional? (digits : List Char) (point : Int) : Option (List Char) :=
  if 0 < point ∧ point ≤ 16 then
    let before := digits.take point.toNat
    let after := digits.drop point.toNat
    let zeros := List.replicate (point.toNat - before.length) '0'
    some (before ++ zeros ++ '.' :: (if after.isEmpty then ['0'] else after))
  else if -5 < point ∧ point ≤ 0 then
    some ('0' :: '.' :: (List.replicate (-point).toNat '0' ++ digits))
  else none

/-- One digit before the point, and an exponent with its sign. -/
def scientific (digits : List Char) (point : Int) : List Char :=
  let fraction := digits.drop 1
  let sign := if 0 < point then "e+" else "e"
  digits.take 1 ++ (if fraction.isEmpty then [] else '.' :: fraction) ++
    (sign ++ toString (point - 1)).toList

def floatText (negative : Bool) (magnitude : Binary64) : List Char :=
  let (significand, exponent) := magnitude.shortest
  let digits := Nat.toDigits 10 significand
  let point := (digits.length : Int) + exponent
  (if negative then ['-'] else []) ++ (positional? digits point).getD (scientific digits point)

def text : Number → List Char
  | .integer n => (toString n).toList
  | .float negative magnitude => floatText negative magnitude

end Number
end EntityService.Json
