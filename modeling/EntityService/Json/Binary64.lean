/-! Finite binary numbers of double precision without sign, as multiples of the smallest one.
Results are exact quotients that are rounded to the nearest number, a tie to the even one. -/
namespace EntityService.Json

structure Binary64 where
  units : Nat
deriving DecidableEq, Repr

namespace Binary64

/-- The number of smallest numbers in one. -/
def one : Nat := Nat.pow 2 1074

/-- All finite numbers are below this many. -/
def bound : Nat := Nat.pow 2 2098

/-- The distance between neighbours, fifty-two bits below the leading one. -/
def step (units : Nat) : Nat := Nat.pow 2 (units.log2 - 52)

/-- The integer nearest to a quotient. -/
def nearest (num den : Nat) : Nat :=
  let quotient := num / den
  let twice := 2 * (num % den)
  if den < twice || (twice == den && quotient % 2 == 1) then quotient + 1 else quotient

/-- The number nearest to a quotient of units. -/
def round (num den : Nat) : Binary64 :=
  let step := step (num / den)
  ⟨nearest num (den * step) * step⟩

def isFinite (x : Binary64) : Bool := x.units < bound

def ofNat (n : Nat) : Binary64 := round (n * one) 1

def mul (x y : Binary64) : Binary64 := round (x.units * y.units) one

def div (x y : Binary64) : Binary64 := round (x.units * one) y.units

def tenTo (exponent : Nat) : Binary64 := ofNat (Nat.pow 10 exponent)

/-- The greatest power of ten that is finite. -/
def maxExponent : Nat := 308

/-- Division by a power of ten, in two steps if it is not finite. -/
def divTenTo (x : Binary64) (exponent : Nat) : Binary64 :=
  if exponent ≤ maxExponent then x.div (tenTo exponent)
  else if exponent ≤ 2 * maxExponent then
    (x.div (tenTo maxExponent)).div (tenTo (exponent - maxExponent))
  else ⟨0⟩

/-- A significand times a power of ten, unless that is too large. -/
def ofDecimal? (significand : Nat) (exponent : Int) : Option Binary64 :=
  let x := ofNat significand
  if significand = 0 then some x
  else if exponent < 0 then some (x.divTenTo (-exponent).toNat)
  else if maxExponent < exponent then none
  else
    let product := x.mul (tenTo exponent.toNat)
    if product.isFinite then some product else none

end Binary64
end EntityService.Json
