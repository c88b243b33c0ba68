import EntityService.Json.Binary64

/-! The fewest decimal digits that read back as a number. On the grid of one digit, then of two and
so on, the neighbours of the number are tested; the first grid with a hit wins. -/
namespace EntityService.Json.Binary64

/-- The decimal exponent of the first digit of a number that is not zero. -/
def leadingExponent (x : Binary64) : Int :=
  ((Nat.toDigits 10 (x.units * Nat.pow 10 400 / one)).length : Int) - 401

/-- The ends of the interval that is rounded to a number, in quarters of a unit. Below a power of
two the neighbours are closer. -/
def interval (x : Binary64) : Nat × Nat :=
  let gap := step x.units
  let below := if x.units = Nat.pow 2 x.units.log2 && 1 < gap then gap else 2 * gap
  (4 * x.units - below, 4 * x.units + 2 * gap)

/-- The ends belong to the interval of an even number. -/
def hasEnds (x : Binary64) : Bool := x.units / step x.units % 2 == 0

/-- The multiple of a power of ten, nearest to a number, that is rounded to it. -/
def onGrid? (x : Binary64) (exponent : Int) : Option Nat :=
  let scale (quarters : Nat) := quarters * Nat.pow 10 (-exponent).toNat
  let cell := 4 * one * Nat.pow 10 exponent.toNat
  let (low, high) := x.interval
  let hits (n : Nat) :=
    if x.hasEnds then scale low ≤ n * cell && n * cell ≤ scale high
    else scale low < n * cell && n * cell < scale high
  let closest := nearest (scale (4 * x.units)) cell
  let below := scale (4 * x.units) / cell
  [closest, below, below + 1].find? hits

/-- Digits and the exponent of the last of them, which is zero for no number but zero. -/
def shortest (x : Binary64) : Nat × Int :=
  if x.units = 0 then (0, 0)
  else
    let found := (List.range 17).findSome? fun (more : Nat) =>
      let exponent := x.leadingExponent - more
      (x.onGrid? exponent).map (·, exponent)
    let (digits, exponent) := found.getD (0, 0)
    if digits % 10 = 0 then (digits / 10, exponent + 1) else (digits, exponent)

end EntityService.Json.Binary64
