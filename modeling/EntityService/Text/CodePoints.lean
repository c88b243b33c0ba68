/-! Sets of code points, written as closed ranges. An alternating range holds its first code point
and then every second one up to its last. A run gives each code point from its first on a value. -/
namespace EntityService.Text

/-- Membership in the union of closed ranges. -/
def inRanges (ranges : List (Nat × Nat)) (n : Nat) : Bool :=
  ranges.any fun r => r.1 ≤ n && n ≤ r.2

/-- Membership in the union of alternating ranges. -/
def inAlternating (ranges : List (Nat × Nat)) (n : Nat) : Bool :=
  ranges.any fun r => r.1 ≤ n && n ≤ r.2 && (n - r.1) % 2 == 0

/-- The value of a code point in the first run that has one. -/
def inRuns? {α : Type} (runs : List (Nat × List α)) (n : Nat) : Option α :=
  runs.findSome? fun run => if run.1 ≤ n then run.2[n - run.1]? else none

end EntityService.Text
