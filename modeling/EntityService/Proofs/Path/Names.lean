import EntityService.Proofs.Path.Reachability

/-! The names of segments. A key and a cast take over the name of the segment before them, and every
other segment goes by its identifier, so a name is the identifier of the last segment up to there that
has one of its own. -/
namespace EntityService.Path

open Schema Outcome

/-- The resource that a place in a path is about: the last segment up to there that is neither a key
nor a cast. -/
structure Addressed (segments : List Segment) (i j : Nat) (resource : Segment) : Prop where
  upTo : j ≤ i
  here : segments[j]? = some resource
  own : resource.kind ≠ .key ∧ resource.kind ≠ .cast
  behind : ∀ k s, j < k → k ≤ i → segments[k]? = some s → s.kind = .key ∨ s.kind = .cast

variable {d : Definitions} {g : Graph} {method : Http.Method} {path : List String} {e : Edge}
  {es : List Edge} {segments : List Segment} {s t resource : Segment} {i j position : Nat}
  {previous : Option String}

theorem SegmentKind.keepsName_iff {kind : SegmentKind} :
    kind.keepsName = true ↔ kind = .key ∨ kind = .cast := by
  cases kind <;> decide

/-- The first segment is an entry of the service root, so it has a name of its own. -/
theorem Starts.own (starts : Starts g e) : e.kind.keepsName = false := by
  cases starts with
  | @entry _ entry =>
    show (SegmentKind.ofRoot entry.kind).keepsName = false
    cases entry.kind <;> rfl

namespace Addressed

theorem succ (addressed : Addressed segments i j resource) (here : segments[i + 1]? = some s)
    (keeps : s.kind.keepsName = true) : Addressed segments (i + 1) j resource where
  upTo := Nat.le_succ_of_le addressed.upTo
  here := addressed.here
  own := addressed.own
  behind := by
    intro k t after upTo there
    rcases Nat.le_succ_iff.mp upTo with earlier | rfl
    · exact addressed.behind k t after earlier there
    · cases here.symm.trans there
      exact SegmentKind.keepsName_iff.mp keeps

end Addressed

end EntityService.Path
