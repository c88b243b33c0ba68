import EntityService.Url.Parse

/-! The origin of a URL: what has to agree for two resources to belong together. Most schemes have
an origin of their own for every URL, which agrees with no other. -/
namespace EntityService.Url

structure Origin where
  scheme : String
  host : String
  port : Nat
deriving DecidableEq, Repr

/-- The origin, if it is one that others can have too. A blob belongs to the URL that its path
holds; the number of such steps is bounded. -/
def originWithin? : Nat → Url → Option Origin
  | steps, u =>
    match defaultPort? u.scheme with
    | some port => some ⟨u.scheme, u.host.getD "", u.port.getD port⟩
    | none =>
      match steps with
      | steps + 1 =>
        if u.scheme == "blob" then (parse u.path).toOption.bind (originWithin? steps) else none
      | 0 => none

/-- The URL in a path is shorter than the path. -/
def origin? (u : Url) : Option Origin := originWithin? u.path.length u

def sameOrigin (u v : Url) : Bool := u.origin?.isSome && u.origin? == v.origin?

end EntityService.Url
