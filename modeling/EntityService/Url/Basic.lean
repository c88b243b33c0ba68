import EntityService.Text.Percent

/-! An absolute URL in its normal form. The parts hold text that is percent-encoded where it has to
be. A path without a host in front is either a list of segments or, if it does not begin with a
slash, any text. -/
namespace EntityService

structure Url where
  scheme : String
  username : String := ""
  password : String := ""
  host : Option String := none
  port : Option Nat := none
  path : String
  query : Option String := none
  fragment : Option String := none
deriving DecidableEq, Repr

namespace Url

/-- The special schemes with their default ports. -/
def specialSchemes : List (String × Option Nat) :=
  [("http", some 80), ("https", some 443), ("ws", some 80), ("wss", some 443), ("ftp", some 21),
   ("file", none)]

def isSpecial (scheme : String) : Bool := (specialSchemes.lookup scheme).isSome

def defaultPort? (scheme : String) : Option Nat := (specialSchemes.lookup scheme).join

/-- The sign that ends the credentials is only written after some. -/
def credentials (u : Url) : String :=
  if u.username.isEmpty && u.password.isEmpty then ""
  else if u.password.isEmpty then u.username ++ "@"
  else u.username ++ ":" ++ u.password ++ "@"

/-- What stands between the scheme and the path. A path that begins with two slashes would be taken
for a host, so a dot is put in front of it. -/
def authority (u : Url) : String :=
  match u.host with
  | some host => "//" ++ u.credentials ++ host ++ (u.port.elim "" fun p => ":" ++ p.repr)
  | none => if ['/', '/'].isPrefixOf u.path.toList then "/." else ""

def text (u : Url) : String :=
  u.scheme ++ ":" ++ u.authority ++ u.path ++ (u.query.elim "" ("?" ++ ·)) ++
    (u.fragment.elim "" ("#" ++ ·))

end Url
end EntityService
