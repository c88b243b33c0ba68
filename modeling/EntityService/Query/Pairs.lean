import EntityService.Text.Percent

/-! The pairs of a query string. They are set apart by ampersands, and the first equals sign of a
pair ends its key; plus signs stand for themselves. -/
namespace EntityService.Query

open Text

/-- A key and a value as they are meant, before percent encoding. -/
abbrev Pair := String × String

/-- Without an equals sign the value is empty. -/
def readPair (cs : List Char) : Pair :=
  (Percent.decoded (cs.takeWhile (· != '=')), Percent.decoded ((cs.dropWhile (· != '=')).drop 1))

/-- Question marks in front and pairs without any text are ignored. -/
def readPairs (query : String) : List Pair :=
  (((query.toList.dropWhile (· == '?')).splitOn '&').filter (!·.isEmpty)).map readPair

def writePair (p : Pair) : List Char :=
  Percent.encodeComponent p.1.toList ++ '=' :: Percent.encodeComponent p.2.toList

/-- A query string with the given pairs. -/
def writePairs (pairs : List Pair) : String :=
  String.ofList (['&'].intercalate (pairs.map writePair))

end EntityService.Query
