/-! Tokens, of which header names and media types are made. -/
namespace EntityService.Http

def tokenMarks : List Char :=
  ['!', '#', '$', '%', '&', '\'', '*', '+', '-', '.', '^', '_', '\x60', '|', '~']

/-- Letters and digits of ASCII, and some marks. -/
def isTokenChar (c : Char) : Bool := c.isAlphanum || tokenMarks.contains c

def isToken (cs : List Char) : Bool := !cs.isEmpty && cs.all isTokenChar

end EntityService.Http
