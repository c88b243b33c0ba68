/-! The characters that are percent-encoded in each part of a URL. -/
namespace EntityService.Url.EncodeSet

/-- Controls, and all characters beyond ASCII. -/
def controls (c : Char) : Bool := c.toNat < 0x20 || 0x7F ≤ c.toNat

def fragment (c : Char) : Bool := controls c || [' ', '"', '<', '>', '\x60'].contains c

def query (c : Char) : Bool := controls c || [' ', '"', '#', '<', '>'].contains c

def specialQuery (c : Char) : Bool := query c || c == '\''

def path (c : Char) : Bool := fragment c || ['#', '?', '\x7b', '\x7d'].contains c

def credentials (c : Char) : Bool :=
  path c || ['/', ':', ';', '=', '@', '[', '\\', ']', '^', '|'].contains c

end EntityService.Url.EncodeSet
