import EntityService.Text.Utf8

/-! Percent encoding. Reading takes a percent sign for an octet only before two hexadecimal digits;
writing encodes the octets of every character that is not left as it is. -/
namespace EntityService.Text.Percent

def hexDigit? (c : Char) : Option Nat :=
  if '0' ≤ c ∧ c ≤ '9' then some (c.toNat - 0x30)
  else if 'A' ≤ c ∧ c ≤ 'F' then some (c.toNat - 0x37)
  else if 'a' ≤ c ∧ c ≤ 'f' then some (c.toNat - 0x57)
  else none

/-- The octet written by two hexadecimal digits. -/
def hexPair? (high low : Char) : Option UInt8 := do
  return UInt8.ofNat ((← hexDigit? high) * 16 + (← hexDigit? low))

/-- The octets that a text stands for. -/
def octets : List Char → Utf8.Octets
  | [] => []
  | '%' :: high :: low :: rest =>
    match hexPair? high low with
    | some b => b :: octets rest
    | none => 0x25 :: octets (high :: low :: rest)
  | c :: rest => String.utf8EncodeChar c ++ octets rest

def decode (cs : List Char) : List Char := Utf8.decode (octets cs)

/-- The text that is meant. -/
def decoded (cs : List Char) : String := String.ofList (decode cs)

/-- The hexadecimal digit of a number below sixteen. -/
def upperHex (n : Nat) : Char := Char.ofNat (if n < 10 then 0x30 + n else 0x37 + n)

/-- Two upper-case digits after the percent sign. -/
def encodeOctet (b : UInt8) : List Char := ['%', upperHex (b.toNat / 16), upperHex (b.toNat % 16)]

/-- Encodes the characters of a set. -/
def encode (set : Char → Bool) (cs : List Char) : List Char :=
  cs.flatMap fun c => if set c then (String.utf8EncodeChar c).flatMap encodeOctet else [c]

/-- Letters and digits of ASCII, and four marks, which no part of a URL gives a meaning. -/
def isUnreserved (c : Char) : Bool := c.isAlphanum || ['-', '.', '_', '~'].contains c

/-- Encodes whatever is not unreserved. -/
def encodeComponent (cs : List Char) : List Char := encode (fun c => !isUnreserved c) cs

end EntityService.Text.Percent
