import EntityService.Text.Percent

/-! Addresses of four octets. They are written as up to four numbers with dots between them, the
last of which fills the octets that are left. -/
namespace EntityService.Url.Ipv4

open Text

/-- The value of digits in a base. -/
def digits? (base : Nat) (cs : List Char) : Option Nat :=
  cs.foldlM (fun value c => do
    let digit ← Percent.hexDigit? c
    if digit < base then return value * base + digit else none) 0

/-- A number is hexadecimal after 0x, octal after another zero, and decimal otherwise. -/
def number? : List Char → Option Nat
  | [] => none
  | '0' :: 'x' :: cs | '0' :: 'X' :: cs => digits? 16 cs
  | '0' :: c :: cs => digits? 8 (c :: cs)
  | cs => digits? 10 cs

/-- The parts between the dots. A dot at the end does not count. -/
def parts (cs : List Char) : List (List Char) :=
  match (cs.splitOn '.').reverse with
  | [] :: rest => rest.reverse
  | all => all.reverse

/-- The last part looks like a number, so the whole has to be an address. -/
def endsInNumber (cs : List Char) : Bool :=
  match (parts cs).getLast? with
  | some last => (!last.isEmpty && last.all Char.isDigit) || (number? last).isSome
  | none => false

/-- The last number is below the first of these, or the next one for every octet before it. -/
def bounds : List Nat := [0x100000000, 0x1000000, 0x10000, 0x100]

/-- The address that octets and one last number make. -/
def combine? (numbers : List Nat) : Option Nat := do
  let last ← numbers.getLast?
  let octets := numbers.dropLast
  if octets.all (· < 0x100) && (bounds[octets.length]?).any (last < ·) then
    return octets.foldr (fun octet rest => octet * 0x1000000 + rest / 0x100) 0 + last
  else none

def address? (cs : List Char) : Option Nat := ((parts cs).mapM number?).bind combine?

def octets (address : Nat) : List Nat :=
  [address / 0x1000000 % 0x100, address / 0x10000 % 0x100, address / 0x100 % 0x100,
    address % 0x100]

def text (address : Nat) : String := ".".intercalate ((octets address).map Nat.repr)

end EntityService.Url.Ipv4
