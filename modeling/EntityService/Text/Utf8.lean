/-! UTF-8 octets of a text, and the text of any octets. Octets that belong to no character are read
as U+FFFD, one for each longest run that some character could have started with. -/
namespace EntityService.Text.Utf8

abbrev Octets := List UInt8

def encode (cs : List Char) : Octets := cs.flatMap String.utf8EncodeChar

/-- Stands in the text for octets that belong to no character. -/
def replacement : Char := Char.ofNat 0xFFFD

/-- A character that is read in part: the bits so far, the number of octets to come, and the bounds
of the next one. -/
structure Started where
  bits : Nat
  missing : Nat
  low : Nat
  high : Nat

/-- The lead octet of a character that has more than one octet. -/
def lead? (b : Nat) : Option Started :=
  if 0xC2 ≤ b ∧ b ≤ 0xDF then some ⟨b - 0xC0, 1, 0x80, 0xBF⟩
  else if b = 0xE0 then some ⟨0, 2, 0xA0, 0xBF⟩
  else if b = 0xED then some ⟨0xD, 2, 0x80, 0x9F⟩
  else if 0xE1 ≤ b ∧ b ≤ 0xEF then some ⟨b - 0xE0, 2, 0x80, 0xBF⟩
  else if b = 0xF0 then some ⟨0, 3, 0x90, 0xBF⟩
  else if 0xF1 ≤ b ∧ b ≤ 0xF3 then some ⟨b - 0xF0, 3, 0x80, 0xBF⟩
  else if b = 0xF4 then some ⟨4, 3, 0x80, 0x8F⟩
  else none

/-- An octet between two characters: what it adds to the text, and the character that it starts. -/
def first (b : Nat) : List Char × Option Started :=
  if b < 0x80 then ([Char.ofNat b], none)
  else match lead? b with
    | some started => ([], some started)
    | none => ([replacement], none)

/-- The same for an octet inside a character. -/
def next (started : Started) (b : Nat) : List Char × Option Started :=
  if started.low ≤ b ∧ b ≤ started.high then
    let bits := started.bits * 0x40 + b % 0x40
    if started.missing = 1 then ([Char.ofNat bits], none)
    else ([], some ⟨bits, started.missing - 1, 0x80, 0xBF⟩)
  else
    let (cs, started) := first b
    (replacement :: cs, started)

def decodeFrom : Option Started → Octets → List Char
  | none, [] => []
  | some _, [] => [replacement]
  | none, b :: bs => (first b.toNat).1 ++ decodeFrom (first b.toNat).2 bs
  | some started, b :: bs =>
    (next started b.toNat).1 ++ decodeFrom (next started b.toNat).2 bs

def decode (octets : Octets) : List Char := decodeFrom none octets

end EntityService.Text.Utf8
