import EntityService.Json.Value
import EntityService.Text.Percent

/-! The tokens of a document. Words and numbers are runs of the same characters, and a run is read
as a whole. -/
namespace EntityService.Json

inductive Token where
  | openArray
  | closeArray
  | openObject
  | closeObject
  | comma
  | colon
  | string (s : String)
  | scalar (v : Json)

namespace Token

/-- The names of constants and the numbers. -/
def ofWord? (cs : List Char) : Option Token :=
  if cs = ['n', 'u', 'l', 'l'] then some (.scalar .null)
  else if cs = ['t', 'r', 'u', 'e'] then some (.scalar (.bool true))
  else if cs = ['f', 'a', 'l', 's', 'e'] then some (.scalar (.bool false))
  else (Number.ofText? cs).map fun n => .scalar (.number n)

def isWordChar (c : Char) : Bool := c.isAlphanum || ['+', '-', '.'].contains c

def isSpace (c : Char) : Bool := [' ', '\t', '\n', '\r'].contains c

def ofMark? (c : Char) : Option Token :=
  [('[', .openArray), (']', .closeArray), ('\x7b', .openObject), ('\x7d', .closeObject),
    (',', .comma), (':', .colon)].lookup c

def escaped? (c : Char) : Option Char :=
  [('"', '"'), ('\\', '\\'), ('/', '/'), ('b', '\x08'), ('f', '\x0c'), ('n', '\n'),
    ('r', '\r'), ('t', '\t')].lookup c

def codeUnit? (digits : List Char) : Option Nat :=
  digits.foldlM (fun value c => (Text.Percent.hexDigit? c).map (value * 16 + ·)) 0

/-- What is being read. Characters that were read come last first; inside a string the first half of
a character beyond sixteen bits may wait for the second. -/
inductive Reading where
  | nothing
  | word (read : List Char)
  | string (read : List Char) (half : Option Nat)

/-- The string after one more unit of sixteen bits. -/
def addUnit (read : List Char) (half : Option Nat) (unit : Nat) : Option Reading :=
  match half with
  | none =>
    if 0xD800 ≤ unit ∧ unit < 0xDC00 then some (.string read (some unit))
    else if 0xDC00 ≤ unit ∧ unit < 0xE000 then none
    else some (.string (Char.ofNat unit :: read) none)
  | some high =>
    if 0xDC00 ≤ unit ∧ unit < 0xE000 then
      some (.string (Char.ofNat (0x10000 + (high - 0xD800) * 0x400 + (unit - 0xDC00)) :: read) none)
    else none

/-- The token that ends where the next character is part of none. -/
def Reading.finish? : Reading → Option (List Token)
  | .nothing => some []
  | .word read => (ofWord? read.reverse).map ([·])
  | .string .. => none

/-- A character outside strings. -/
def outside? (reading : Reading) (c : Char) : Option (List Token × Reading) :=
  if isWordChar c then
    match reading with
    | .word read => some ([], .word (c :: read))
    | _ => some ([], .word [c])
  else do
    let ended ← reading.finish?
    if c == '"' then return (ended, .string [] none)
    else if isSpace c then return (ended, .nothing)
    else return (ended ++ [← ofMark? c], .nothing)

def scan : Reading → List Char → Option (List Token)
  | reading, [] => reading.finish?
  | .string read half, '\\' :: 'u' :: a :: b :: c :: d :: cs => do
    scan (← addUnit read half (← codeUnit? [a, b, c, d])) cs
  | .string _ (some _), _ :: _ => none
  | .string read none, '\\' :: c :: cs => do scan (.string ((← escaped? c) :: read) none) cs
  | .string read none, c :: cs =>
    if c == '"' then do return .string (String.ofList read.reverse) :: (← scan .nothing cs)
    else if c < ' ' then none
    else scan (.string (c :: read) none) cs
  | reading, c :: cs => do
    let (ended, reading) ← outside? reading c
    return ended ++ (← scan reading cs)

end Token
end EntityService.Json
