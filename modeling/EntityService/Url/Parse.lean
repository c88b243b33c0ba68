import EntityService.Url.Basic
import EntityService.Url.Host
import EntityService.Url.Path

/-! Reading an absolute URL. Text around it that cannot be seen is ignored, and so are tabs and line
ends inside. The scheme comes first; what follows it is cut at the signs that end the authority, the
path and the query. -/
namespace EntityService.Url

open Text

/-- The text that counts. -/
def visible (cs : List Char) : List Char :=
  let stripped := ((cs.dropWhile (· ≤ ' ')).reverse.dropWhile (· ≤ ' ')).reverse
  stripped.filter fun c => c != '\t' && c != '\n' && c != '\r'

def isSchemeRest (c : Char) : Bool := c.isAlphanum || ['+', '-', '.'].contains c

/-- The scheme in small letters, and what follows its colon. -/
def scheme? (cs : List Char) : Option (String × List Char) :=
  match cs.takeWhile isSchemeRest, cs.dropWhile isSchemeRest with
  | c :: name, ':' :: rest =>
    if c.isAlpha then some (String.ofList ((c :: name).map Char.toLower), rest) else none
  | _, _ => none

/-- The query and the fragment that follow a path. -/
def readQuery (special : Bool) (cs : List Char) : Option String :=
  match cs.takeWhile (· != '#') with
  | '?' :: query =>
    let set := if special then EncodeSet.specialQuery else EncodeSet.query
    some (String.ofList (Percent.encode set query))
  | _ => none

def readFragment (cs : List Char) : Option String :=
  match cs.dropWhile (· != '#') with
  | '#' :: fragment => some (String.ofList (Percent.encode EncodeSet.fragment fragment))
  | _ => none

def endsPath (c : Char) : Bool := c == '?' || c == '#'

/-- The path in front of a query and a fragment. -/
def pathPart (cs : List Char) : List Char := cs.takeWhile (!endsPath ·)

/-- A URL with this path, and with the query and the fragment of a text. -/
def withTail (u : Url) (path cs : List Char) : Url :=
  let tail := cs.dropWhile (!endsPath ·)
  { u with
    path := String.ofList path
    query := readQuery (isSpecial u.scheme) tail
    fragment := readFragment tail }

/-- The credentials end at the last of these signs. -/
def splitCredentials (cs : List Char) : Option (List Char × List Char) :=
  match cs.reverse.dropWhile (· != '@') with
  | '@' :: credentials => some (credentials.reverse, (cs.reverse.takeWhile (· != '@')).reverse)
  | _ => none

/-- The user name and the password, set apart by a colon. -/
def readCredentials (cs : List Char) : String × String :=
  let encoded (cs : List Char) := String.ofList (Percent.encode EncodeSet.credentials cs)
  (encoded (cs.takeWhile (· != ':')), encoded ((cs.dropWhile (· != ':')).drop 1))

/-- The port in front of a text, unless it is the default, and the rest of the text. -/
def readPort (scheme : String) (cs : List Char) :
    Except UrlError (Option Nat × List Char) :=
  let digits := cs.takeWhile Char.isDigit
  let rest := cs.dropWhile Char.isDigit
  let port := Nat.ofDigitChars 10 digits 0
  if 0xFFFF < port || rest.head?.any (· != '\\') then .error .invalidPort
  else if digits.isEmpty || some port = defaultPort? scheme then .ok (none, rest)
  else .ok (some port, rest)

def readHost (scheme : String) (cs : List Char) : Except UrlError String :=
  if isSpecial scheme then specialHost cs else plainHost cs

/-- The host and the port, and what the port has left of the text. -/
def readHostAndPort (scheme : String) (cs : List Char) :
    Except UrlError (String × Option Nat × List Char) := do
  let (host, rest) := takeHost false cs
  let host ← readHost scheme host
  match rest with
  | ':' :: rest =>
    if host.isEmpty then throw .emptyHost
    let (port, rest) ← readPort scheme rest
    return (host, port, rest)
  | rest => return (host, none, rest)

def endsAuthority (special : Bool) (c : Char) : Bool := isSlash special c || endsPath c

/-- A path after an authority begins with a slash, or it is empty. -/
def authorityPath (special : Bool) (cs : List Char) : List Char :=
  if special || !cs.isEmpty then segmentPath special cs else []

/-- A URL with an authority. Credentials need a host. -/
def readAuthority (scheme : String) (cs : List Char) : Except UrlError Url := do
  let special := isSpecial scheme
  let authority := cs.takeWhile (!endsAuthority special ·)
  let after := cs.dropWhile (!endsAuthority special ·)
  let (credentials, rest) := (splitCredentials authority).getD ([], authority)
  if (splitCredentials authority).isSome && credentials.isEmpty && rest.isEmpty &&
      !after.isEmpty then throw .emptyHost
  let (username, password) := readCredentials credentials
  let (host, port, rest) ← readHostAndPort scheme rest
  if host.isEmpty && !(username.isEmpty && password.isEmpty) then throw .emptyHost
  let u : Url := { scheme, username, password, host := some host, port, path := "" }
  return withTail u (authorityPath special (pathPart (rest ++ after))) (rest ++ after)

/-- The host of a file. The local host and a drive letter are none. -/
def readFileHost (cs : List Char) : Except UrlError String :=
  if cs.isEmpty || isDriveLetter cs then .ok ""
  else (specialHost cs).map fun host => if host == "localhost" then "" else host

/-- A file whose host and path are known. A drive letter leaves no host. -/
def fileUrl (scheme host : String) (path : List (List Char)) (cs : List Char) : Url :=
  let host := if beginsWithDrive path then "" else host
  withTail { scheme, host := some host, path := "" } (filePath path) cs

/-- A file. After the slashes that announce a host, but no host, a slash ends a segment. -/
def readFileUrl (scheme : String) (cs : List Char) : Except UrlError Url := do
  match cs with
  | first :: second :: rest =>
    if isSlash true first && isSlash true second then
      let text := rest.takeWhile (!endsAuthority true ·)
      let host ← readFileHost text
      let after := if isDriveLetter text then rest else rest.dropWhile (!endsAuthority true ·)
      let path := if host.isEmpty then pathPart after else withoutSlash true (pathPart after)
      return fileUrl scheme host (fileSegments path) after
    else return fileUrl scheme "" (fileSegments (withoutSlash true (pathPart cs))) cs
  | cs => return fileUrl scheme "" (fileSegments (withoutSlash true (pathPart cs))) cs

/-- A URL without an authority. -/
def readPlain (scheme : String) (cs : List Char) : Url :=
  let path := pathPart cs
  let normal :=
    if cs.head? = some '/' then segmentPath false path else Percent.encode EncodeSet.controls path
  withTail { scheme, path := "" } normal cs

def readAfterScheme (scheme : String) (cs : List Char) : Except UrlError Url :=
  if scheme == "file" then readFileUrl scheme cs
  else if isSpecial scheme then readAuthority scheme (cs.dropWhile (isSlash true))
  else match cs with
    | '/' :: '/' :: rest => readAuthority scheme rest
    | cs => .ok (readPlain scheme cs)

def parse (text : String) : Except UrlError Url :=
  match scheme? (visible text.toList) with
  | some (scheme, rest) => readAfterScheme scheme rest
  | none => .error .relativeWithoutBase

end EntityService.Url
