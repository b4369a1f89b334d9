import FeedRelay.Url.Basic
import FeedRelay.Url.Domain

/-!
# Reading web addresses

Reading is lenient: blanks around an address and line ends inside of it are dropped, special
schemes take backslashes for slashes and any number of them before the authority, and what
may not stand in a part is percent-encoded there. Hosts and numbers of sockets are checked.
-/

namespace FeedRelay.Url

/-- The text without controls and spaces at its ends. -/
def trimEdges (text : List Char) : List Char :=
  let isEdge (c : Char) : Bool := c.toNat ≤ 0x20
  ((text.dropWhile isEdge).reverse.dropWhile isEdge).reverse

/-- The scheme, in lower case, and what follows its colon. -/
def splitScheme (text : List Char) : Option (List Char × List Char) := do
  let (before, rest) ← Text.splitOnce ':' text
  match Path.visible before with
  | c :: scheme =>
    if c.isAlpha ∧ scheme.all fun c => c.isAlphanum || c = '+' || c = '-' || c = '.' then
      some ((c :: scheme).map Char.toLower, rest)
    else none
  | [] => none

/-- Whether a character separates segments: in special schemes, backslashes do as well. -/
def isSlash (special : Bool) (c : Char) : Bool :=
  c = '/' || (special && c = '\\')

/-- The characters that stay as they are in a user name or a password. -/
def keepInUser (c : Char) : Bool :=
  Path.keep c && !(['/', ':', ';', '=', '@', '[', '\\', ']', '^', '|'].contains c)

/-- The characters that stay as they are in a query. -/
def keepInQuery (special : Bool) (c : Char) : Bool :=
  !Text.Percent.isControl c && !([' ', '"', '#', '<', '>'].contains c) &&
    !(special && c = '\'')

/-- The characters that stay as they are in a fragment. -/
def keepInFragment (c : Char) : Bool :=
  !Text.Percent.isControl c && !([' ', '"', '<', '>', '\x60'].contains c)

/-- The host of an address with a special scheme. -/
def Host.special? (text : List Char) : Except Fault Host :=
  match text with
  | '[' :: inner =>
    if inner.getLast? = some ']' then
      match Address.Ipv6.ofChars? inner.dropLast with
      | some ip => .ok (.ipv6 ip)
      | none => .error .invalidIpv6
    else .error .invalidIpv6
  | _ =>
    match Domain.toAscii? (Text.Percent.decode text) with
    | none => .error .invalidDomain
    | some [] => .error .emptyHost
    | some name =>
      if Address.Ipv4.looksNumeric name then
        match Address.Ipv4.lenient? name with
        | some ip => .ok (.ipv4 ip)
        | none => .error .invalidIpv4
      else .ok (.domain name)

/-- The characters that no host of any scheme has. -/
def isForbiddenInHost (c : Char) : Bool :=
  ['\x00', '\t', '\n', '\r', ' ', '#', '/', ':', '<', '>', '?', '@', '[', '\\', ']', '^',
    '|'].contains c

/-- The host of an address with a scheme that is not special. -/
def Host.plain? (text : List Char) : Except Fault Host :=
  match text with
  | '[' :: _ => Host.special? text
  | _ =>
    if text.any isForbiddenInHost then .error .invalidHostCharacter
    else .ok (.domain (Text.Percent.encode (!Text.Percent.isControl ·) text))

/-- The text of a host, which ends at the first colon outside of brackets, and the rest. -/
def splitHost (inBrackets : Bool) : List Char → List Char × List Char
  | [] => ([], [])
  | c :: rest =>
    if c = ':' ∧ !inBrackets then ([], c :: rest)
    else
      let inBrackets := if c = '[' then true else if c = ']' then false else inBrackets
      let (host, rest) := splitHost inBrackets rest
      (c :: host, rest)

/-- The user name and the password of a text before an at sign. An empty password is none. -/
def readUser (text : List Char) : List Char × Option (List Char) :=
  let encode := Text.Percent.encode keepInUser
  match Text.splitOnce ':' text with
  | some (name, []) => (encode name, none)
  | some (name, password) => (encode name, some (encode password))
  | none => (encode text, none)

/-- The text before the last at sign, if there is one, and the text after it. -/
def splitUser (text : List Char) : Option (List Char) × List Char :=
  let after := (text.reverse.takeWhile (· ≠ '@')).reverse
  if after.length = text.length then (none, text)
  else (some (text.take (text.length - after.length - 1)), after)

/-- The number of a socket and what follows it. No digits are no number, as is the one that is
implied. -/
def readNumber (scheme : List Char) (text : List Char) :
    Except Fault (Option Nat × List Char) :=
  let digits := text.takeWhile Char.isDigit
  let rest := text.dropWhile Char.isDigit
  let number := Decimal.Literal.value digits
  if 65535 < number ∨ (!rest.isEmpty ∧ rest.head? ≠ some '\\') then .error .invalidNumber
  else if digits.isEmpty ∨ impliedNumber? scheme = some number then .ok (none, rest)
  else .ok (some number, rest)

/-- The authority of an address, and what is left of its text. `ends` says whether the address
ends behind it. -/
def readAuthority (scheme text : List Char) (ends : Bool) :
    Except Fault (Authority × List Char) := do
  let special := isSpecial scheme
  let (user, rest) := splitUser text
  let (username, password) := readUser (user.getD [])
  let (hostText, rest) := splitHost false rest
  if hostText.isEmpty ∧ (special ∨ !rest.isEmpty ∨ (user = some [] ∧ !ends)) then
    throw .emptyHost
  let host ← if special then Host.special? hostText else Host.plain? hostText
  if hostText.isEmpty ∧ (!username.isEmpty ∨ password.isSome) then throw .emptyHost
  match rest with
  | ':' :: digits =>
    let (number, rest) ← readNumber scheme digits
    return ({ username, password, host, number }, rest)
  | _ => return ({ username, password, host, number := none }, rest)

/-- The parts of a path: a first slash belongs to no part. -/
def splitPath (special : Bool) (text : List Char) : List (List Char) :=
  let slashed := text.map fun c => if isSlash special c then '/' else c
  match slashed with
  | '/' :: rest => Text.split '/' rest
  | rest => Text.split '/' rest

/-- The path behind an authority, which only in special schemes is never empty. -/
def readPath (special : Bool) (text : List Char) : Path :=
  if text.isEmpty ∧ !special then .segments []
  else .segments (Path.ofParts (splitPath special text))

/-- A path with an authority's mark before it, split at the first slash behind the mark. -/
def readWithAuthority (scheme text : List Char) (ends : Bool) :
    Except Fault (Option Authority × Path) := do
  let special := isSpecial scheme
  let authorityText := text.takeWhile (!isSlash special ·)
  let pathText := text.dropWhile (!isSlash special ·)
  let (authority, rest) ← readAuthority scheme authorityText (ends && pathText.isEmpty)
  return (some authority, readPath special (rest ++ pathText))

/-- The path of a local file, and whether it begins with a drive. Empty segments at its beginning
do not count. -/
def filePath (text : List Char) : List Segment × Bool :=
  let (list, drive) :=
    Path.followLocal [] false (splitPath true (text.dropWhile Path.vanishes))
  let trimmed := list.dropWhile (·.isEmpty)
  (if trimmed.isEmpty then [[]] else trimmed, drive)

/-- The authority of a local file, which is no more than a host. -/
def fileAuthority (host : Host) : Authority :=
  { username := [], password := none, host, number := none }

/-- What follows a slash at the beginning of a text, vanishing characters before it apart. -/
def afterSlash? (text : List Char) : Option (List Char) :=
  match text.dropWhile Path.vanishes with
  | c :: rest => if isSlash true c then some rest else none
  | [] => none

/-- Read what follows the scheme of a local file. -/
def readFile (text : List Char) : Except Fault (Option Authority × Path) := do
  let noHost := fileAuthority (.domain [])
  match (afterSlash? text).bind afterSlash? with
  | none => return (some noHost, .segments (filePath text).1)
  | some rest =>
    let hostText := Path.visible (rest.takeWhile (!isSlash true ·))
    if Path.isDrive hostText then return (some noHost, .segments (filePath rest).1)
    let host ← if hostText.isEmpty then pure (Host.domain []) else Host.special? hostText
    let (list, drive) := filePath (rest.dropWhile (!isSlash true ·))
    let host := if drive ∨ host = .domain "localhost".toList then .domain [] else host
    return (some (fileAuthority host), .segments list)

/-- Read what is between the scheme of an address and its query. -/
def readBody (scheme body : List Char) (ends : Bool) : Except Fault (Option Authority × Path) :=
  let text := Path.visible body
  if scheme = "file".toList then readFile body
  else if isSpecial scheme then
    readWithAuthority scheme (text.dropWhile (isSlash true)) ends
  else
    match text with
    | '/' :: '/' :: rest => readWithAuthority scheme rest ends
    | '/' :: rest => .ok (none, .segments (Path.ofParts (Text.split '/' rest)))
    | _ => .ok (none, .bare (Text.Percent.encode (!Text.Percent.isControl ·) text))

/-- Read an address. -/
def readChars (text : List Char) : Except Fault Url := do
  match splitScheme (trimEdges text) with
  | none => throw .noScheme
  | some (scheme, rest) =>
    let (beforeFragment, fragment) := match Text.splitOnce '#' rest with
      | some (before, after) => (before, some after)
      | none => (rest, none)
    let (body, query) := match Text.splitOnce '?' beforeFragment with
      | some (before, after) => (before, some after)
      | none => (beforeFragment, none)
    let (authority, path) ← readBody scheme body (query.isNone && fragment.isNone)
    return {
      scheme, authority, path
      query := query.map (Text.Percent.encode (keepInQuery (isSpecial scheme)) ∘ Path.visible)
      fragment := fragment.map (Text.Percent.encode keepInFragment ∘ Path.visible) }

/-- Read an address. -/
def parse (text : String) : Except Fault Url :=
  readChars text.toList

end FeedRelay.Url
