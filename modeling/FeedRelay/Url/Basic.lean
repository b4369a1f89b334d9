import FeedRelay.Address.Ipv6
import FeedRelay.Url.Path

/-!
# Web addresses

The parts of a web address and its text. All parts are kept in the form in which they are
written, so the text of an address is its parts with the marks between them.
-/

namespace FeedRelay

namespace Url

/-- The host of an address. -/
inductive Host where
  | domain (name : List Char)
  | ipv4 (ip : Address.Ipv4)
  | ipv6 (ip : Address.Ipv6)
  deriving DecidableEq, Repr

/-- The text of a host. -/
def Host.render : Host → List Char
  | .domain name => name
  | .ipv4 ip => ip.render
  | .ipv6 ip => '[' :: ip.render ++ [']']

/-- Whom an address belongs to: a user, who may have a password, a host, and the number of a
socket there. -/
structure Authority where
  username : List Char
  password : Option (List Char)
  host : Host
  number : Option Nat
  deriving DecidableEq, Repr

/-- The user and the password, if there is either, with the mark that ends them. -/
def Authority.renderUser (a : Authority) : List Char :=
  match a.password with
  | some password => a.username ++ ':' :: password ++ ['@']
  | none => if a.username.isEmpty then [] else a.username ++ ['@']

/-- The text of an authority. -/
def Authority.render (a : Authority) : List Char :=
  let number := match a.number with
    | some n => ':' :: Nat.toDigits 10 n
    | none => []
  a.renderUser ++ a.host.render ++ number

end Url

/-- A web address. -/
structure Url where
  scheme : List Char
  authority : Option Url.Authority
  path : Url.Path
  query : Option (List Char)
  fragment : Option (List Char)
  deriving DecidableEq, Repr

namespace Url

/-- The schemes whose addresses have an authority and a path that is never empty. -/
def isSpecial (scheme : List Char) : Bool :=
  String.ofList scheme ∈ ["http", "https", "ws", "wss", "ftp", "file"]

/-- The number of a socket that a scheme implies. -/
def impliedNumber? (scheme : List Char) : Option Nat :=
  match String.ofList scheme with
  | "http" | "ws" => some 80
  | "https" | "wss" => some 443
  | "ftp" => some 21
  | _ => none

/-- The path as it is written. Without an authority, two slashes at its beginning would be
taken for the mark of one, so a dot goes before them. -/
def renderPath (url : Url) : List Char :=
  match url.authority, url.path with
  | none, .segments ([] :: next :: rest) =>
    '/' :: '.' :: Path.renderSegments ([] :: next :: rest)
  | _, path => path.render

/-- The characters of an address. -/
def render (url : Url) : List Char :=
  let authority := match url.authority with
    | some a => '/' :: '/' :: a.render
    | none => []
  let query := match url.query with
    | some q => '?' :: q
    | none => []
  let fragment := match url.fragment with
    | some f => '#' :: f
    | none => []
  url.scheme ++ ':' :: authority ++ url.renderPath ++ query ++ fragment

/-- The text of an address. -/
def toText (url : Url) : String :=
  String.ofList url.render

/-- Why a text is no web address. -/
inductive Fault where
  | emptyHost
  | invalidDomain
  | invalidHostCharacter
  | invalidIpv4
  | invalidIpv6
  | invalidNumber
  | noScheme
  deriving DecidableEq, Repr

/-- The wording of a fault. -/
def Fault.message : Fault → String
  | .emptyHost => "empty host"
  | .invalidDomain => "invalid international domain name"
  | .invalidHostCharacter => "invalid domain character"
  | .invalidIpv4 => "invalid IPv4 address"
  | .invalidIpv6 => "invalid IPv6 address"
  | .invalidNumber => "invalid port number"
  | .noScheme => "relative URL without a base"

end Url

end FeedRelay
