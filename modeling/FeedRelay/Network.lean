import FeedRelay.Address.Socket
import FeedRelay.Url.Basic

/-!
# The network

What the relay asks of the network: to connect to a web address, and to listen on a socket
address. A network answers the first with a fault or with a connection, and the second with a
fault or with the address it listens on.
-/

namespace FeedRelay.Network

/-- Why the network does not do what it is asked to. -/
inductive Fault where
  | unreachable
  | addressNotAvailable
  | addressInUse
  | invalidArgument
  | noSuchDevice
  | refused
  | nameNotResolved
  | nameUnknown
  | nulInName
  | invalidSocketAddress
  | invalidNumber
  deriving DecidableEq, Repr

/-- The wording of a fault. -/
def Fault.message : Fault → String
  | .unreachable => "Network is unreachable (os error 101)"
  | .addressNotAvailable => "Cannot assign requested address (os error 99)"
  | .addressInUse => "Address already in use (os error 98)"
  | .invalidArgument => "Invalid argument (os error 22)"
  | .noSuchDevice => "No such device (os error 19)"
  | .refused => "Connection refused (os error 111)"
  | .nameNotResolved =>
    "failed to lookup address information: Temporary failure in name resolution"
  | .nameUnknown => "failed to lookup address information: Name or service not known"
  | .nulInName => "file name contained an unexpected NUL byte"
  | .invalidSocketAddress => "invalid socket address"
  | .invalidNumber => "invalid port value"

/-- Why a connection does not come about. -/
inductive ConnectFault where
  | addressTooLong
  | invalidCharacter
  | io (fault : Fault)
  deriving DecidableEq, Repr

/-- The wording of a fault. -/
def ConnectFault.message : ConnectFault → String
  | .addressTooLong => "HTTP format error: uri too long"
  | .invalidCharacter => "HTTP format error: invalid uri character"
  | .io fault => "IO error: " ++ fault.message

/-- The greatest length of a web address in bytes. -/
def addressLimit : Nat := 65534

/-- Whether a request cannot name a host since its name has a character that requests do not. -/
def isUnspeakable : Url.Host → Bool
  | .domain name => name.any fun c => ['"', '\x60', '\x7b', '\x7d'].contains c
  | _ => false

/-- Whether a text may be a part of the name of a host. -/
def isHostLabel (label : List Char) : Bool :=
  !label.isEmpty && label.length ≤ 63 && label.all fun c => c.isAlphanum || c = '-' || c = '_'

/-- Whether a text may be asked for as the name of a host: labels of letters, digits, hyphens and
low lines, of which the first one does not begin with a hyphen. -/
def isHostName (name : List Char) : Bool :=
  let inner := if name.getLast? = some '.' then name.dropLast else name
  name = ['.'] ||
    ((Text.split '.' inner).all isHostLabel && inner.length ≤ 253 && name.head? ≠ some '-')

/-- Why a name that nobody knows is not found where nobody answers. -/
def unknown (name : List Char) : Fault :=
  if isHostName name then .nameNotResolved else .nameUnknown

/-- Whether a name is the one that every host has for itself. -/
def isOwnName (name : List Char) : Bool :=
  name.map Char.toLower = "localhost".toList

/-- How a host answers where no interface is up. -/
def isolatedAnswer : Url.Host → Fault
  | .ipv4 _ => .unreachable
  | .ipv6 ip =>
    if ip.mapped?.isSome ∨ ip.isMulticast then .unreachable
    else if ip.isLinkLocal then .invalidArgument
    else .addressNotAvailable
  | .domain name => if isOwnName name then .unreachable else unknown name

/-- Why no connection to an address comes about where no interface is up. -/
def isolatedConnect (url : Url) : ConnectFault :=
  if addressLimit < Text.Utf8.size url.render then .addressTooLong
  else
    match url.authority with
    | some a => if isUnspeakable a.host then .invalidCharacter else .io (isolatedAnswer a.host)
    | none => .io .nameUnknown

/-- The only interface where none is up, by its number. -/
def loopbackScope : Nat := 1

/-- The interface behind an address, by its number or, if the address has a meaning on one link
only, by its name. -/
def readScope (ip : Address.Ipv6) (text : List Char) : Option Nat :=
  if ip.isLinkLocal ∧ text = "lo".toList then some loopbackScope else Address.Socket.scope? text

/-- Look up a host. -/
def lookUp (host : List Char) (number : Nat) : Except Fault Address.Socket :=
  match Address.Ipv4.host? host, Address.Socket.scoped? readScope host with
  | some ip, _ => .ok { ip := .v4 ip, number }
  | none, some (ip, scope) => .ok { ip := .v6 ip, number, scope }
  | none, none =>
    if host.contains '\x00' then .error .nulInName
    else if isOwnName host then .ok { ip := .v4 (.ofBytes 127 0 0 1), number }
    else .error (unknown host)

/-- The host and the number of an address to listen on. What is no socket address is split at
its last colon, and the host is looked up. -/
def resolve (address : String) : Except Fault Address.Socket :=
  match Address.Socket.ofChars? address.toList with
  | some socket => .ok socket
  | none =>
    match Address.Socket.splitLast address.toList with
    | none => .error .invalidSocketAddress
    | some (host, digits) =>
      match Decimal.Literal.bounded? 65535 digits with
      | none => .error .invalidNumber
      | some number => lookUp host number

/-- Whether one can listen on an IPv6 address where no interface is up: on the one that stands for
all addresses, and on no other. -/
def isolatedScope (ip : Address.Ipv6) (scope : Nat) : Except Fault Unit :=
  if ip.isMulticast then .error .invalidArgument
  else if (Address.Ip.v6 ip).isWide then .ok ()
  else if ip.isLinkLocal ∧ scope = 0 then .error .invalidArgument
  else if ip.isLinkLocal ∧ scope ≠ loopbackScope then .error .noSuchDevice
  else .error .addressNotAvailable

/-- Listen on an address where no interface is up and the sockets of a list are taken. All
IPv4 addresses can be listened on, and of the IPv6 ones those that stand for one of them or for all.
The number zero asks for any number that is free. -/
def isolatedListen (taken : List Address.Socket) (free : Nat) (address : String) :
    Except Fault Address.Socket := do
  let socket ← resolve address
  if socket.number ≠ 0 ∧ taken.any socket.overlaps then throw .addressInUse
  let bound := if socket.number = 0 then { socket with number := free } else socket
  match socket.ip.plain with
  | .v4 _ => pure ()
  | .v6 ip => isolatedScope ip socket.scope
  return { bound with scope := 0 }

end FeedRelay.Network
