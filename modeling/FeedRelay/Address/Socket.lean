import FeedRelay.Address.Ipv6

/-!
# Socket addresses

An address of a host with a number that tells its services apart, `127.0.0.1:7171` or
`[::1]:7171`, and addresses whose host may be a name.
-/

namespace FeedRelay.Address

/-- An address of a host. -/
inductive Ip where
  | v4 (ip : Ipv4)
  | v6 (ip : Ipv6)
  deriving DecidableEq, Repr

/-- The text of an address; one that stands for an IPv4 address shows it. -/
def Ip.render : Ip → List Char
  | .v4 ip => ip.render
  | .v6 ip =>
    match ip.mapped? with
    | some inner => "::ffff:".toList ++ inner.render
    | none => ip.render

/-- An address, or the IPv4 address that it stands for. -/
def Ip.plain : Ip → Ip
  | .v4 ip => .v4 ip
  | .v6 ip =>
    match ip.mapped? with
    | some inner => .v4 inner
    | none => .v6 ip

/-- Whether an address stands for all addresses of a host. -/
def Ip.isWide : Ip → Bool
  | .v4 ip => ip.value = 0
  | .v6 ip => ip.groups.all (· == 0)

/-- A socket address. An IPv6 address may belong to one interface of a host, whose number is the
scope; zero is no interface. -/
structure Socket where
  ip : Ip
  number : Nat
  scope : Nat := 0
  deriving DecidableEq, Repr

namespace Socket

/-- The text of a socket address. -/
def render (s : Socket) : List Char :=
  let scope := if s.scope = 0 then [] else '%' :: Nat.toDigits 10 s.scope
  let host := match s.ip with
    | .v4 _ => s.ip.render
    | .v6 _ => '[' :: s.ip.render ++ scope ++ [']']
  host ++ ':' :: Nat.toDigits 10 s.number

/-- The greatest number of an interface. -/
def scopeLimit : Nat := Nat.pow 2 32 - 1

/-- The number of an interface in decimal. -/
def scope? (cs : List Char) : Option Nat :=
  (Decimal.Literal.natural? cs).filter (· ≤ scopeLimit)

/-- An IPv6 address and the interface behind a percent sign, as `readScope` reads it from the
address and what is behind the sign. Without a sign there is no interface. -/
def scoped? (readScope : Ipv6 → List Char → Option Nat) (cs : List Char) :
    Option (Ipv6 × Nat) := do
  match Text.splitOnce '%' cs with
  | none => return (← Ipv6.ofChars? cs, 0)
  | some (before, after) =>
    let ip ← Ipv6.ofChars? before
    return (ip, ← readScope ip after)

/-- The number behind the colon of a socket address. -/
def number? (cs : List Char) : Option Nat :=
  (Decimal.Literal.natural? cs).filter (· ≤ 65535)

/-- The text before the last colon and the text after it. -/
def splitLast (cs : List Char) : Option (List Char × List Char) :=
  let after := (cs.reverse.takeWhile (· ≠ ':')).reverse
  if after.length = cs.length then none
  else some (cs.take (cs.length - after.length - 1), after)

/-- Read a socket address. -/
def ofChars? (cs : List Char) : Option Socket := do
  let (host, digits) ← splitLast cs
  let number ← number? digits
  match host with
  | '[' :: inner =>
    if inner.getLast? = some ']' then
      let (ip, scope) ← scoped? (fun _ => scope?) inner.dropLast
      return { ip := .v6 ip, number, scope }
    else none
  | _ => return { ip := .v4 (← Ipv4.ofChars? host), number }

/-- Whether nobody can listen on one of two sockets while somebody listens on the other one. -/
def overlaps (a b : Socket) : Bool :=
  let x := a.ip.plain
  let y := b.ip.plain
  a.number = b.number && (x = y || x.isWide || y.isWide)

end Socket

end FeedRelay.Address
