import FeedRelay.Address.Ipv4

/-!
# IPv6 addresses

An address is eight groups of 16 bits, written in hexadecimal with colons between them. Two
colons stand for a run of zero groups, of which there is at most one in a text, and the last
two groups may be written as an IPv4 address.
-/

namespace FeedRelay.Address

/-- An IPv6 address, by its eight groups. -/
structure Ipv6 where
  groups : List Nat
  deriving DecidableEq, Repr

namespace Ipv6

/-- A group: one to four hexadecimal digits. -/
def group? (cs : List Char) : Option Nat :=
  if cs.isEmpty || 4 < cs.length then none else Ipv4.digitsIn? 16 cs

/-- The groups between colons. The last part may be an IPv4 address, which counts twice. -/
def groups? : List (List Char) → Option (List Nat)
  | [] => some []
  | [last] =>
    if last.contains '.' then
      (Ipv4.ofChars? last).map fun ip => [ip.value / 65536, ip.value % 65536]
    else (group? last).map fun g => [g]
  | part :: rest => do
    let g ← group? part
    let gs ← groups? rest
    return g :: gs

/-- The groups on one side of the two colons, where there may be none. -/
def side? (cs : List Char) : Option (List Nat) :=
  if cs.isEmpty then some [] else groups? (Text.split ':' cs)

/-- The text before the first two colons and the text after them. -/
def splitGap : List Char → Option (List Char × List Char)
  | ':' :: ':' :: rest => some ([], rest)
  | c :: rest => (splitGap rest).map fun (before, after) => (c :: before, after)
  | [] => none

/-- Read an address. -/
def ofChars? (cs : List Char) : Option Ipv6 :=
  match splitGap cs with
  | none => ((groups? (Text.split ':' cs)).filter (·.length == 8)).map Ipv6.mk
  | some (before, after) => do
    let left ← if before.contains '.' then none else side? before
    let right ← side? after
    let missing := 8 - (left.length + right.length)
    if missing = 0 then none else return ⟨left ++ List.replicate missing 0 ++ right⟩

/-- The length of the run of zeros at the beginning of a list. -/
def zeros (groups : List Nat) : Nat :=
  (groups.takeWhile (· == 0)).length

/-- The place and the length of the longest run of zeros, the first one of equal length. -/
def longestZeros (groups : List Nat) : Nat × Nat :=
  (List.range groups.length).foldl
    (fun (best : Nat × Nat) i =>
      let n := zeros (groups.drop i)
      if best.2 < n then (i, n) else best)
    (0, 0)

/-- Groups in hexadecimal, with colons between them. -/
def renderGroups (groups : List Nat) : List Char :=
  List.intercalate [':'] (groups.map Text.Hex.ofNat)

/-- The text of an address: two colons for the longest run of at least two zero groups. -/
def render (ip : Ipv6) : List Char :=
  let (start, count) := longestZeros ip.groups
  if count < 2 then renderGroups ip.groups
  else renderGroups (ip.groups.take start) ++ ':' :: ':' ::
    renderGroups (ip.groups.drop (start + count))

/-- The IPv4 address inside of an address, if it is one that stands for an IPv4 address. -/
def mapped? (ip : Ipv6) : Option Ipv4 :=
  match ip.groups with
  | [0, 0, 0, 0, 0, 0xFFFF, high, low] => some ⟨high * 65536 + low⟩
  | _ => none

/-- Whether an address stands for many hosts. -/
def isMulticast (ip : Ipv6) : Bool :=
  ip.groups.head?.any (0xFF00 ≤ ·)

/-- Whether an address has a meaning on one link only. -/
def isLinkLocal (ip : Ipv6) : Bool :=
  ip.groups.head?.any fun g => g / 64 = 0xFE80 / 64 || (0xFF00 ≤ g && g % 16 = 2)

end Ipv6

end FeedRelay.Address
