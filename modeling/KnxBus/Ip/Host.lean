import KnxBus.Ip.Endpoint

/-!
# The host

What a program asks its host before it uses the network: which of the host's addresses faces a given
destination, and which addresses a name has.  Both are plain functions of a description of the host,
so that everything above them is a function too.
-/

namespace KnxBus

/-- A host: its address on the network and the names it knows. -/
structure Host where
  /-- The address that faces the network. -/
  address : Ipv4
  /-- The names that can be resolved, each with its addresses in order; an address that is not of
  version 4 is left out. -/
  names : List (String × List Ipv4)
  /-- Multicast groups that cannot be joined. -/
  closedGroups : List Ipv4
  deriving DecidableEq, Repr

namespace Host

/-- Whether datagrams to an address can leave the host; reserved addresses have no route. -/
def reaches (destination : Ipv4) : Bool := destination.a.toNat < 240

/-- The address of the host that faces a destination.  The host itself is reached over its inner
address. -/
def sourceFor? (host : Host) (destination : Ipv4) : Option Ipv4 :=
  if destination.a = 127 ∨ destination = .unspecified then some .localhost
  else if reaches destination then some host.address
  else none

/-- Whether an address is that of a multicast group. -/
def isMulticast (ip : Ipv4) : Bool := 224 ≤ ip.a.toNat && ip.a.toNat < 240

/-- The first address of a name or literal. -/
def resolve? (host : Host) (name : List Char) : Option Ipv4 :=
  match Ipv4.parse? name with
  | some ip => some ip
  | none =>
    match host.names.lookup (String.ofList name) with
    | some addresses => addresses.head?
    | none => none

end Host
end KnxBus
