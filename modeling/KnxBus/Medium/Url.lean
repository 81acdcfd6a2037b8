import KnxBus.Ip.Host

/-!
# Naming a medium

A medium is named by a scheme and parts between colons:

* `ip:[GROUP[:PORT]]` routes through a multicast group,
* `ipt:HOST[:PORT[:LOCAL]]` tunnels through a gateway,
* `loopback:` stays within the process.

Empty parts do not count, so a part cannot be skipped by leaving it empty, and parts beyond the last
that has a meaning are ignored.  The host of a tunnel is resolved only after its ports have been
read, the group of a router before.
-/

namespace KnxBus

/-- The medium that a text names. -/
inductive MediumUrl where
  /-- Routing through a multicast group. -/
  | routing (multicast : Ipv4) (port : UInt16)
  /-- A tunnel through a gateway. -/
  | tunnel (gateway : Endpoint) (localPort : UInt16)
  /-- Within the process. -/
  | loopback
  deriving DecidableEq, Repr

/-- Why a text names no medium. -/
inductive UrlError where
  /-- The scheme is not known. -/
  | unknownScheme (scheme : String)
  /-- A part is no port. -/
  | invalidPort (part : String)
  /-- A part is no host. -/
  | unresolved (part : String)
  deriving DecidableEq, Repr

/-- The sentence that names the cause. -/
def UrlError.message : UrlError → String
  | .unknownScheme scheme => "unknown driver `" ++ scheme ++ "`"
  | .invalidPort part => "invalid port `" ++ part ++ "`"
  | .unresolved part => "cannot resolve `" ++ part ++ "` to an IPv4 address"

namespace MediumUrl

/-- The port at which gateways listen and routers route, unless another is given. -/
def defaultPort : UInt16 := 3671

/-- The multicast group for routing, unless another is given. -/
def defaultMulticast : Ipv4 := ⟨224, 0, 23, 12⟩

/-- Reads a port. -/
def readPort (part : List Char) : Except UrlError UInt16 :=
  match Number.readUpTo? 65535 part with
  | some n => .ok (UInt16.ofNat n)
  | none => .error (.invalidPort (String.ofList part))

/-- Reads the port at a place among the parts, with a value for when it is not there. -/
def portAt (parts : List (List Char)) (place : Nat) (otherwise : UInt16) :
    Except UrlError UInt16 :=
  match parts[place]? with
  | some part => readPort part
  | none => .ok otherwise

/-- Resolves a host. -/
def resolve (host : Host) (part : List Char) : Except UrlError Ipv4 :=
  match host.resolve? part with
  | some ip => .ok ip
  | none => .error (.unresolved (String.ofList part))

/-- The text before the first colon and the text behind it. -/
def splitScheme (cs : List Char) : List Char × List Char :=
  (cs.takeWhile (· ≠ ':'), (cs.dropWhile (· ≠ ':')).drop 1)

/-- The parts between colons that are not empty. -/
def parts (cs : List Char) : List (List Char) :=
  (Blank.split ':' cs).filter fun part => !part.isEmpty

/-- Reads the parts of a routing medium. -/
def parseRouting (host : Host) (ps : List (List Char)) : Except UrlError MediumUrl := do
  let multicast ←
    match ps.head? with
    | some part => resolve host part
    | none => .ok defaultMulticast
  return .routing multicast (← portAt ps 1 defaultPort)

/-- Reads the parts of a tunnel. -/
def parseTunnel (host : Host) (ps : List (List Char)) : Except UrlError MediumUrl := do
  match ps.head? with
  | none => .error (.unresolved "")
  | some part =>
    let port ← portAt ps 1 defaultPort
    let localPort ← portAt ps 2 0
    return .tunnel ⟨← resolve host part, port⟩ localPort

/-- Reads the name of a medium. -/
def parse (host : Host) (s : String) : Except UrlError MediumUrl :=
  let (scheme, rest) := splitScheme s.toList
  match String.ofList scheme with
  | "ip" => parseRouting host (parts rest)
  | "ipt" => parseTunnel host (parts rest)
  | "loopback" => .ok .loopback
  | other => .error (.unknownScheme other)

end MediumUrl
end KnxBus
