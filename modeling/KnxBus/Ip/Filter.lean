import KnxBus.Ip.Endpoint

/-!
# Whose datagrams are taken
-/

namespace KnxBus

/-- Whose datagrams a socket takes. -/
inductive SourceFilter where
  /-- Those of listed senders. -/
  | peers (senders : List SocketAddress)
  /-- Everybody's. -/
  | all
  /-- Everybody's but those that the socket itself has sent to a group it belongs to. -/
  | allBut (own : SocketAddress)
  deriving DecidableEq, Repr

/-- Whether a datagram is taken. -/
def SourceFilter.accepts : SourceFilter → SocketAddress → Bool
  | .peers senders, sender => senders.contains sender
  | .all, _ => true
  | .allBut own, sender => own != sender

end KnxBus
