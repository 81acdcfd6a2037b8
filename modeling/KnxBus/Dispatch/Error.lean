import KnxBus.Medium.Error

/-!
# Why a registration or a transfer fails

Monitoring the raw bus and taking part in it exclude each other, and a peer may be held by one
connection only.  Everything else comes from the medium or from the unit that was to be sent.
-/

namespace KnxBus

/-- Why the dispatcher, or something that sends through it, did not do what it was asked. -/
inductive DispatchError where
  /-- A monitor holds the bus. -/
  | monitorActive
  /-- Somebody takes part in the bus. -/
  | normalModeActive
  /-- A connection holds that peer. -/
  | addressLocked
  /-- The medium refused. -/
  | medium (cause : LinkError)
  /-- A unit could not be written. -/
  | encode (cause : EncodeError)
  /-- The connection is closed. -/
  | connectionClosed
  /-- The dispatcher has been stopped. -/
  | stopped
  deriving DecidableEq, Repr

/-- The sentence that names the cause, where it is known. -/
def DispatchError.message? : DispatchError → Option String
  | .monitorActive => some "a busmonitor is active"
  | .normalModeActive => some "normal-mode subscribers are registered"
  | .addressLocked => some "address already held by a connection"
  | .medium cause => cause.message?.map ("driver error: " ++ ·)
  | .encode cause => some ("encode error: " ++ cause.message)
  | .connectionClosed => some "connection closed"
  | .stopped => some "layer3 stopped"

end KnxBus
