import KnxBus.Medium.Error
import KnxBus.Medium.Monitor

/-!
# The loopback medium

A bus within the process: every frame that is sent is received back.  It can be told that something
arrives as if another device had sent it, and that it is lost.  What had been received before the
loss can still be taken.
-/

namespace KnxBus

/-- A bus within the process. -/
structure Loopback where
  /-- The address of this device. -/
  address : IndividualAddress
  /-- Whether it reports captures. -/
  mode : MonitorMode
  /-- What has been received and not been taken, oldest first. -/
  inbox : List Lpdu
  /-- Whether it is lost. -/
  lost : Bool
  deriving DecidableEq, Repr

namespace Loopback

/-- A fresh bus. -/
def ofAddress (address : IndividualAddress) : Loopback := ⟨address, .off, [], false⟩

/-- What the bus makes of something that is heard on it. -/
def report (mode : MonitorMode) : Lpdu → List Lpdu
  | .data frame => mode.framesFor frame false
  | other => [other]

/-- Something is heard on the bus.  Nothing is heard on a lost one. -/
def inject (l : Loopback) (heard : Lpdu) : Loopback :=
  if l.lost then l else { l with inbox := l.inbox ++ report l.mode heard }

/-- The bus is lost. -/
def disconnect (l : Loopback) : Loopback := { l with lost := true }

/-- Sends a frame. -/
def send (l : Loopback) (frame : Frame) : Except LinkError Loopback :=
  if l.lost then .error .connectionLost else .ok (l.inject (.data frame))

/-- Takes what was received first. -/
def receive (l : Loopback) : Option Lpdu × Loopback :=
  match l.inbox with
  | [] => (none, l)
  | first :: rest => (some first, { l with inbox := rest })

end Loopback
end KnxBus
