import KnxBus.Lpdu

/-!
# Monitoring

A medium may report raw captures instead of frames, while it monitors the bus, or captures before
each frame, while a virtual monitor is open beside normal operation.
-/

namespace KnxBus

/-- The two switches of a medium. -/
structure MonitorMode where
  /-- Captures instead of frames. -/
  busmonitor : Bool
  /-- Captures before frames. -/
  virtualMonitor : Bool
  deriving DecidableEq, Repr

namespace MonitorMode

/-- Both switches off. -/
def off : MonitorMode := ⟨false, false⟩

/-- The capture of a frame; a frame that cannot be written gives none. -/
def captureOf (frame : Frame) : List Lpdu :=
  match frame.capture with
  | .ok raw => [.capture raw]
  | .error _ => []

/-- A frame whose individual destination has been set to the one that means "this device". -/
def clearIndividual (frame : Frame) : Frame :=
  match frame.destination with
  | .individual _ => { frame with destination := .individual .unset }
  | .group _ => frame

/-- What is reported for one frame on the bus.  The capture shows the destination as it was, the
frame may have an individual one cleared. -/
def framesFor (mode : MonitorMode) (frame : Frame) (clear : Bool) : List Lpdu :=
  if mode.busmonitor then captureOf frame
  else
    (if mode.virtualMonitor then captureOf frame else []) ++
      [.data (if clear then clearIndividual frame else frame)]

end MonitorMode
end KnxBus
