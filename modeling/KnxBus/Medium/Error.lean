import KnxBus.Octets.Error

/-!
# Why a medium refuses

A medium may not support what it is asked for, may not be connected, may have lost its connection or
may have been stopped; a frame may have no octets; and the operating system may fail.  What the
operating system says is not known here, so a failure of that kind has no sentence of its own, and
neither has any failure that would quote it.
-/

namespace KnxBus

/-- Why a medium did not do what it was asked. -/
inductive LinkError where
  /-- The operating system failed. -/
  | io
  /-- Received octets could not be understood. -/
  | decode (cause : DecodeError)
  /-- A frame could not be written. -/
  | encode (cause : EncodeError)
  /-- The medium cannot do that at all. -/
  | unsupported (what : String)
  /-- There is no connection yet. -/
  | notConnected
  /-- There is no connection any more. -/
  | connectionLost
  /-- The medium has been stopped. -/
  | stopped
  deriving DecidableEq, Repr

/-- The sentence that names the cause, where it is known. -/
def LinkError.message? : LinkError → Option String
  | .io => none
  | .decode cause => some ("decode error: " ++ cause.message)
  | .encode cause => some ("encode error: " ++ cause.message)
  | .unsupported what => some ("unsupported by this medium: " ++ what)
  | .notConnected => some "medium not connected"
  | .connectionLost => some "connection to the medium lost"
  | .stopped => some "medium stopped"

end KnxBus
