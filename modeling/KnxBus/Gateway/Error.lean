import KnxBus.Dispatch.Error

/-!
# Why a gateway does not start
-/

namespace KnxBus

/-- Why a gateway could not be started or an address for it not be read. -/
inductive GatewayError where
  /-- It could not register on the bus. -/
  | dispatch (cause : DispatchError)
  /-- Its socket could not be opened. -/
  | link (cause : LinkError)
  /-- The operating system failed. -/
  | io
  /-- A text is no group address. -/
  | invalidGroupAddress (text : String)
  deriving DecidableEq, Repr

/-- The sentence that names the cause, where it is known.  Trouble on the bus is reported in the
words of the dispatcher. -/
def GatewayError.message? : GatewayError → Option String
  | .dispatch cause => cause.message?
  | .link cause => cause.message?.map ("datalink error: " ++ ·)
  | .io => none
  | .invalidGroupAddress text => some ("invalid group address: " ++ text)

end KnxBus
