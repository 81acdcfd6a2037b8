import KnxBus.Ip.Discovery
import KnxBus.Medium.Url

/-!
# How a gateway is set up
-/

namespace KnxBus

/-- What a gateway offers, and its timers in milliseconds and limits. -/
structure GatewayConfig where
  /-- The multicast group in which frames are routed. -/
  multicast : Ipv4
  /-- The port, zero for any. -/
  port : UInt16
  /-- Whether channels are offered. -/
  tunnel : Bool
  /-- Whether frames are routed. -/
  route : Bool
  /-- Whether the gateway can be found. -/
  discover : Bool
  /-- The name that people see. -/
  name : String
  /-- How long a channel lasts without a sign of its client. -/
  channelTimeout : Nat
  /-- How long an acknowledgement may take. -/
  sendRetry : Nat
  /-- How often a frame is sent at most. -/
  sendAttempts : Nat
  deriving DecidableEq, Repr

namespace GatewayConfig

/-- The usual set-up; nothing is offered. -/
def usual : GatewayConfig :=
  { multicast := MediumUrl.defaultMulticast
    port := MediumUrl.defaultPort
    tunnel := false
    route := false
    discover := false
    name := "eibd"
    channelTimeout := 120000
    sendRetry := 1000
    sendAttempts := 10 }

/-- Whether the gateway takes part in the bus. -/
def usesBus (c : GatewayConfig) : Bool := c.route || c.tunnel

/-- What the gateway says about itself. -/
def device (c : GatewayConfig) : DeviceInfo :=
  { DeviceInfo.blank with multicast := c.multicast, name := c.name }

/-- The families of services that are offered. -/
def services (c : GatewayConfig) : List ServiceFamily :=
  (if c.discover then [.core] else []) ++ (if c.tunnel then [.tunnelling] else []) ++
    (if c.route then [.routing] else [])

end GatewayConfig
end KnxBus
