import KnxBus.Frame

/-!
# What is heard on the bus

Between frames there are single octets by which receivers answer: acknowledged, not acknowledged,
busy.  Whatever else is heard is kept octet for octet, so that a trace of the bus loses nothing; for
that reason decoding cannot fail.  A monitor reports raw captures, which can be decoded later.
-/

namespace KnxBus

/-- Something heard on the bus. -/
inductive Lpdu where
  /-- A data frame. -/
  | data (frame : Frame)
  /-- The raw octets of a frame, reported by a monitor. -/
  | capture (raw : Octets)
  /-- The answer that a frame was received. -/
  | ack
  /-- The answer that a frame was not received well. -/
  | nack
  /-- The answer that the receiver cannot take a frame now. -/
  | busy
  /-- Anything else. -/
  | unknown (raw : Octets)
  deriving DecidableEq, Repr

namespace Lpdu

/-- What the given octets on the bus are.  A data frame is recognised by four bits of its first
octet. -/
def decode (b : Octets) : Lpdu :=
  if b = [0xcc] then ack
  else if b = [0x0c] then nack
  else if b = [0xc0] then busy
  else
    match b with
    | [] => unknown []
    | control :: _ =>
      if control &&& 0x53 = 0x10 then
        match Frame.decode? b with
        | some frame => data frame
        | none => unknown b
      else unknown b

/-- The octets on the bus, or why a frame has none. -/
def toOctets : Lpdu → Except EncodeError Octets
  | data frame => frame.toOctets
  | capture raw => .ok raw
  | ack => .ok [0xcc]
  | nack => .ok [0x0c]
  | busy => .ok [0xc0]
  | unknown raw => .ok raw

/-- What is said of octets that are no frame and no answer. -/
def unknownText : Octets → String
  | [] => "empty LPDU"
  | raw => "Unknown LPDU: " ++ Octets.dump raw

/-- What was heard, in words, where a capture inside is left as a dump.  Decoding never gives a
capture, so this is all that is needed to describe one. -/
def plainText : Lpdu → String
  | data frame => frame.text
  | capture raw => Octets.dump raw
  | ack => "ACK"
  | nack => "NACK"
  | busy => "BUSY"
  | unknown raw => unknownText raw

/-- A capture in words: the octets, then what they decode to. -/
def captureText (raw : Octets) : String :=
  "L_Busmonitor: " ++ Octets.dump raw ++ ": " ++ (decode raw).plainText

/-- What was heard, in words. -/
def text : Lpdu → String
  | capture raw => captureText raw
  | other => other.plainText

end Lpdu

/-- The capture of a frame that is known here, as a monitor reports it. -/
def Frame.capture (f : Frame) : Except EncodeError Octets := f.toOctets

end KnxBus
