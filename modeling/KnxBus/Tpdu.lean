import KnxBus.Apdu.Decode
import KnxBus.Apdu.Text
import KnxBus.Octets.Encoding

/-!
# Transport layer units

A transport layer unit carries data, with or without a sequence number, or opens, closes or
acknowledges a connection.  It shares its first octet with the application layer: the six high bits
belong to the transport layer, the two low ones to the unit that it carries.  The data kept here are
application layer octets, so their first octet holds those two bits and nothing else of interest.

Whether unnumbered data go to everybody, to a group or to one device is not said here; that follows
from the destination of the frame around the unit.
-/

namespace KnxBus

/-- A unit of the transport layer. -/
inductive Tpdu where
  /-- Data without a sequence number. -/
  | dataUnnumbered (apdu : Octets)
  /-- Data within a connection, with a sequence number of four bits on the wire. -/
  | dataConnected (sequence : UInt8) (apdu : Octets)
  /-- Opens a connection. -/
  | connect
  /-- Closes a connection. -/
  | disconnect
  /-- Acknowledges data within a connection. -/
  | ack (sequence : UInt8)
  /-- Refuses data within a connection. -/
  | nack (sequence : UInt8)
  /-- A bit pattern that names no unit, octet for octet. -/
  | unknown (raw : Octets)
  deriving DecidableEq, Repr

namespace Tpdu

/-! ## Decoding -/

/-- A unit that consists of its first octet only. -/
def alone (unit : Tpdu) : Octets → Except DecodeError Tpdu
  | [] => .ok unit
  | _ => .error .invalidLength

/-- Decodes a unit of the transport layer. -/
def decode : Octets → Except DecodeError Tpdu
  | [] => .error .endOfInput
  | first :: rest =>
    let sequence := (first >>> 2) &&& 0x0f
    if first &&& 0xfc = 0 then .ok (.dataUnnumbered (first :: rest))
    else if first = 0x80 then alone .connect rest
    else if first = 0x81 then alone .disconnect rest
    else if first &&& 0xc3 = 0xc2 then alone (.ack sequence) rest
    else if first &&& 0xc3 = 0xc3 then alone (.nack sequence) rest
    else if first &&& 0xc0 = 0x40 then .ok (.dataConnected sequence ((first &&& 0x03) :: rest))
    else .ok (.unknown (first :: rest))

/-- Decodes a unit and keeps what is malformed as `Tpdu.unknown`. -/
def decodeLossy (b : Octets) : Tpdu :=
  match decode b with
  | .ok unit => unit
  | .error _ => .unknown b

/-! ## Encoding -/

/-- How many octets a unit has on the wire. -/
def encodedLength : Tpdu → Nat
  | dataUnnumbered apdu | dataConnected _ apdu => apdu.length
  | unknown raw => raw.length
  | connect | disconnect | ack _ | nack _ => 1

/-- Gives up unless the sequence number fits into four bits. -/
def fourBitSequence (sequence : UInt8) : Encoding :=
  .require (sequence ≤ 0x0f) .valueOutOfRange

/-- Transport bits with a sequence number among them. -/
def numbered (control sequence : UInt8) : UInt8 := control ||| (sequence <<< 2)

/-- Application layer octets behind the given transport bits.  There must be at least one octet,
since the transport bits live in the first. -/
def encodeData (control : UInt8) : Octets → Encoding
  | [] => .refuse .invalidLength
  | first :: rest => .octet (control ||| (first &&& 0x03)) ++ .octets rest

/-- How a unit is written. -/
def encode : Tpdu → Encoding
  | dataUnnumbered apdu => encodeData 0x00 apdu
  | dataConnected sequence apdu =>
    fourBitSequence sequence ++ encodeData (numbered 0x40 sequence) apdu
  | connect => .octet 0x80
  | disconnect => .octet 0x81
  | ack sequence => fourBitSequence sequence ++ .octet (numbered 0xc2 sequence)
  | nack sequence => fourBitSequence sequence ++ .octet (numbered 0xc3 sequence)
  | unknown raw => .octets raw

/-- The octets of a unit, or why it has none. -/
def toOctets (unit : Tpdu) : Except EncodeError Octets := unit.encode.toOctets unit.encodedLength

/-! ## Words -/

/-- A unit in words. -/
def text : Tpdu → String
  | dataUnnumbered apdu => "T_DATA_XXX_REQ " ++ (Apdu.decodeLossy apdu).text
  | dataConnected sequence apdu =>
    "T_DATA_CONNECTED_REQ serno:" ++ Number.text sequence.toNat ++ " " ++
      (Apdu.decodeLossy apdu).text
  | connect => "T_CONNECT_REQ"
  | disconnect => "T_DISCONNECT_REQ"
  | ack sequence => "T_ACK serno:" ++ Number.text sequence.toNat
  | nack sequence => "T_NACK serno:" ++ Number.text sequence.toNat
  | unknown [] => "empty TPDU"
  | unknown raw => "Unknown TPDU: " ++ Octets.dump raw

end Tpdu
end KnxBus
