import KnxBus.Frame

/-!
# Frames outside the bus

Over IP a data frame travels in the common framing of external messages: a message code, a block of
additional information that is skipped, and the fields of the frame in one fixed layout for all
lengths.  There is no check octet, since the carrier has its own, so a decoded frame counts as valid
in both respects.  The length field must account for every octet behind the header.
-/

namespace KnxBus

/-- What a message is about. -/
inductive MessageCode where
  /-- A frame to be sent. -/
  | request
  /-- A frame that has been sent. -/
  | confirmation
  /-- A frame that has been received. -/
  | indication
  /-- A frame that has been observed. -/
  | monitorIndication
  /-- Any other code. -/
  | unknown (code : UInt8)
  deriving DecidableEq, Repr

namespace MessageCode

/-- The message code in an octet. -/
def ofOctet (code : UInt8) : MessageCode :=
  match code with
  | 0x11 => request
  | 0x2e => confirmation
  | 0x29 => indication
  | 0x2b => monitorIndication
  | other => unknown other

/-- The octet of a message code. -/
def octet : MessageCode → UInt8
  | request => 0x11
  | confirmation => 0x2e
  | indication => 0x29
  | monitorIndication => 0x2b
  | unknown code => code

/-- The message code in words. -/
def text : MessageCode → String
  | request => "L_Data.req"
  | confirmation => "L_Data.con"
  | indication => "L_Data.ind"
  | monitorIndication => "L_Busmon.ind"
  | unknown code => "cEMI 0x" ++ Number.hexPadded 2 code.toNat

end MessageCode

/-- A data frame in external framing. -/
structure Cemi where
  /-- What the message is about. -/
  code : MessageCode
  /-- The frame. -/
  frame : Frame
  deriving DecidableEq, Repr

namespace Cemi

/-- How many octets a message has. -/
def encodedLength (m : Cemi) : Nat := 9 + m.frame.payload.length

/-- How a message is written. -/
def encode (m : Cemi) : Encoding :=
  let f := m.frame
  .require (0 < f.payload.length && f.payload.length ≤ Frame.maxPayload - 1) .invalidLength ++
    .require (f.hopCount ≤ 7) .valueOutOfRange ++
    .octet m.code.octet ++ .octet 0 ++
    .octet (f.controlBits ||| if f.isStandard then 0x80 else 0x00) ++ .octet f.routingBits ++
    .word f.source.raw ++ .word f.destination.raw ++ .octet f.lengthField ++ .octets f.payload

/-- The octets of a message, or why it has none. -/
def toOctets (m : Cemi) : Except EncodeError Octets := m.encode.toOctets m.encodedLength

/-- Decodes the fields behind the additional information. -/
def decodeFrame : Octets → Except DecodeError Frame
  | control :: routing :: sh :: sl :: dh :: dl :: length :: payload =>
    if payload.length ≠ length.toNat + 1 then .error .invalidLength
    else if control &&& 0x80 = 0 ∧ routing &&& 0x0f ≠ 0 then .error .unsupported
    else
      .ok
        { priority := .ofBits (control >>> 2)
          repeated := control &&& 0x20 == 0
          source := ⟨Octets.word sh sl⟩
          destination := .ofRaw (Octets.word dh dl) (routing &&& 0x80 != 0)
          hopCount := (routing >>> 4) &&& 0x07
          payload := payload
          validCheck := true
          validLength := true }
  | _ => .error .endOfInput

/-- Decodes a message. -/
def decode : Octets → Except DecodeError Cemi
  | code :: information :: rest =>
    if rest.length < information.toNat then .error .endOfInput
    else
      match decodeFrame (rest.drop information.toNat) with
      | .ok frame => .ok ⟨.ofOctet code, frame⟩
      | .error e => .error e
  | _ => .error .endOfInput

end Cemi
end KnxBus
