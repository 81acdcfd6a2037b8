import KnxBus.Proofs.Cemi
import KnxBus.Proofs.Lpdu

/-!
# Frames between the bus and IP

On the bus and over IP the same frames travel, in different framings.  Whatever can be written in
both framings is the same frame again when it is read in either.  So a gateway can hand frames on in
both directions, as long as both framings have room for them.

## Where the framings differ

Short frames have four bits for their length on the bus; otherwise a length field is one octet.  All
of them count one less than there is, so every framing could hold up to 256 octets of payload.  How
many it does hold is a matter of the checks.

* On the bus a frame is written with a payload of up to 255 octets (`Frame.exists_octets_iff`).
* In a message a frame is written with a payload of up to 254 octets only (`exists_octets_iff`).
* From a message a frame is read with whatever payload the length field can count, up to 256 octets
  (`exists_decode_eq_iff`).

The hop count is no matter: three bits are read, and what is written must fit into three bits.  So
a frame with a payload of 255 octets reaches a gateway from either side and cannot be handed on in a
message; and a message can bring a frame with 256 octets, which nobody can write at all.
-/

namespace KnxBus
namespace Cemi

/-! ## What is read from a message -/

/-- The fields give a payload of at least one octet and at most as many as the length field can
count, a hop count of three bits, and a frame that counts as valid. -/
theorem size_of_decodeFrame {b : Octets} {f : Frame} (h : decodeFrame b = .ok f) :
    f.IsValid ∧ (1 ≤ f.payload.length ∧ f.payload.length ≤ 256) ∧ f.hopCount ≤ 7 := by
  unfold decodeFrame at h
  split at h
  · rename_i control routing sh sl dh dl length payload
    have hlt := length.toNat_lt
    split at h
    · cases h
    · rename_i hlength
      split at h
      · cases h
      · cases h
        refine ⟨⟨rfl, rfl⟩, ?_, Frame.hops_le routing⟩
        show 1 ≤ payload.length ∧ payload.length ≤ 256
        omega
  · cases h

theorem size_of_decode {b : Octets} {m : Cemi} (h : decode b = .ok m) :
    m.frame.IsValid ∧ (1 ≤ m.frame.payload.length ∧ m.frame.payload.length ≤ 256) ∧
      m.frame.hopCount ≤ 7 := by
  unfold decode at h
  split at h
  · split at h
    · cases h
    · split at h
      · rename_i frame hframe
        cases h
        exact size_of_decodeFrame hframe
      · cases h
  · cases h

/-- **Which frames can be read from a message.** -/
theorem exists_decode_eq_iff {f : Frame} : (∃ b code, decode b = .ok ⟨code, f⟩) ↔
    f.IsValid ∧ (1 ≤ f.payload.length ∧ f.payload.length ≤ 256) ∧ f.hopCount ≤ 7 := by
  constructor
  · rintro ⟨b, code, hread⟩
    exact size_of_decode hread
  · rintro ⟨hvalid, hlength, hhops⟩
    refine ⟨0x29 :: 0 :: fields f, .indication, ?_⟩
    rw [decode_fields 0x29 hlength hhops, hvalid.validated_eq]
    rfl

/-! ## Both framings compared -/

/-- A message can be written if its frame can, unless that is as long as a frame may be. -/
theorem exists_octets_iff_frame {m : Cemi} : (∃ b, m.toOctets = .ok b) ↔
    (∃ b, m.frame.toOctets = .ok b) ∧ m.frame.payload.length ≠ 255 := by
  rw [exists_octets_iff, Frame.exists_octets_iff, Frame.Fits]
  constructor
  · rintro ⟨⟨hpos, hle⟩, hhops⟩
    exact ⟨⟨⟨hpos, by omega⟩, hhops⟩, by omega⟩
  · rintro ⟨⟨⟨hpos, hle⟩, hhops⟩, hne⟩
    exact ⟨⟨hpos, by omega⟩, hhops⟩

/-- **The two framings carry the same frames, but not frames of the same lengths.**

A message can be written exactly if its frame can be written on the bus and has not 255 octets of
payload.  On the bus a frame can be written exactly if its payload has between one and 255 octets
and its hop count is at most seven; from a message it can be read exactly if it is valid, its
payload has between one and 256 octets and its hop count is at most seven.  Of the frames that are
read from messages those can be written on the bus whose payload has not 256 octets, and those in a
message whose payload has at most 254.  A valid frame that is written in both framings is read from
either. -/
theorem framings_compared (m : Cemi) :
    ((∃ b, m.toOctets = .ok b) ↔
      (∃ b, m.frame.toOctets = .ok b) ∧ m.frame.payload.length ≠ 255) ∧
    ((∃ b, m.frame.toOctets = .ok b) ↔
      (1 ≤ m.frame.payload.length ∧ m.frame.payload.length ≤ 255) ∧ m.frame.hopCount ≤ 7) ∧
    ((∃ b code, decode b = .ok ⟨code, m.frame⟩) ↔
      m.frame.IsValid ∧ (1 ≤ m.frame.payload.length ∧ m.frame.payload.length ≤ 256) ∧
        m.frame.hopCount ≤ 7) ∧
    (∀ b : Octets, decode b = .ok m →
      ((∃ b', m.frame.toOctets = .ok b') ↔ m.frame.payload.length ≠ 256) ∧
        ((∃ b', m.toOctets = .ok b') ↔ m.frame.payload.length ≤ 254)) ∧
    ∀ b b' : Octets, m.frame.IsValid → m.toOctets = .ok b → m.frame.toOctets = .ok b' →
      (∃ code, decode b = .ok ⟨code, m.frame⟩) ∧ Lpdu.decode b' = .data m.frame := by
  refine ⟨exists_octets_iff_frame, Frame.exists_octets_iff, exists_decode_eq_iff, fun b hread => ?_,
    fun b b' hvalid hmessage hframe => ?_⟩
  · obtain ⟨-, ⟨hpos, hle⟩, hhops⟩ := size_of_decode hread
    rw [Frame.exists_octets_iff, exists_octets_iff, Frame.Fits]
    simp only [hhops, and_true]
    constructor <;> omega
  · constructor
    · refine ⟨.ofOctet m.code.octet, ?_⟩
      rw [decode_of_toOctets hmessage, hvalid.validated_eq]
    · obtain ⟨hfits, rfl⟩ := Frame.toOctets_eq_ok_iff.1 hframe
      exact Lpdu.decode_wire hfits hvalid

/-- A frame to a group with a payload of the given length. -/
def ofLength (length : Nat) : Frame :=
  .addressed (.group ⟨0x0a03⟩) (List.replicate length 0)

theorem length_ofLength (length : Nat) : (ofLength length).payload.length = length :=
  List.length_replicate

/-- The command that switches a group on is read from a message and handed on in both framings. -/
theorem framings_compared_switch :
    let b : Octets := [0x11, 0x00, 0xbc, 0xe0, 0x00, 0x00, 0x0a, 0x03, 0x01, 0x00, 0x81]
    let m : Cemi := ⟨.request, Frame.addressed (.group ⟨0x0a03⟩) [0x00, 0x81]⟩
    decode b = .ok m ∧ (∃ b', m.frame.toOctets = .ok b') ∧ (∃ b', m.toOctets = .ok b') ∧
      ∃ b', m.frame.toOctets = .ok b' ∧ Lpdu.decode b' = .data m.frame := by
  intro b m
  have hfields : b = 0x11 :: 0 :: fields m.frame := by decide
  have hread : decode b = .ok m := by
    rw [hfields, decode_fields 0x11 (by decide) (by decide)]
    rfl
  obtain ⟨-, -, -, hreceived, hwritten⟩ := framings_compared m
  obtain ⟨hframe, hmessage⟩ := hreceived b hread
  obtain ⟨onBus, hbus⟩ := hframe.2 (by decide)
  obtain ⟨overIp, hip⟩ := hmessage.2 (by decide)
  have hboth := hwritten overIp onBus (by decide) hip hbus
  exact ⟨hread, ⟨onBus, hbus⟩, ⟨overIp, hip⟩, onBus, hbus, hboth.2⟩

/-- The longest frames do not cross.  With 255 octets of payload a frame is written on the bus and
not in a message; and from a message a frame is read that has 256 octets of payload and cannot be
written in either framing. -/
theorem framings_differ_long :
    ((∃ b, (ofLength 255).toOctets = .ok b) ∧
      ¬ ∃ b, (Cemi.mk .request (ofLength 255)).toOctets = .ok b) ∧
    decode ([0x11, 0x00, 0x3c, 0xe0, 0x00, 0x00, 0x0a, 0x03, 0xff] ++ List.replicate 256 0) =
        .ok ⟨.request, ofLength 256⟩ ∧
      (¬ ∃ b, (ofLength 256).toOctets = .ok b) ∧
        ¬ ∃ b, (Cemi.mk .request (ofLength 256)).toOctets = .ok b := by
  have hhops (length : Nat) : (ofLength length).hopCount ≤ 7 := by
    show (6 : UInt8) ≤ 7
    decide
  have hlength := length_ofLength
  have hfields : fields (ofLength 256) =
      [0x3c, 0xe0, 0x00, 0x00, 0x0a, 0x03, 0xff] ++ List.replicate 256 0 := by
    have hextended : (ofLength 256).isStandard = false := by
      rw [Frame.isStandard, hlength]
      rfl
    rw [fields, hextended, Frame.lengthField, hlength]
    rfl
  refine ⟨⟨?_, ?_⟩, ?_, ?_, ?_⟩
  · rw [Frame.exists_octets_iff, Frame.Fits, hlength]
    exact ⟨by omega, hhops 255⟩
  · rw [exists_octets_iff, hlength]
    omega
  · have hread := decode_fields 0x11 (by rw [hlength]; omega) (hhops 256)
    rw [hfields] at hread
    exact hread
  · rw [Frame.exists_octets_iff, Frame.Fits, hlength]
    omega
  · rw [exists_octets_iff, hlength]
    omega

end Cemi
end KnxBus
