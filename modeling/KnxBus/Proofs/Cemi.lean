import KnxBus.Cemi
import KnxBus.Proofs.Frame

/-!
# Messages on the way and back

A message in external framing carries the header of an extended frame, whatever the length of its
payload, behind its code and a block of additional information.  A message that can be written can
be read back, and what is read is the frame that was written.  Two fields of a frame do not travel:
whether its check octet and its length agreed.  A frame that was read counts as valid in both
respects, and so does a frame that is written (`Frame.validated`).

Nothing of the additional information is looked at but its length (`Cemi.decode_behind`).  Together
with the length field in the header it says how long the message is (`Cemi.declaredLength`), and no
message is accepted that is not exactly so long (`Cemi.length_of_decode`).
-/

namespace KnxBus
namespace Cemi

/-! ## Reading what was written -/

/-- The octets behind the additional information. -/
def fields (f : Frame) : Octets :=
  Frame.extendedFront (Frame.controlOctet f.isStandard f.repeated f.priority)
    (Frame.routingOctet f.destination.isGroup f.hopCount 0) f.source.raw f.destination.raw
    f.lengthField ++ f.payload

/-- What can be written, and what it looks like. -/
theorem writes_iff {m : Cemi} {b : Octets} :
    m.encode.Writes b ↔
      (0 < m.frame.payload.length ∧ m.frame.payload.length ≤ 254) ∧ m.frame.hopCount ≤ 7 ∧
        b = m.code.octet :: 0 :: fields m.frame := by
  have hcontrol : (m.frame.controlBits ||| if m.frame.isStandard then 0x80 else 0x00) =
      Frame.controlOctet m.frame.isStandard m.frame.repeated m.frame.priority :=
    UInt8.or_comm _ _
  have hrouting : m.frame.routingBits =
      Frame.routingOctet m.frame.destination.isGroup m.frame.hopCount 0 :=
    UInt8.or_zero.symm
  unfold encode
  simp only [Encoding.writes_append_iff, Encoding.writes_require_iff, Encoding.writes_octet_iff,
    Encoding.writes_octets_iff, Encoding.writes_word_iff, exists_and_left, and_assoc,
    exists_eq_left, Bool.and_eq_true, decide_eq_true_iff, List.nil_append, List.append_assoc,
    hcontrol, hrouting, fields, Frame.extendedFront, List.cons_append]
  rfl

/-- A message whose payload and hop count fit can be written. -/
theorem exists_octets {m : Cemi} (hlength : 0 < m.frame.payload.length ∧
    m.frame.payload.length ≤ 254) (hhops : m.frame.hopCount ≤ 7) : ∃ b, m.toOctets = .ok b := by
  refine ⟨_, Encoding.toOctets_eq_ok_iff.2 ⟨writes_iff.2 ⟨hlength, hhops, rfl⟩, ?_⟩⟩
  simp only [fields, Frame.extendedFront, List.length_append, List.length_cons, List.length_nil,
    Octets.ofWord, encodedLength]
  omega

theorem exists_octets_iff {m : Cemi} : (∃ b, m.toOctets = .ok b) ↔
    (1 ≤ m.frame.payload.length ∧ m.frame.payload.length ≤ 254) ∧ m.frame.hopCount ≤ 7 := by
  constructor
  · rintro ⟨b, hb⟩
    obtain ⟨hlength, hhops, -⟩ := writes_iff.1 (Encoding.toOctets_eq_ok_iff.1 hb).1
    exact ⟨hlength, hhops⟩
  · rintro ⟨hlength, hhops⟩
    exact exists_octets hlength hhops

/-- How the fields are read. -/
theorem decodeFrame_extendedFront (control routing : UInt8) (source destination : UInt16)
    (length : UInt8) (payload : Octets) :
    decodeFrame (Frame.extendedFront control routing source destination length ++ payload) =
      if payload.length ≠ length.toNat + 1 then .error .invalidLength
      else if control &&& 0x80 = 0 ∧ routing &&& 0x0f ≠ 0 then .error .unsupported
      else .ok (Frame.held control routing source destination payload true true) := by
  simp only [Frame.extendedFront, Octets.ofWord, List.cons_append, List.nil_append, decodeFrame,
    Octets.word_ofWord]
  rfl

/-- The fields behind the additional information are read back, as long as the length field can tell
how many octets there are. -/
theorem decodeFrame_fields {f : Frame} (hlength : 1 ≤ f.payload.length ∧ f.payload.length ≤ 256)
    (hhops : f.hopCount ≤ 7) : decodeFrame (fields f) = .ok f.validated := by
  have hzero : (0 : UInt8).toNat < 16 := by decide
  have hlow := Frame.routingOctet_low hhops f.destination.isGroup hzero
  have hfield : f.payload.length = f.lengthField.toNat + 1 :=
    (Frame.toNat_lengthField hlength.1 hlength.2).symm
  rw [fields, decodeFrame_extendedFront, if_neg (not_not_intro hfield),
    if_neg (fun h => h.2 hlow), (Frame.holds_self hhops f.isStandard hzero).held_eq]

/-- Of the additional information only the length counts. -/
theorem decode_behind (code : UInt8) {length : UInt8} {information : Octets}
    (h : information.length = length.toNat) (rest : Octets) :
    decode (code :: length :: (information ++ rest)) =
      (decodeFrame rest).map (Cemi.mk (.ofOctet code)) := by
  have hlong : ¬ (information ++ rest).length < length.toNat := by
    rw [List.length_append]
    omega
  rw [decode, if_neg hlong, ← h, List.drop_left]
  cases decodeFrame rest <;> rfl

/-- A message without additional information is its code and its fields. -/
theorem decode_fields (code : UInt8) {f : Frame}
    (hlength : 1 ≤ f.payload.length ∧ f.payload.length ≤ 256) (hhops : f.hopCount ≤ 7) :
    decode (code :: 0 :: fields f) = .ok ⟨.ofOctet code, f.validated⟩ := by
  have hnone : ([] : Octets).length = (0 : UInt8).toNat := rfl
  have hread := decode_behind code hnone (fields f)
  rw [decodeFrame_fields hlength hhops] at hread
  exact hread

/-- **A message that was written is read back**, its frame as a valid one. -/
theorem decode_of_toOctets {m : Cemi} {b : Octets} (h : m.toOctets = .ok b) :
    decode b = .ok ⟨.ofOctet m.code.octet, m.frame.validated⟩ := by
  obtain ⟨⟨hpos, hle⟩, hhops, rfl⟩ := writes_iff.1 (Encoding.toOctets_eq_ok_iff.1 h).1
  exact decode_fields m.code.octet ⟨hpos, by omega⟩ hhops

/-- **A valid message comes back as it was**, unless its code is written as another one. -/
theorem decode_of_toOctets_of_valid {m : Cemi} (hcode : MessageCode.ofOctet m.code.octet = m.code)
    (hvalid : m.frame.IsValid) {b : Octets} (h : m.toOctets = .ok b) : decode b = .ok m := by
  rw [decode_of_toOctets h, hcode, hvalid.validated_eq]

/-! ## Where a message ends -/

/-- The length of the additional information. -/
def informationLength (b : Octets) : Nat := (b[1]?.getD 0).toNat

/-- How long a message says that it is: the additional information and the payload have lengths of
their own, and there are ten octets besides. -/
def declaredLength (b : Octets) : Nat :=
  informationLength b + (b[informationLength b + 8]?.getD 0).toNat + 10

/-- What stands behind the end does not matter for where it is. -/
theorem declaredLength_append {b : Octets} (h : b.length = declaredLength b) (rest : Octets) :
    declaredLength (b ++ rest) = declaredLength b := by
  unfold declaredLength at h ⊢
  have hinformation : informationLength (b ++ rest) = informationLength b := by
    rw [informationLength, List.getElem?_append_left (by omega), informationLength]
  rw [hinformation, List.getElem?_append_left (by omega)]

/-- The fields are exactly as long as their length field says. -/
theorem length_of_decodeFrame {b : Octets} {f : Frame} (h : decodeFrame b = .ok f) :
    b.length = (b[6]?.getD 0).toNat + 8 := by
  unfold decodeFrame at h
  split at h
  · split at h
    · cases h
    · rename_i hlength
      simp only [List.length_cons, Decidable.of_not_not hlength]
      rfl
  · cases h

/-- **A message that is accepted is exactly as long as it says.** -/
theorem length_of_decode {b : Octets} {m : Cemi} (h : decode b = .ok m) :
    b.length = declaredLength b := by
  unfold decode at h
  split at h
  · rename_i code information rest
    split at h
    · cases h
    · split at h
      · rename_i frame hframe
        have hlength := length_of_decodeFrame hframe
        rw [List.length_drop, List.getElem?_drop] at hlength
        change rest.length + 2 =
          information.toNat + (rest[information.toNat + 6]?.getD 0).toNat + 10
        omega
      · cases h
  · cases h

/-- So nothing can be taken off a message, or added to it. -/
theorem eq_of_accepted {a b : Octets} {m n : Cemi} (ha : decode a = .ok m)
    (hb : decode b = .ok n) (h : a <+: b) : a = b := by
  obtain ⟨rest, rfl⟩ := h
  have hlength := length_of_decode hb
  rw [declaredLength_append (length_of_decode ha), ← length_of_decode ha] at hlength
  exact (List.append_right_eq_self.2 (List.length_eq_zero_iff.1 (by simpa using hlength))).symm

/-- **Messages are exact.**

A valid message whose code is the one its octet stands for is read back from its octets.  The
additional information may be of any length and say anything: the same message is read, or the same
error found, as without it.  And a message ends where it says: if octets are accepted, then nothing
shorter is that they begin with, and nothing longer that begins with them. -/
theorem messages_are_exact :
    (∀ m : Cemi, MessageCode.ofOctet m.code.octet = m.code →
      m.frame.validCheck = true → m.frame.validLength = true →
        ∀ b, m.toOctets = .ok b → decode b = .ok m) ∧
    (∀ (code : UInt8) (information rest : Octets), information.length ≤ 255 →
      decode (code :: UInt8.ofNat information.length :: (information ++ rest)) =
        decode (code :: 0 :: rest)) ∧
    ∀ (b : Octets) (m : Cemi), decode b = .ok m →
      ∀ a, a ≠ b → a <+: b ∨ b <+: a → ∃ e, decode a = .error e := by
  refine ⟨fun m hcode hcheck hlength b hb => ?_, fun code information rest hlength => ?_,
    fun b m hb a hne hprefix => ?_⟩
  · exact decode_of_toOctets_of_valid hcode ⟨hcheck, hlength⟩ hb
  · have hinformation : information.length = (UInt8.ofNat information.length).toNat := by
      rw [UInt8.toNat_ofNat']
      omega
    have hnone : ([] : Octets).length = (0 : UInt8).toNat := rfl
    exact (decode_behind code hinformation rest).trans (decode_behind code hnone rest).symm
  · cases ha : decode a with
    | error e => exact ⟨e, rfl⟩
    | ok n =>
      obtain hprefix | hprefix := hprefix
      · exact absurd (eq_of_accepted ha hb hprefix) hne
      · exact absurd (eq_of_accepted hb ha hprefix).symm hne

/-- The message that asks for a group to be switched on is read back, also behind three octets of
additional information, and neither without its last octet nor with one more. -/
theorem messages_are_exact_switch :
    let m : Cemi := ⟨.request, Frame.addressed (.group ⟨0x0a03⟩) [0x00, 0x81]⟩
    let rest : Octets := [0xbc, 0xe0, 0x00, 0x00, 0x0a, 0x03, 0x01, 0x00, 0x81]
    decode (0x11 :: 0 :: rest) = .ok m ∧
      decode (0x11 :: 3 :: ([0x06, 0x01, 0xff] ++ rest)) = .ok m ∧
        (∃ e, decode (0x11 :: 0 :: rest.dropLast) = .error e) ∧
          ∃ e, decode (0x11 :: 0 :: (rest ++ [0x00])) = .error e := by
  intro m rest
  have hwritten : m.toOctets = .ok (0x11 :: 0 :: rest) :=
    Encoding.toOctets_eq_ok_iff.2 ⟨writes_iff.2 (by decide), by decide⟩
  have hread : decode (0x11 :: 0 :: rest) = .ok m :=
    messages_are_exact.1 m rfl rfl rfl _ hwritten
  have hends := messages_are_exact.2.2 _ m hread
  refine ⟨hread, ?_, hends _ (by decide) (.inl ?_), hends _ (by decide) (.inr ?_)⟩
  · exact (messages_are_exact.2.1 0x11 [0x06, 0x01, 0xff] rest (by decide)).trans hread
  · exact List.dropLast_prefix (0x11 :: 0 :: rest)
  · exact List.prefix_append (0x11 :: 0 :: rest) [0x00]

end Cemi
end KnxBus
