import KnxBus.Proofs.Apdu.Units
import KnxBus.Proofs.Cemi
import KnxBus.Proofs.Ip.Packet
import KnxBus.Proofs.Tpdu

/-!
# Buffers of any size

An encoder writes into a buffer that somebody else has made, behind whatever stands there already.
If the buffer is too small, the encoder is stopped in the middle; then a beginning of its octets has
been written and the rest has not.  All encoders of the library behave alike in this respect
(`buffers_are_uniform`), and whether one is stopped is a matter of two lengths only.

## What is known of the length beforehand

Whoever has no buffer makes one of the length that is foreseen for the unit.  That the foreseen
length is the right one for a unit that can be written is a fact about each kind of unit.  But an
encoder may also give up, and may have written something by then; a buffer that was too small for
that would hide the reason for which it gives up.  So what matters is a bound on what an encoder
writes whether or not it succeeds (`Encoding.Within`), and bounds of parts add up to bounds of the
whole.

## What stands before

Nothing that an encoder does depends on what it finds in the buffer, because what it does is known
before there is a buffer.  For the check octet this says that it covers what has been written since
the frame began, and not what stood there before (`Encoding.writeTo_withCheckOctet`).
-/

namespace KnxBus
namespace Encoding

/-! ## Where writing stops -/

/-- How writing pieces into a buffer can end. -/
inductive Filled (pieces : List Octets) (w : Writer) (done : Writer × Except EncodeError Unit) :
    Prop where
  /-- All pieces are written. -/
  | whole (capacity_eq : done.1.capacity = w.capacity)
      (written_eq : done.1.written = w.written ++ pieces.flatten) (result_eq : done.2 = .ok ())
  /-- A piece does not fit.  Those before it are written, and nothing of it. -/
  | cut (before : List Octets) (piece : Octets) (after : List Octets)
      (split : pieces = before ++ piece :: after) (capacity_eq : done.1.capacity = w.capacity)
      (written_eq : done.1.written = w.written ++ before.flatten)
      (full : w.capacity < (done.1.written ++ piece).length)
      (result_eq : done.2 = .error .bufferTooSmall)

theorem putAll_filled (pieces : List Octets) (w : Writer) : Filled pieces w (putAll pieces w) := by
  induction pieces generalizing w with
  | nil => exact .whole rfl (List.append_nil _).symm rfl
  | cons piece pieces ih =>
    rw [putAll]
    by_cases hfits : (w.written ++ piece).length ≤ w.capacity
    · rw [Writer.put, dif_pos hfits]
      cases ih ⟨w.capacity, w.written ++ piece, hfits⟩ with
      | whole capacity_eq written_eq result_eq =>
        refine .whole capacity_eq ?_ result_eq
        rw [List.flatten_cons, ← List.append_assoc]
        exact written_eq
      | cut before stopped after split capacity_eq written_eq full result_eq =>
        refine .cut (piece :: before) stopped after (by rw [split]; rfl) capacity_eq ?_ full
          result_eq
        rw [List.flatten_cons, ← List.append_assoc]
        exact written_eq
    · rw [Writer.put, dif_neg hfits]
      exact .cut [] piece pieces rfl rfl (List.append_nil _).symm (Nat.lt_of_not_le hfits) rfl

section
variable {e : Encoding} {b : Octets} {w : Writer}

/-- With enough room, everything is written behind what is there. -/
theorem Writes.writeTo_of_le (h : e.Writes b) (hroom : b.length ≤ w.remaining) :
    ∃ w', e.writeTo w = (w', .ok ()) ∧ w'.capacity = w.capacity ∧ w'.written = w.written ++ b := by
  obtain ⟨hrefusal, rfl⟩ := h
  have hfits : (w.written ++ e.content).length ≤ w.capacity := by
    have hw := w.fits
    rw [Writer.remaining] at hroom
    rw [List.length_append]
    omega
  refine ⟨⟨w.capacity, w.written ++ e.content, hfits⟩, ?_, rfl, rfl⟩
  rw [writeTo, putAll_of_fits e.pieces w hfits, hrefusal]
  rfl

/-- With less room, a beginning is written and the encoder says that the buffer is too small. -/
theorem Writes.writeTo_of_lt (h : e.Writes b) (hfull : w.remaining < b.length) :
    ∃ w' q, e.writeTo w = (w', .error .bufferTooSmall) ∧ w'.capacity = w.capacity ∧ q <+: b ∧
      w'.written = w.written ++ q := by
  obtain ⟨-, rfl⟩ := h
  have hfilled := putAll_filled e.pieces w
  rcases hput : putAll e.pieces w with ⟨w', r⟩
  rw [hput] at hfilled
  cases hfilled with
  | whole capacity_eq written_eq _ =>
    -- had everything been written, then the buffer would be overfull
    have hw' := w'.fits
    rw [capacity_eq, written_eq, List.length_append] at hw'
    rw [Writer.remaining, content] at hfull
    omega
  | cut before piece after split capacity_eq written_eq _ result_eq =>
    obtain rfl : r = .error .bufferTooSmall := result_eq
    refine ⟨w', before.flatten, by rw [writeTo, hput], capacity_eq, ?_, written_eq⟩
    exact ⟨(piece :: after).flatten, by rw [content, split, List.flatten_append]⟩

end

/-! ## One encoder after another on one buffer -/

theorem putAll_append (first second : List Octets) (w : Writer) :
    putAll (first ++ second) w =
      match putAll first w with
      | (w', .ok ()) => putAll second w'
      | failed => failed := by
  induction first generalizing w with
  | nil => rfl
  | cons piece first ih =>
    rw [List.cons_append, putAll, putAll]
    cases w.put piece with
    | ok w' => exact ih w'
    | error e => rfl

/-- The second encoder goes on in the buffer as the first has left it, unless that one has failed. -/
theorem writeTo_append (a b : Encoding) (w : Writer) :
    (a ++ b).writeTo w =
      match a.writeTo w with
      | (w', .ok ()) => b.writeTo w'
      | failed => failed := by
  change (a.andThen b).writeTo w = _
  rcases ha : a.refusal with _ | cause
  · simp only [andThen, ha, writeTo, putAll_append]
    rcases putAll a.pieces w with ⟨w', _ | _⟩ <;> rfl
  · simp only [andThen, ha, writeTo]
    rcases putAll a.pieces w with ⟨w', _ | _⟩ <;> rfl

/-- **The check octet covers what has been written since the frame began.** -/
theorem writeTo_withCheckOctet (e : Encoding) (w : Writer) :
    e.withCheckOctet.writeTo w =
      match e.writeTo w with
      | (w', .ok ()) => (octet (Octets.checkOctet (w'.written.drop w.position))).writeTo w'
      | failed => failed := by
  rw [withCheckOctet, writeTo_append]
  rcases hput : putAll e.pieces w with ⟨w', _ | _⟩
  · simp only [writeTo, hput]
  · rcases hr : e.refusal with _ | cause
    · have hwritten : w'.written.drop w.position = e.content := by
        rw [(written_of_putAll hput).2, Writer.position, List.drop_left, content]
      simp only [writeTo, hput, hr, hwritten]
    · simp only [writeTo, hput, hr]

/-! ## How much an encoder writes -/

/-- The encoder has no more than `n` octets to write, whether it then succeeds or gives up, and it
does not give up for want of room. -/
structure Within (e : Encoding) (n : Nat) : Prop where
  /-- There are no more octets. -/
  length_le : e.content.length ≤ n
  /-- Want of room is a matter of the buffer, not of the encoder. -/
  refusal_ne : e.refusal ≠ some .bufferTooSmall

section
variable {a b : Encoding} {m n : Nat}

theorem within_octets (b : Octets) : (octets b).Within b.length :=
  ⟨Nat.le_of_eq (by simp [octets, content]), nofun⟩

theorem within_octet (b : UInt8) : (octet b).Within 1 := within_octets [b]

theorem within_word (w : UInt16) : (word w).Within 2 := within_octets (Octets.ofWord w)

theorem within_refuse {cause : EncodeError} (h : cause ≠ .bufferTooSmall) :
    (refuse cause).Within n :=
  ⟨Nat.zero_le n, fun heq => h (Option.some.inj heq)⟩

theorem within_require {condition : Bool} {cause : EncodeError} (h : cause ≠ .bufferTooSmall) :
    (require condition cause).Within 0 := by
  cases condition with
  | false => exact within_refuse h
  | true => exact ⟨Nat.le_refl 0, nofun⟩

/-- A field that is out of range is not a want of room. -/
theorem within_range (condition : Bool) : (require condition .valueOutOfRange).Within 0 :=
  within_require nofun

/-- Nor are data of a length that cannot be told. -/
theorem within_length (condition : Bool) : (require condition .invalidLength).Within 0 :=
  within_require nofun

theorem Within.append (ha : a.Within m) (hb : b.Within n) : (a ++ b).Within (m + n) := by
  change (a.andThen b).Within (m + n)
  rcases hr : a.refusal with _ | cause
  · have hab : a.andThen b = ⟨a.pieces ++ b.pieces, b.refusal⟩ := by rw [andThen, hr]
    rw [hab]
    refine ⟨?_, hb.refusal_ne⟩
    rw [content, List.flatten_append, List.length_append]
    exact Nat.add_le_add ha.length_le hb.length_le
  · have hab : a.andThen b = ⟨a.pieces, some cause⟩ := by rw [andThen, hr]
    rw [hab]
    exact ⟨Nat.le_add_right_of_le ha.length_le, hr ▸ ha.refusal_ne⟩

theorem Within.withCheckOctet (ha : a.Within n) : a.withCheckOctet.Within (n + 1) :=
  ha.append (within_octet _)

/-- A buffer of that size is not too small. -/
theorem Within.toOctets_ne (h : a.Within n) : a.toOctets n ≠ .error .bufferTooSmall := by
  have hput := putAll_of_fits a.pieces (Writer.ofCapacity n) h.length_le
  intro htoo
  simp only [toOctets, writeTo, hput] at htoo
  rcases hr : a.refusal with _ | cause
  · rw [hr] at htoo
    cases htoo
  · rw [hr] at htoo
    obtain rfl := Except.error.inj htoo
    exact h.refusal_ne hr

end

/-! ## What all encoders have in common -/

/-- What an encoder with the octets `b` makes of a buffer. -/
structure Appended (b : Octets) (w : Writer) (done : Writer × Except EncodeError Unit) : Prop where
  /-- The buffer holds as much as before. -/
  capacity_eq : done.1.capacity = w.capacity
  /-- What stood in it stands there still, and behind it a beginning of the octets. -/
  beginning : ∃ q, q <+: b ∧ done.1.written = w.written ++ q
  /-- The encoder succeeds if and only if there is room for its octets. -/
  ok_iff : done.2 = .ok () ↔ b.length ≤ w.capacity - w.written.length
  /-- Then all of them are there. -/
  whole : done.2 = .ok () → done.1.written = w.written ++ b
  /-- Otherwise the buffer is said to be too small. -/
  tooSmall : done.2 ≠ .ok () → done.2 = .error .bufferTooSmall

theorem Writes.appended {e : Encoding} {b : Octets} (h : e.Writes b) (w : Writer) :
    Appended b w (e.writeTo w) := by
  by_cases hroom : b.length ≤ w.remaining
  · obtain ⟨w', heq, hcapacity, hwritten⟩ := h.writeTo_of_le hroom
    rw [heq]
    exact ⟨hcapacity, ⟨b, List.prefix_refl b, hwritten⟩, iff_of_true rfl hroom, fun _ => hwritten,
      fun hfailed => absurd rfl hfailed⟩
  · obtain ⟨w', q, heq, hcapacity, hq, hwritten⟩ := h.writeTo_of_lt (Nat.lt_of_not_le hroom)
    rw [heq]
    exact ⟨hcapacity, ⟨q, hq, hwritten⟩, iff_of_false nofun hroom, nofun, fun _ => rfl⟩

/-- The behaviour of an encoder towards buffers: `encoded` is what comes of a fresh buffer of the
foreseen length, and `writeTo` is what happens to any other. -/
structure Uniform (encoded : Except EncodeError Octets) (foreseen : Nat)
    (writeTo : Writer → Writer × Except EncodeError Unit) : Prop where
  /-- The foreseen length is enough. -/
  enough : encoded ≠ .error .bufferTooSmall
  /-- It is the length of the octets, if there are any. -/
  length_eq : ∀ b, encoded = .ok b → b.length = foreseen
  /-- And then they are what is written into any buffer, as far as there is room. -/
  appended : ∀ b, encoded = .ok b → ∀ w, Appended b w (writeTo w)

/-- A bound on whatever is written and the length of what is written in the end decide it all. -/
theorem Within.uniform {e : Encoding} {n : Nat} (hwithin : e.Within n)
    (hlength : ∀ b, e.toOctets n = .ok b → b.length = n) : Uniform (e.toOctets n) n e.writeTo :=
  ⟨hwithin.toOctets_ne, hlength, fun _ hb => (toOctets_eq_ok_iff.1 hb).1.appended⟩

end Encoding

/-! ## Kinds of units -/

open Encoding

namespace Frame

theorem within_standardHeader (f : Frame) : f.standardHeader.Within 6 :=
  within_octet _ |>.append (within_word _) |>.append (within_word _) |>.append (within_octet _)

theorem within_extendedHeader (f : Frame) : f.extendedHeader.Within 7 :=
  within_octet _ |>.append (within_octet _) |>.append (within_word _) |>.append (within_word _)
    |>.append (within_octet _)

theorem within_encode (f : Frame) : f.encode.Within f.encodedLength := by
  unfold encode encodedLength
  by_cases hstandard : f.isStandard = true
  · rw [if_pos hstandard, if_pos hstandard]
    have hbody := (f.within_standardHeader.append (within_octets f.payload)).withCheckOctet
    rw [Nat.add_right_comm, Nat.add_comm (6 + 1)] at hbody
    exact Nat.zero_add (f.payload.length + 7) ▸
      ((within_length _).append (within_range _)).append hbody
  · rw [if_neg hstandard, if_neg hstandard]
    have hbody := (f.within_extendedHeader.append (within_octets f.payload)).withCheckOctet
    rw [Nat.add_right_comm, Nat.add_comm (7 + 1)] at hbody
    exact Nat.zero_add (f.payload.length + 8) ▸
      ((within_length _).append (within_range _)).append hbody

theorem uniform (f : Frame) : Uniform f.toOctets f.encodedLength f.encode.writeTo := by
  refine f.within_encode.uniform fun b hb => ?_
  obtain ⟨-, rfl⟩ := toOctets_eq_ok_iff.1 hb
  exact f.length_wire

end Frame

namespace Cemi

theorem within_encode (m : Cemi) : m.encode.Within m.encodedLength :=
  within_length _ |>.append (within_range _) |>.append (within_octet _) |>.append (within_octet _)
    |>.append (within_octet _) |>.append (within_octet _) |>.append (within_word _)
    |>.append (within_word _) |>.append (within_octet _) |>.append (within_octets m.frame.payload)

theorem uniform (m : Cemi) : Uniform m.toOctets m.encodedLength m.encode.writeTo := by
  refine m.within_encode.uniform fun b hb => ?_
  obtain ⟨-, -, rfl⟩ := writes_iff.1 (Encoding.toOctets_eq_ok_iff.1 hb).1
  simp only [fields, Frame.extendedFront, List.length_append, List.length_cons, List.length_nil,
    Octets.length_ofWord, encodedLength]
  omega

end Cemi

namespace Packet

theorem within_encode (p : Packet) : p.encode.Within p.encodedLength :=
  within_length _ |>.append (within_octet _) |>.append (within_octet _) |>.append (within_word _)
    |>.append (within_word _) |>.append (within_octets p.body)

theorem uniform (p : Packet) : Uniform p.toOctets p.encodedLength p.encode.writeTo := by
  refine p.within_encode.uniform fun b hb => ?_
  obtain ⟨-, rfl⟩ := toOctets_eq_ok_iff.1 hb
  exact p.length_wire

end Packet

namespace Tpdu

theorem within_encodeData (control : UInt8) (apdu : Octets) :
    (encodeData control apdu).Within apdu.length := by
  cases apdu with
  | nil => exact within_refuse nofun
  | cons first rest =>
    have hdata := (within_octet (control ||| (first &&& 0x03))).append (within_octets rest)
    rwa [Nat.add_comm] at hdata

theorem within_encode (unit : Tpdu) : unit.encode.Within unit.encodedLength := by
  cases unit with
  | dataUnnumbered apdu => exact within_encodeData _ apdu
  | dataConnected sequence apdu =>
    have hdata := (within_range (sequence ≤ 0x0f)).append
      (within_encodeData (numbered 0x40 sequence) apdu)
    rwa [Nat.zero_add] at hdata
  | connect | disconnect => exact within_octet _
  | ack sequence | nack sequence => exact (within_range _).append (within_octet _)
  | unknown raw => exact within_octets raw

theorem uniform (unit : Tpdu) : Uniform unit.toOctets unit.encodedLength unit.encode.writeTo :=
  unit.within_encode.uniform fun _ hb => length_of_writes (toOctets_eq_ok_iff.1 hb)

end Tpdu

namespace Apdu

theorem within_head (first second : UInt8) : (head first second).Within 2 :=
  (within_octet first).append (within_octet second)

theorem within_encodeGroupValue (service : UInt8) (value : GroupValue) :
    (encodeGroupValue service value).Within (2 + value.behind.length) := by
  cases value with
  | small bits => exact (within_range _).append (within_head _ _)
  | long data => exact ((within_length _).append (within_head _ _)).append (within_octets data)

theorem within_encodeMemory (service : UInt8) (address : UInt16) (data : Octets) :
    (encodeMemory service address data).Within (4 + data.length) :=
  within_length _ |>.append (within_head _ _) |>.append (within_word _)
    |>.append (within_octets data)

theorem within_encodeUserMemory (second extension : UInt8) (address : UInt16) (data : Octets) :
    (encodeUserMemory second extension address data).Within (5 + data.length) :=
  within_head _ _ |>.append (within_range _) |>.append (within_length _)
    |>.append (within_octet _) |>.append (within_word _) |>.append (within_octets data)

/-- Masks of different lengths are not written at all. -/
theorem within_encodeBitMasks (first second : UInt8) (address : UInt16)
    (andMask xorMask : Octets) :
    (encodeBitMasks first second address andMask xorMask).Within (5 + 2 * andMask.length) := by
  unfold encodeBitMasks
  by_cases hlength : andMask.length = xorMask.length
  · have hall := within_length (andMask.length == xorMask.length && decide (andMask.length ≤ 255))
      |>.append (within_head first second)
      |>.append (within_octet (UInt8.ofNat andMask.length)) |>.append (within_word address)
      |>.append (within_octets andMask) |>.append (within_octets xorMask)
    have htwice : andMask.length + xorMask.length = 2 * andMask.length := by omega
    rwa [Nat.add_assoc, htwice] at hall
  · rw [beq_eq_false_iff_ne.2 hlength]
    exact ⟨Nat.zero_le _, nofun⟩

theorem within_encodeRange (target : PropertyRange) : (encodeRange target).Within 4 :=
  within_range _ |>.append (within_octet _) |>.append (within_octet _)
    |>.append (within_range _) |>.append (within_word _)

theorem within_encode (u : Apdu) : u.encode.Within u.encodedLength := by
  cases u with
  | groupValueResponse value | groupValueWrite value =>
    cases value with
    | small bits => exact within_encodeGroupValue _ (.small bits)
    | long data => exact within_encodeGroupValue _ (.long data)
  | adcRead channel count =>
    exact within_range _ |>.append (within_head _ _) |>.append (within_octet _)
  | adcResponse channel count value =>
    exact within_range _ |>.append (within_head _ _) |>.append (within_octet _)
      |>.append (within_word _)
  | memoryRead count address =>
    exact within_range _ |>.append (within_head _ _) |>.append (within_word _)
  | memoryResponse address data | memoryWrite address data => exact within_encodeMemory _ _ _
  | userMemoryRead extension count address =>
    exact within_head _ _ |>.append (within_range _) |>.append (within_range _)
      |>.append (within_octet _) |>.append (within_word _)
  | userMemoryResponse extension address data | userMemoryWrite extension address data =>
    exact within_encodeUserMemory _ _ _ _
  | userMemoryBitWrite address andMask xorMask | memoryBitWrite address andMask xorMask =>
    exact within_encodeBitMasks _ _ _ _ _
  | individualAddressWrite _ | domainAddressWrite _ | domainAddressResponse _ =>
    exact (within_head _ _).append (within_word _)
  | authorizeResponse _ | keyResponse _ => exact (within_head _ _).append (within_octet _)
  | userManufacturerInfoResponse manufacturer data =>
    exact within_head _ _ |>.append (within_octet _) |>.append (within_word _)
  | deviceDescriptorRead descriptorType => exact (within_range _).append (within_head _ _)
  | deviceDescriptorResponse descriptorType descriptor =>
    exact within_range _ |>.append (within_head _ _) |>.append (within_word _)
  | authorizeRequest key | keyWrite level key =>
    exact within_head _ _ |>.append (within_octet _) |>.append (within_octets _)
  | propertyValueRead target => exact (within_head _ _).append (within_encodeRange target)
  | propertyValueResponse target data | propertyValueWrite target data =>
    exact within_head _ _ |>.append (within_encodeRange target) |>.append (within_octets data)
  | propertyDescriptionRead _ _ _ | serialNumberRead _ | serviceInformation _ _ _ =>
    exact (within_head _ _).append (within_octets _)
  | propertyDescriptionResponse object property index propertyType maxElements access =>
    exact within_head _ _ |>.append (within_octets _) |>.append (within_word _)
      |>.append (within_octet _)
  | serialNumberResponse serial address | serialNumberWrite serial address =>
    exact within_head _ _ |>.append (within_octets _) |>.append (within_word _)
      |>.append (within_octets _)
  | domainAddressSelectiveRead domain address range =>
    exact within_head _ _ |>.append (within_word _) |>.append (within_word _)
      |>.append (within_octet _)
  | unknown raw => exact within_octets raw
  | groupValueRead | individualAddressRead | individualAddressResponse
  | userManufacturerInfoRead | restart | domainAddressRead => exact within_head _ _

theorem uniform (u : Apdu) : Uniform u.toOctets u.encodedLength u.encode.writeTo :=
  u.within_encode.uniform fun _ hb => length_of_writes (toOctets_eq_ok_iff.1 hb)

end Apdu

/-! ## All of them -/

/-- **Buffers make no difference to what is written, only to how much of it.**

For each kind of unit the foreseen length is enough, and it is the length of the octets, if the unit
has any.  Into a buffer of any size, whatever stands in it, these octets are then written as far as
there is room: all of them if they fit, and else a beginning of them, and the buffer is said to be
too small.  In particular a frame ends in the check octet over its own octets, wherever in a buffer
it is written. -/
theorem buffers_are_uniform :
    (∀ f : Frame, Uniform f.toOctets f.encodedLength f.encode.writeTo) ∧
    (∀ unit : Tpdu, Uniform unit.toOctets unit.encodedLength unit.encode.writeTo) ∧
    (∀ u : Apdu, Uniform u.toOctets u.encodedLength u.encode.writeTo) ∧
    (∀ m : Cemi, Uniform m.toOctets m.encodedLength m.encode.writeTo) ∧
    (∀ p : Packet, Uniform p.toOctets p.encodedLength p.encode.writeTo) ∧
    ∀ (f : Frame) (b : Octets), f.toOctets = .ok b → ∃ x, b = x ++ [Octets.checkOctet x] ∧
      ∀ w : Writer, b.length ≤ w.remaining →
        (f.encode.writeTo w).1.written = w.written ++ x ++ [Octets.checkOctet x] := by
  refine ⟨Frame.uniform, Tpdu.uniform, Apdu.uniform, Cemi.uniform, Packet.uniform,
    fun f b hb => ?_⟩
  have happended := f.uniform.appended b hb
  obtain ⟨-, rfl⟩ := Frame.toOctets_eq_ok_iff.1 hb
  have hwire : f.wire = (f.header ++ f.payload) ++ [Octets.checkOctet (f.header ++ f.payload)] :=
    (List.append_assoc _ _ _).symm
  refine ⟨f.header ++ f.payload, hwire, fun w hroom => ?_⟩
  have hok := (happended w).ok_iff.2 hroom
  rw [(happended w).whole hok, hwire, ← List.append_assoc]

/-- The command that switches a group on has nine octets.  A buffer in which three of twelve octets
are taken holds it; in one of eleven there is no room for the check octet, and only for that. -/
theorem buffers_are_uniform_switch :
    let f := Frame.addressed (.group ⟨0x0a03⟩) [0x00, 0x81]
    let b : Octets := [0xbc, 0x00, 0x00, 0x0a, 0x03, 0xe1, 0x00, 0x81, 0x2a]
    let wide : Writer := ⟨12, [0x01, 0x02, 0x03], by decide⟩
    let narrow : Writer := ⟨11, [0x01, 0x02, 0x03], by decide⟩
    f.toOctets = .ok b ∧ b.length = f.encodedLength ∧
      (f.encode.writeTo wide).2 = .ok () ∧ (f.encode.writeTo wide).1.written = wide.written ++ b ∧
      (f.encode.writeTo narrow).2 = .error .bufferTooSmall ∧
      (f.encode.writeTo narrow).1.written = narrow.written ++ b.dropLast := by
  intro f b wide narrow
  have hoctets : f.toOctets = .ok b := Frame.toOctets_eq_ok_iff.2 (by decide)
  obtain ⟨-, hlength, happended⟩ := buffers_are_uniform.1 f
  have hwide := (happended b hoctets wide).ok_iff.2 (by decide)
  have hnarrow : (f.encode.writeTo narrow).2 ≠ .ok () := fun hok =>
    absurd ((happended b hoctets narrow).ok_iff.1 hok) (by decide)
  exact ⟨hoctets, hlength b hoctets, hwide, (happended b hoctets wide).whole hwide,
    (happended b hoctets narrow).tooSmall hnarrow, by decide⟩

end KnxBus
