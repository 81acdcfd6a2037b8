import KnxBus.Frame
import KnxBus.Proofs.Encoding
import KnxBus.Proofs.Octets

/-!
# Data frames on the wire

A frame can be written if its payload and its hop count fit (`Frame.Fits`), and then it looks like
`Frame.wire`: a header in one of the two formats, the payload and the check octet.

Reading goes by the highest bit of the first octet.  Whatever the format, behind the header stand
the payload and the check octet, and it is there that the two fields are found which say whether the
frame was read from what it would be written as (`Frame.IsValid`).  The header itself is packed so
closely that reading loses nothing of it (`Holds.header_eq_standardFront_iff`,
`Holds.header_eq_extendedFront_iff`), as long as the first octet marks a data frame and the length
field says how long the payload is.

So a frame that was written is read back (`decode?_wire`), and of a frame that was read it is known
when it would be written in the same way (`ReadAs.wire_eq_iff`).
-/

namespace KnxBus
namespace Frame

/-! ## Writing -/

/-- Payload and hop count have the size that there is room for. -/
def Fits (f : Frame) : Prop :=
  (1 ≤ f.payload.length ∧ f.payload.length ≤ 255) ∧ f.hopCount ≤ 7

instance (f : Frame) : Decidable f.Fits :=
  inferInstanceAs (Decidable ((_ ∧ _) ∧ _))

/-- A header in the standard format. -/
def standardFront (control : UInt8) (source destination : UInt16) (routing : UInt8) : Octets :=
  control :: (Octets.ofWord source ++ Octets.ofWord destination ++ [routing])

/-- A header in the extended format. -/
def extendedFront (control routing : UInt8) (source destination : UInt16) (length : UInt8) :
    Octets :=
  control :: routing :: (Octets.ofWord source ++ Octets.ofWord destination ++ [length])

/-- The header of a frame. -/
def header (f : Frame) : Octets :=
  if f.isStandard then
    standardFront (0x80 ||| f.controlBits) f.source.raw f.destination.raw
      (f.routingBits ||| f.lengthField)
  else
    extendedFront f.controlBits f.routingBits f.source.raw f.destination.raw f.lengthField

/-- The octets of a frame. -/
def wire (f : Frame) : Octets :=
  f.header ++ (f.payload ++ [Octets.checkOctet (f.header ++ f.payload)])

theorem length_wire (f : Frame) : f.wire.length = f.encodedLength := by
  unfold wire header encodedLength standardFront extendedFront
  split <;> simp <;> omega

/-- What can be written, and what it looks like. -/
theorem writes_iff {f : Frame} {b : Octets} : f.encode.Writes b ↔ f.Fits ∧ b = f.wire := by
  have hheader (x : Octets) :
      (if f.isStandard then f.standardHeader else f.extendedHeader).Writes x ↔ x = f.header := by
    unfold header standardFront extendedFront
    split <;>
      simp only [standardHeader, extendedHeader, Encoding.writes_append_iff,
        Encoding.writes_octet_iff, Encoding.writes_word_iff, exists_and_left, exists_eq_left,
        List.cons_append, List.nil_append, List.append_assoc]
  unfold encode
  simp only [Encoding.writes_append_iff, Encoding.writes_require_iff,
    Encoding.writes_withCheckOctet_iff, Encoding.writes_octets_iff, hheader, Fits, wire,
    exists_and_left, and_assoc, exists_eq_left, Bool.and_eq_true, decide_eq_true_iff,
    List.nil_append, List.append_assoc]
  rfl

/-- **A frame has octets exactly if it fits.** -/
theorem toOctets_eq_ok_iff {f : Frame} {b : Octets} :
    f.toOctets = .ok b ↔ f.Fits ∧ b = f.wire := by
  rw [toOctets, Encoding.toOctets_eq_ok_iff, writes_iff]
  refine and_iff_left_of_imp ?_
  rintro ⟨-, rfl⟩
  exact Nat.le_of_eq f.length_wire

theorem exists_octets_iff {f : Frame} : (∃ b, f.toOctets = .ok b) ↔ f.Fits := by
  simp only [toOctets_eq_ok_iff, exists_and_left, exists_eq, and_true]

/-! ## The packed octets -/

/-- The first octet in terms of what it holds. -/
def controlOctet (isStandard isRepeated : Bool) (priority : Priority) : UInt8 :=
  (if isStandard then (0x80 : UInt8) else 0x00) |||
    ((if isRepeated then (0x10 : UInt8) else 0x30) ||| (priority.bits <<< 2))

/-- The octet of address type, hop count and four more bits, in terms of what it holds. -/
def routingOctet (isGroup : Bool) (hops low : UInt8) : UInt8 :=
  ((if isGroup then (0x80 : UInt8) else 0x00) ||| (hops <<< 4)) ||| low

/-- What is packed into the first octet is found there, and it marks a data frame. -/
theorem controlOctet_bits (isStandard isRepeated : Bool) (priority : Priority) :
    let control := controlOctet isStandard isRepeated priority
    (control &&& 0x80 != 0) = isStandard ∧ control &&& 0x53 = 0x10 ∧
      (control &&& 0x20 == 0) = isRepeated ∧ Priority.ofBits (control >>> 2) = priority := by
  cases isStandard <;> cases isRepeated <;> cases priority <;> decide

/-- A first octet that marks a data frame holds nothing else. -/
theorem controlOctet_ofBits : ∀ control : UInt8, control &&& 0x53 = 0x10 →
    controlOctet (control &&& 0x80 != 0) (control &&& 0x20 == 0) (.ofBits (control >>> 2)) =
      control :=
  Octets.forall_octet (by decide +kernel)

theorem routingOctet_bits : ∀ (isGroup : Bool) (hops : Fin 8) (low : Fin 16),
    let routing := routingOctet isGroup (UInt8.ofNat hops.val) (UInt8.ofNat low.val)
    (routing &&& 0x80 != 0) = isGroup ∧ (routing >>> 4) &&& 0x07 = UInt8.ofNat hops.val ∧
      routing &&& 0x0f = UInt8.ofNat low.val := by
  decide +kernel

/-- A hop count that fits is one of eight. -/
theorem exists_fin_of_hops {hops : UInt8} (h : hops ≤ 7) :
    ∃ n : Fin 8, hops = UInt8.ofNat n.val :=
  Octets.exists_fin_of_lt (Nat.lt_succ_of_le (UInt8.le_iff_toNat_le.1 h))

theorem routingOctet_ofBits : ∀ routing : UInt8,
    routingOctet (routing &&& 0x80 != 0) ((routing >>> 4) &&& 0x07) (routing &&& 0x0f) = routing :=
  Octets.forall_octet (by decide +kernel)

theorem hops_le : ∀ routing : UInt8, (routing >>> 4) &&& 0x07 ≤ 7 :=
  Octets.forall_octet (by decide +kernel)

/-- What is packed into the low half is found there. -/
theorem routingOctet_low {hops low : UInt8} (hhops : hops ≤ 7) (isGroup : Bool)
    (hlow : low.toNat < 16) : routingOctet isGroup hops low &&& 0x0f = low := by
  obtain ⟨hops, rfl⟩ := exists_fin_of_hops hhops
  obtain ⟨low, rfl⟩ := Octets.exists_fin_of_lt hlow
  exact (routingOctet_bits isGroup hops low).2.2

theorem low_lt : ∀ routing : UInt8, (routing &&& 0x0f).toNat < 16 :=
  Octets.forall_octet (by decide +kernel)

/-- If the low half is packed anew, the octet is the same exactly if that half was. -/
theorem routingOctet_eq_iff (routing : UInt8) {low : UInt8} (hlow : low.toNat < 16) :
    routingOctet (routing &&& 0x80 != 0) ((routing >>> 4) &&& 0x07) low = routing ↔
      low = routing &&& 0x0f := by
  constructor
  · intro h
    have hbits := routingOctet_low (hops_le routing) (routing &&& 0x80 != 0) hlow
    rw [h] at hbits
    exact hbits.symm
  · rintro rfl
    exact routingOctet_ofBits routing

/-! ## Headers -/

/-- The two fields that say whether a frame was read well both say so. -/
def IsValid (f : Frame) : Prop := f.validCheck = true ∧ f.validLength = true

instance (f : Frame) : Decidable f.IsValid :=
  inferInstanceAs (Decidable (_ ∧ _))

/-- The frame, taken as valid in both respects. -/
def validated (f : Frame) : Frame := { f with validCheck := true, validLength := true }

theorem IsValid.validated_eq {f : Frame} (h : f.IsValid) : f.validated = f := by
  obtain ⟨priority, repeated, source, destination, hopCount, payload, check, length⟩ := f
  obtain ⟨rfl, rfl⟩ := h
  rfl

/-- Six octets in a row are a header in the standard format. -/
theorem standardFront_word (control sh sl dh dl routing : UInt8) :
    standardFront control (Octets.word sh sl) (Octets.word dh dl) routing =
      [control, sh, sl, dh, dl, routing] := by
  rw [standardFront, Octets.ofWord_word, Octets.ofWord_word]
  rfl

/-- Seven octets in a row are one in the extended format. -/
theorem extendedFront_word (control routing sh sl dh dl length : UInt8) :
    extendedFront control routing (Octets.word sh sl) (Octets.word dh dl) length =
      [control, routing, sh, sl, dh, dl, length] := by
  rw [extendedFront, Octets.ofWord_word, Octets.ofWord_word]
  rfl

theorem standard_header {f : Frame} (hstandard : f.isStandard = true) :
    f.header = standardFront (controlOctet true f.repeated f.priority) f.source.raw
      f.destination.raw (routingOctet f.destination.isGroup f.hopCount f.lengthField) :=
  if_pos hstandard

theorem extended_header {f : Frame} (hextended : f.isStandard = false) :
    f.header = extendedFront (controlOctet false f.repeated f.priority)
      (routingOctet f.destination.isGroup f.hopCount 0) f.source.raw f.destination.raw
        f.lengthField := by
  have hcontrol : controlOctet false f.repeated f.priority = f.controlBits := UInt8.zero_or
  have hrouting : routingOctet f.destination.isGroup f.hopCount 0 = f.routingBits := UInt8.or_zero
  rw [header, if_neg (ne_true_of_eq_false hextended), hcontrol, hrouting]

/-- The length field says how long a payload is. -/
theorem toNat_lengthField {f : Frame} (hpos : 1 ≤ f.payload.length)
    (hle : f.payload.length ≤ 256) : f.lengthField.toNat + 1 = f.payload.length := by
  rw [lengthField, UInt8.toNat_ofNat']
  omega

/-- The first octet of a frame marks it as one. -/
theorem wire_marked (f : Frame) : f.wire.headD 0 &&& 0x53 = 0x10 := by
  cases hstandard : f.isStandard with
  | true =>
    rw [wire, standard_header hstandard]
    exact (controlOctet_bits true f.repeated f.priority).2.1
  | false =>
    rw [wire, extended_header hstandard]
    exact (controlOctet_bits false f.repeated f.priority).2.1

theorem ofRaw_raw (d : Destination) : Destination.ofRaw d.raw d.isGroup = d := by
  cases d <;> rfl

theorem raw_ofRaw (raw : UInt16) (isGroup : Bool) :
    (Destination.ofRaw raw isGroup).raw = raw ∧
      (Destination.ofRaw raw isGroup).isGroup = isGroup := by
  cases isGroup <;> exact ⟨rfl, rfl⟩

/-- The fields of a frame that the octets of a header hold. -/
structure Holds (control routing : UInt8) (source destination : UInt16) (f : Frame) : Prop where
  priority : Priority.ofBits (control >>> 2) = f.priority
  repeated : (control &&& 0x20 == 0) = f.repeated
  source : source = f.source.raw
  destination : destination = f.destination.raw
  group : (routing &&& 0x80 != 0) = f.destination.isGroup
  hops : (routing >>> 4) &&& 0x07 = f.hopCount

/-- The frame whose fields a header holds. -/
def held (control routing : UInt8) (source destination : UInt16) (payload : Octets)
    (validCheck validLength : Bool) : Frame :=
  { priority := .ofBits (control >>> 2)
    repeated := control &&& 0x20 == 0
    source := ⟨source⟩
    destination := .ofRaw destination (routing &&& 0x80 != 0)
    hopCount := (routing >>> 4) &&& 0x07
    payload := payload
    validCheck := validCheck
    validLength := validLength }

theorem holds_held {control routing : UInt8} {source destination : UInt16} {payload : Octets}
    {validCheck validLength : Bool} :
    Holds control routing source destination
      (held control routing source destination payload validCheck validLength) where
  priority := rfl
  repeated := rfl
  source := rfl
  destination := (raw_ofRaw _ _).1.symm
  group := (raw_ofRaw _ _).2.symm
  hops := rfl

/-- A header that holds the fields of a frame leaves open only what does not travel. -/
theorem Holds.held_eq {control routing : UInt8} {source destination : UInt16} {f : Frame}
    (h : Holds control routing source destination f) :
    held control routing source destination f.payload true true = f.validated := by
  rw [held, h.priority, h.repeated, h.source, h.destination, h.group, h.hops, ofRaw_raw]
  rfl

/-- A header holds the fields of the frame from which it was made. -/
theorem holds_self {f : Frame} (hhops : f.hopCount ≤ 7) (isStandard : Bool) {low : UInt8}
    (hlow : low.toNat < 16) :
    Holds (controlOctet isStandard f.repeated f.priority)
      (routingOctet f.destination.isGroup f.hopCount low) f.source.raw f.destination.raw f := by
  obtain ⟨-, -, hrepeated, hpriority⟩ := controlOctet_bits isStandard f.repeated f.priority
  obtain ⟨hops, hops_eq⟩ := exists_fin_of_hops hhops
  obtain ⟨low, rfl⟩ := Octets.exists_fin_of_lt hlow
  obtain ⟨hgroup, hhop, -⟩ := routingOctet_bits f.destination.isGroup hops low
  rw [← hops_eq] at hgroup hhop
  exact ⟨hpriority, hrepeated, rfl, rfl, hgroup, hhop⟩

section
variable {f : Frame} {control routing length : UInt8} {source destination : UInt16}

/-- In the standard format only the length can make a difference between the header that a frame has
and one that holds its fields. -/
theorem Holds.header_eq_standardFront_iff (h : Holds control routing source destination f)
    (hstandard : f.isStandard = true) (hformat : (control &&& 0x80 != 0) = true)
    (hkind : control &&& 0x53 = 0x10) :
    f.header = standardFront control source destination routing ↔
      f.lengthField = routing &&& 0x0f := by
  have hcontrol := controlOctet_ofBits control hkind
  have hlow : f.lengthField.toNat < 16 := by
    have hle : f.payload.length ≤ 16 := of_decide_eq_true hstandard
    rw [lengthField, UInt8.toNat_ofNat']
    omega
  rw [hformat, h.repeated, h.priority] at hcontrol
  rw [← routingOctet_eq_iff routing hlow, standard_header hstandard, hcontrol, h.group, h.hops,
    h.source, h.destination]
  simp [standardFront]

/-- So it is in the extended format. -/
theorem Holds.header_eq_extendedFront_iff (h : Holds control routing source destination f)
    (hextended : f.isStandard = false) (hformat : (control &&& 0x80 != 0) = false)
    (hkind : control &&& 0x53 = 0x10) (hlow : routing &&& 0x0f = 0) :
    f.header = extendedFront control routing source destination length ↔
      f.lengthField = length := by
  have hcontrol := controlOctet_ofBits control hkind
  have hrouting := routingOctet_ofBits routing
  rw [hformat, h.repeated, h.priority] at hcontrol
  rw [hlow, h.group, h.hops] at hrouting
  rw [extended_header hextended, hcontrol, hrouting, h.source, h.destination]
  simp [extendedFront]

end

/-! ## Behind the header -/

/-- The frame that is read from a header, a payload and a check octet. -/
def behindHeader (header front : Octets) (last control routing : UInt8)
    (source destination : UInt16) (declared : Nat) : Frame :=
  held control routing source destination (front.take declared)
    (Octets.checkOctet (header ++ front) == last) (declared == front.length)

section
variable {header front : Octets} {last control routing : UInt8} {source destination : UInt16}
  {declared : Nat}

/-- Of the payload no more is taken than is declared, and there must be some. -/
theorem ofHeader?_append :
    ofHeader? (header ++ (front ++ [last])) control routing source destination declared
        (front ++ [last]) =
      if front = [] then none
      else some (behindHeader header front last control routing source destination declared) := by
  have hlength : (front ++ [last]).length - 1 = front.length := by simp
  have htake : (front ++ [last]).take (min declared front.length) = front.take declared := by
    rw [List.take_append_of_le_length (Nat.min_le_right _ _), List.take_eq_take_iff]
    omega
  have hshort : (front ++ [last]).length < 2 ↔ front = [] := by
    rw [← List.length_eq_zero_iff, List.length_append, List.length_singleton]
    omega
  unfold ofHeader?
  simp only [hlength, htake, hshort, ← List.append_assoc, List.dropLast_concat]
  rw [List.getLastD_concat]
  rfl

/-- What is read behind a header ends in a check octet and has a payload before it. -/
theorem exists_of_ofHeader? (header : Octets) {body : Octets} {f : Frame}
    (h : ofHeader? (header ++ body) control routing source destination declared body = some f) :
    ∃ front last, front ≠ [] ∧ body = front ++ [last] ∧
      f = behindHeader header front last control routing source destination declared := by
  obtain rfl | ⟨front, last, rfl⟩ := List.eq_nil_or_concat body
  · cases h
  · rw [List.concat_eq_append] at h ⊢
    rw [ofHeader?_append] at h
    split at h
    · cases h
    · rename_i hfront
      exact ⟨front, last, hfront, rfl, (Option.some.inj h).symm⟩

/-- A frame is written as a header, a payload and a check octet exactly if these are its own. -/
theorem wire_eq_append_iff {f : Frame} (hlength : f.header.length = header.length) :
    f.wire = header ++ (front ++ [last]) ↔
      f.header = header ∧ f.payload = front ∧ Octets.checkOctet (header ++ front) = last := by
  constructor
  · intro h
    obtain ⟨hheader, hbody⟩ := List.append_inj h hlength
    obtain ⟨hpayload, hcheck⟩ := List.append_inj' hbody rfl
    refine ⟨hheader, hpayload, ?_⟩
    rw [← hheader, ← hpayload]
    exact List.singleton_inj.1 hcheck
  · rintro ⟨hheader, hpayload, hcheck⟩
    rw [wire, hheader, hpayload, hcheck]

/-- If a header tells by its length field how long the payload is, a frame that was read behind it
is written in the same way exactly if both fields say so. -/
theorem wire_behindHeader_iff
    (hlength : (behindHeader header front last control routing source destination
      declared).header.length = header.length)
    (htells : (behindHeader header front last control routing source destination
      declared).header = header ↔ (front.take declared).length = declared) :
    (behindHeader header front last control routing source destination declared).wire =
        header ++ (front ++ [last]) ↔
      (Octets.checkOctet (header ++ front) == last) = true ∧
        (declared == front.length) = true := by
  rw [wire_eq_append_iff hlength, htells, beq_iff_eq, beq_iff_eq]
  constructor
  · rintro ⟨hdeclared, hfront, hcheck⟩
    have hfront : front.take declared = front := hfront
    rw [hfront] at hdeclared
    exact ⟨hcheck, hdeclared.symm⟩
  · rintro ⟨hcheck, rfl⟩
    have hfront : front.take front.length = front := List.take_length
    exact ⟨congrArg List.length hfront, hfront, hcheck⟩

end

/-! ## Reading -/

section
variable {control routing length : UInt8}

/-- A header in the standard format is taken apart. -/
theorem decode?_standardFront (format : (control &&& 0x80 != 0) = true) (routing : UInt8)
    (source destination : UInt16) (body : Octets) :
    decode? (standardFront control source destination routing ++ body) =
      ofHeader? (standardFront control source destination routing ++ body) control routing source
        destination ((routing &&& 0x0f).toNat + 1) body := by
  have hparts (hi lo hi' lo' : UInt8) :
      decode? (control :: hi :: lo :: hi' :: lo' :: routing :: body) =
        ofHeader? (control :: hi :: lo :: hi' :: lo' :: routing :: body) control routing
          (Octets.word hi lo) (Octets.word hi' lo') ((routing &&& 0x0f).toNat + 1) body :=
    if_pos format
  refine (hparts _ _ _ _).trans ?_
  rw [Octets.word_ofWord, Octets.word_ofWord]
  rfl

/-- So is one in the extended format, if the low half of its second octet is clear. -/
theorem decode?_extendedFront (format : (control &&& 0x80 != 0) = false)
    (low : routing &&& 0x0f = 0) (source destination : UInt16) (length : UInt8) (body : Octets) :
    decode? (extendedFront control routing source destination length ++ body) =
      ofHeader? (extendedFront control routing source destination length ++ body) control routing
        source destination (length.toNat + 1) body := by
  have hparts (hi lo hi' lo' : UInt8) :
      decode? (control :: routing :: hi :: lo :: hi' :: lo' :: length :: body) =
        ofHeader? (control :: routing :: hi :: lo :: hi' :: lo' :: length :: body) control routing
          (Octets.word hi lo) (Octets.word hi' lo') (length.toNat + 1) body :=
    (if_neg (ne_true_of_eq_false format)).trans (if_neg fun h => bne_iff_ne.1 h low)
  refine (hparts _ _ _ _).trans ?_
  rw [Octets.word_ofWord, Octets.word_ofWord]
  rfl

end

/-- How a frame is read. -/
inductive ReadAs : Octets → Frame → Prop where
  /-- In the standard format. -/
  | standard {control : UInt8} (format : (control &&& 0x80 != 0) = true) (routing last : UInt8)
      (source destination : UInt16) {front : Octets} (there : front ≠ []) :
      ReadAs (standardFront control source destination routing ++ (front ++ [last]))
        (behindHeader (standardFront control source destination routing) front last control routing
          source destination ((routing &&& 0x0f).toNat + 1))
  /-- In the extended format. -/
  | extended {control routing : UInt8} (format : (control &&& 0x80 != 0) = false)
      (low : routing &&& 0x0f = 0) (length last : UInt8) (source destination : UInt16)
      {front : Octets} (there : front ≠ []) :
      ReadAs (extendedFront control routing source destination length ++ (front ++ [last]))
        (behindHeader (extendedFront control routing source destination length) front last control
          routing source destination (length.toNat + 1))

theorem ReadAs.decode? {b : Octets} {f : Frame} (h : ReadAs b f) : decode? b = some f := by
  cases h with
  | standard format routing last source destination there =>
    exact (decode?_standardFront format _ _ _ _).trans (ofHeader?_append.trans (if_neg there))
  | extended format low length last source destination there =>
    exact (decode?_extendedFront format low _ _ _ _).trans (ofHeader?_append.trans (if_neg there))

theorem readAs_of_decode? {b : Octets} {f : Frame} (h : decode? b = some f) : ReadAs b f := by
  unfold decode? at h
  split at h
  · cases h
  · split at h
    · rename_i control rest hformat
      split at h
      · rename_i sh sl dh dl routing body
        obtain ⟨front, last, hthere, rfl, rfl⟩ :=
          exists_of_ofHeader? [control, sh, sl, dh, dl, routing] h
        have hread := ReadAs.standard hformat routing last (Octets.word sh sl)
          (Octets.word dh dl) hthere
        rw [standardFront_word] at hread
        exact hread
      · cases h
    · rename_i control rest hformat
      split at h
      · rename_i routing sh sl dh dl length body
        split at h
        · cases h
        · rename_i hlow
          obtain ⟨front, last, hthere, rfl, rfl⟩ :=
            exists_of_ofHeader? [control, routing, sh, sl, dh, dl, length] h
          have hread := ReadAs.extended (eq_false_of_ne_true hformat)
            (Decidable.of_not_not fun h => hlow (bne_iff_ne.2 h)) length last (Octets.word sh sl)
            (Octets.word dh dl) hthere
          rw [extendedFront_word] at hread
          exact hread
      · cases h

/-- What a frame is read as is settled by its octets. -/
theorem decode?_eq_some_iff {b : Octets} {f : Frame} : decode? b = some f ↔ ReadAs b f :=
  ⟨readAs_of_decode?, ReadAs.decode?⟩

/-! ## Reading what was written -/

/-- A frame is read behind a header that holds its fields, from its payload and the right check
octet. -/
theorem behindHeader_eq_self {f : Frame} {control routing : UInt8} {source destination : UInt16}
    (h : Holds control routing source destination f) (hvalid : f.IsValid) (header : Octets) :
    behindHeader header f.payload (Octets.checkOctet (header ++ f.payload)) control routing
      source destination f.payload.length = f := by
  rw [behindHeader, List.take_length, beq_self_eq_true, beq_self_eq_true, h.held_eq,
    hvalid.validated_eq]

/-- **A frame that was written is read back.** -/
theorem decode?_wire {f : Frame} (hfits : f.Fits) (hvalid : f.IsValid) :
    decode? f.wire = some f := by
  have hfield := toNat_lengthField hfits.1.1 (Nat.le_succ_of_le hfits.1.2)
  have hpayload : f.payload ≠ [] := List.length_pos_iff.1 hfits.1.1
  have hformat := (controlOctet_bits f.isStandard f.repeated f.priority).1
  cases hstandard : f.isStandard with
  | true =>
    have hle : f.payload.length ≤ 16 := of_decide_eq_true hstandard
    have hlt : f.lengthField.toNat < 16 := by omega
    have hlength := routingOctet_low hfits.2 f.destination.isGroup hlt
    rw [hstandard] at hformat
    rw [wire, standard_header hstandard, decode?_standardFront hformat, hlength, hfield,
      ofHeader?_append, if_neg hpayload, behindHeader_eq_self (holds_self hfits.2 true hlt) hvalid]
  | false =>
    have hzero : (0 : UInt8).toNat < 16 := by decide
    have hlow := routingOctet_low hfits.2 f.destination.isGroup hzero
    rw [hstandard] at hformat
    rw [wire, extended_header hstandard, decode?_extendedFront hformat hlow, hfield,
      ofHeader?_append, if_neg hpayload,
      behindHeader_eq_self (holds_self hfits.2 false hzero) hvalid]

/-! ## Writing what was read -/

section
variable {header front : Octets} {last control routing length : UInt8} {source destination : UInt16}
  {declared : Nat}

/-- Of a payload that is there some is taken. -/
theorem payload_behindHeader_pos (hthere : front ≠ []) (hpos : 1 ≤ declared) :
    1 ≤ (behindHeader header front last control routing source destination
      declared).payload.length := by
  have hfront : 1 ≤ front.length := List.length_pos_iff.2 hthere
  have htake : (front.take declared).length = min declared front.length := List.length_take
  change 1 ≤ (front.take declared).length
  omega

/-- Four bits cannot declare more than the standard format holds. -/
theorem isStandard_behindHeader : (behindHeader header front last control routing source destination
    ((routing &&& 0x0f).toNat + 1)).isStandard = true :=
  decide_eq_true (Nat.le_trans (List.length_take_le _ _) (low_lt routing))

/-- The length field of what was read says what was declared exactly if as much is there. -/
theorem toNat_lengthField_behindHeader (hthere : front ≠ []) (hpos : 1 ≤ declared)
    (hle : declared ≤ 256) :
    (behindHeader header front last control routing source destination
        declared).lengthField.toNat + 1 = declared ↔ (front.take declared).length = declared := by
  rw [toNat_lengthField (payload_behindHeader_pos hthere hpos)]
  · rfl
  · exact Nat.le_trans (List.length_take_le _ _) hle

/-- **What was read in the standard format is what would be written**, exactly if it is valid. -/
theorem wire_eq_iff_of_standard (hformat : (control &&& 0x80 != 0) = true)
    (hkind : control &&& 0x53 = 0x10) (hthere : front ≠ []) :
    let header := standardFront control source destination routing
    let f := behindHeader header front last control routing source destination
      ((routing &&& 0x0f).toNat + 1)
    f.wire = header ++ (front ++ [last]) ↔ f.IsValid := by
  intro header f
  have hlow := low_lt routing
  have hholds : Holds control routing source destination f := holds_held
  have hstandard : f.isStandard = true := isStandard_behindHeader
  refine wire_behindHeader_iff ?_ ?_
  · change f.header.length = header.length
    rw [standard_header hstandard]
    rfl
  · change f.header = header ↔ _
    rw [hholds.header_eq_standardFront_iff hstandard hformat hkind,
      ← toNat_lengthField_behindHeader hthere (Nat.le_add_left 1 _) (by omega), Nat.succ_inj,
      UInt8.toNat_inj]

/-- In the extended format it must also be too long for the standard format. -/
theorem wire_eq_iff_of_extended (hformat : (control &&& 0x80 != 0) = false)
    (hkind : control &&& 0x53 = 0x10) (hlow : routing &&& 0x0f = 0) (hthere : front ≠ []) :
    let header := extendedFront control routing source destination length
    let f := behindHeader header front last control routing source destination (length.toNat + 1)
    f.wire = header ++ (front ++ [last]) ↔ f.IsValid ∧ f.isStandard = false := by
  intro header f
  cases hstandard : f.isStandard with
  | true =>
    -- the formats differ in their first bit
    refine iff_of_false (fun h => ?_) (fun h => Bool.noConfusion h.2)
    have hbit := (controlOctet_bits true f.repeated f.priority).1
    rw [wire, standard_header hstandard] at h
    rw [(List.cons.inj h).1, hformat] at hbit
    exact Bool.noConfusion hbit
  | false =>
    have hlength := length.toNat_lt
    have hholds : Holds control routing source destination f := holds_held
    rw [and_iff_left rfl]
    refine wire_behindHeader_iff ?_ ?_
    · change f.header.length = header.length
      rw [extended_header hstandard]
      rfl
    · change f.header = header ↔ _
      rw [hholds.header_eq_extendedFront_iff hstandard hformat hkind hlow,
        ← toNat_lengthField_behindHeader hthere (Nat.le_add_left 1 _) (by omega), Nat.succ_inj,
        UInt8.toNat_inj]

end

/-- In the standard format no payload is read that would not fit it. -/
theorem ReadAs.isStandard {b : Octets} {f : Frame} (h : ReadAs b f)
    (hformat : b.headD 0 &&& 0x80 ≠ 0) : f.isStandard = true := by
  cases h with
  | standard format routing last source destination there =>
    exact isStandard_behindHeader
  | extended format low length last source destination there =>
    exact absurd (bne_eq_false_iff_eq.1 format) hformat

/-- What was read fits, unless its payload is one octet longer than can be written. -/
theorem ReadAs.fits_iff {b : Octets} {f : Frame} (h : ReadAs b f) :
    f.Fits ↔ f.payload.length ≤ 255 := by
  have hread : 1 ≤ f.payload.length ∧ f.hopCount ≤ 7 := by
    cases h with
    | standard format routing last source destination there =>
      exact ⟨payload_behindHeader_pos there (Nat.le_add_left 1 _), hops_le routing⟩
    | extended format low length last source destination there =>
      exact ⟨payload_behindHeader_pos there (Nat.le_add_left 1 _), hops_le _⟩
  exact ⟨fun hfits => hfits.1.2, fun hle => ⟨⟨hread.1, hle⟩, hread.2⟩⟩

/-- **A frame that was read is written as what it was read from** exactly if it is valid and is not
an extended frame that is short enough for the standard format. -/
theorem ReadAs.wire_eq_iff {b : Octets} {f : Frame} (h : ReadAs b f)
    (hkind : b.headD 0 &&& 0x53 = 0x10) :
    f.wire = b ↔ f.IsValid ∧ (b.headD 0 &&& 0x80 ≠ 0 ∨ f.isStandard = false) := by
  cases h with
  | standard format routing last source destination there =>
    exact (wire_eq_iff_of_standard format hkind there).trans
      (and_iff_left (.inl (bne_iff_ne.1 format))).symm
  | extended format low length last source destination there =>
    refine (wire_eq_iff_of_extended format hkind low there).trans
      (and_congr_right' (or_iff_right fun h => h ?_).symm)
    exact bne_eq_false_iff_eq.1 format

end Frame
end KnxBus
