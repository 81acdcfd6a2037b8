import KnxBus.Ip.Connect
import KnxBus.Ip.Discovery
import KnxBus.Proofs.Encoding
import KnxBus.Proofs.Reading
import KnxBus.Proofs.Utf8

/-!
# The blocks of a message

The body of a message is a row of blocks.  For each kind of block three things are said: what its
octets are (`wire`), that these and no others are written for it, and that where they stand they are
read as the block.

A block whose length is fixed is always written.  A block that counts itself is written as long as
one octet can count it: further information up to 254 octets, families of services up to 126.

## The name of a device

Of all that is written only the name of a device is not always read back.  Its field has room for 29
octets, and in it a zero ends the name; what is left of a name is shown as text again, with
replacement characters for what is none (`DeviceInfo.shortened`).  A name without zeros for which
there is room is read back too (`DeviceInfo.shortened_eq_self`).
-/

namespace KnxBus

/-! ## Endpoints -/

namespace Endpoint

/-- The octets of an endpoint. -/
def wire (e : Endpoint) : Octets := 8 :: 1 :: (e.ip.octets ++ Octets.ofWord e.port)

theorem length_wire (e : Endpoint) : e.wire.length = blockLength := rfl

theorem writes_iff {e : Endpoint} {b : Octets} : e.encode.Writes b ↔ b = e.wire := by
  unfold encode wire
  simp only [Encoding.writes_append_iff, Encoding.writes_octet_iff, Encoding.writes_octets_iff,
    Encoding.writes_word_iff, exists_and_left, exists_eq_left, List.cons_append, List.nil_append]

theorem takes_address (ip : Ipv4) (rest : Octets) : readAddress.Takes ip.octets rest ip :=
  fun _ => rfl

theorem takes_wire (e : Endpoint) (rest : Octets) : reading.Takes e.wire rest e := by
  refine (Reading.takes_octet _ 8).bind ((Reading.takes_require _ rfl _).bind
    ((Reading.takes_octet _ 1).bind ((Reading.takes_require _ rfl _).bind ?_)))
  exact (takes_address e.ip _).bind ((Reading.takes_word rest e.port).map _)

end Endpoint

/-! ## Blocks that count themselves -/

/-- The octets of a block that counts itself. -/
def countedWire (data : Octets) : Octets := UInt8.ofNat (data.length + 1) :: data

theorem writes_countedBlock_iff {data b : Octets} :
    (countedBlock data).Writes b ↔ data.length ≤ 254 ∧ b = countedWire data := by
  have hfits : data.length + 1 < 256 ↔ data.length ≤ 254 := by omega
  unfold countedBlock countedWire
  simp only [Encoding.writes_append_iff, Encoding.writes_require_iff, Encoding.writes_octet_iff,
    Encoding.writes_octets_iff, exists_and_left, and_assoc, exists_eq_left, decide_eq_true_iff,
    hfits, List.nil_append, List.cons_append]

theorem takes_countedWire {data : Octets} (h : data.length ≤ 254) :
    readCountedBlock.Takes (countedWire data) [] data := by
  have hcount : ((UInt8.ofNat (data.length + 1)).toNat == data.length + 1) = true := by
    rw [beq_iff_eq, UInt8.toNat_ofNat']
    omega
  refine Reading.Takes.bind (b := [_]) (Reading.takes_octet _ _) ?_
  refine (Reading.takes_remainder data).bind_nil ?_
  exact (Reading.takes_require [] hcount .invalidLength).map fun _ => data

/-! ## Devices -/

namespace DeviceInfo

/-- The octets of a device. -/
def wire (d : DeviceInfo) : Octets :=
  54 :: 1 :: d.medium :: d.status :: (Octets.ofWord d.address.raw ++
    (Octets.ofWord d.installation ++ (d.serial.octets ++ (d.multicast.octets ++
      (d.hardware.octets ++ nameField d.name)))))

theorem length_nameField (name : String) : (nameField name).length = 30 := by
  have hle : (wireName name).length ≤ 29 := List.length_take_le _ _
  rw [nameField, List.length_append, List.length_replicate]
  omega

theorem length_wire (d : DeviceInfo) : d.wire.length = blockLength := by
  simp only [wire, List.length_cons, List.length_append, Octets.length_ofWord, length_nameField,
    SerialNumber.octets, Ipv4.octets, HardwareAddress.octets, List.length_nil, blockLength]

theorem writes_iff {d : DeviceInfo} {b : Octets} : d.encode.Writes b ↔ b = d.wire := by
  unfold encode wire
  simp only [Encoding.writes_append_iff, Encoding.writes_octet_iff, Encoding.writes_octets_iff,
    Encoding.writes_word_iff, exists_and_left, exists_eq_left, List.cons_append, List.nil_append,
    List.append_assoc]

/-- What stands before the first zero, if no more than `n` octets are looked at and zeros follow
them. -/
theorem takeWhile_take_append (n k : Nat) (l : Octets) :
    (l.take n ++ List.replicate k 0).takeWhile (· ≠ 0) = l.take (min n (l.idxOf 0)) := by
  induction l generalizing n with
  | nil =>
    cases k with
    | zero => simp
    | succ k => simp [List.replicate_succ]
  | cons x l ih =>
    cases n with
    | zero =>
      cases k with
      | zero => simp
      | succ k => simp [List.replicate_succ]
    | succ n =>
      by_cases hx : x = 0
      · simp [hx]
      · have hmin : min (n + 1) (l.idxOf 0 + 1) = min n (l.idxOf 0) + 1 := by omega
        rw [List.take_succ_cons, List.cons_append, List.takeWhile_cons_of_pos (by simp [hx]), ih,
          List.idxOf_cons, beq_false_of_ne hx, cond_false, hmin, List.take_succ_cons]

/-- The name that is left of a name on the way: of its octets the first 29, and of these only what
stands before the first zero. -/
def shortenedName (name : String) : String :=
  Utf8.decode ((Utf8.encode name).take (min 29 ((Utf8.encode name).idxOf 0)))

/-- The device with what is left of its name. -/
def shortened (d : DeviceInfo) : DeviceInfo := { d with name := shortenedName d.name }

/-- A name for which there is room, and in which there is no zero, stays as it is. -/
theorem shortened_eq_self {d : DeviceInfo} (hroom : (Utf8.encode d.name).length ≤ 29)
    (hzero : 0 ∉ Utf8.encode d.name) : d.shortened = d := by
  have hname : shortenedName d.name = d.name := by
    rw [shortenedName, List.idxOf_eq_length hzero, Nat.min_eq_right hroom, List.take_length,
      Utf8.decode_encode]
  rw [shortened, hname]

-- The first octet of the last character is the 29th and stays, the second goes.
example : shortenedName "The gateway below the stair ü" = "The gateway below the stair \uFFFD" := by
  decide

theorem nameOf_nameField (name : String) : nameOf (nameField name) = shortenedName name := by
  have hle : (wireName name).length ≤ 29 := List.length_take_le _ _
  have hfront : (nameField name).take 29 =
      (Utf8.encode name).take 29 ++ List.replicate (29 - (wireName name).length) 0 := by
    have hmin : min (29 - (wireName name).length) (30 - (wireName name).length) =
        29 - (wireName name).length := by omega
    rw [nameField, List.take_append, List.take_of_length_le hle, List.take_replicate, hmin,
      wireName]
  rw [nameOf, hfront, takeWhile_take_append, shortenedName]

theorem takes_serial (s : SerialNumber) (rest : Octets) : readSerial.Takes s.octets rest s :=
  fun _ => rfl

theorem takes_hardware (a : HardwareAddress) (rest : Octets) :
    readHardware.Takes a.octets rest a :=
  fun _ => rfl

/-- A device is read back but for its name. -/
theorem takes_wire (d : DeviceInfo) (rest : Octets) : reading.Takes d.wire rest d.shortened := by
  have hname := (Reading.takes_exactly rest (length_nameField d.name)).map fun field =>
    { d with name := nameOf field }
  rw [nameOf_nameField] at hname
  refine (Reading.takes_octet _ 54).bind ((Reading.takes_require _ rfl _).bind
    ((Reading.takes_octet _ 1).bind ((Reading.takes_require _ rfl _).bind ?_)))
  refine (Reading.takes_octet _ d.medium).bind ((Reading.takes_octet _ d.status).bind ?_)
  refine (Reading.takes_word _ d.address.raw).bind ((Reading.takes_word _ d.installation).bind ?_)
  refine (takes_serial d.serial _).bind ((Endpoint.takes_address d.multicast _).bind ?_)
  exact (takes_hardware d.hardware _).bind hname

end DeviceInfo

/-! ## Families of services -/

namespace ServiceFamily

/-- The octets of a family. -/
def octets (s : ServiceFamily) : Octets := [s.family, s.version]

/-- The octets of the block with the given families. -/
def wire (families : List ServiceFamily) : Octets :=
  UInt8.ofNat (blockLength families) :: 2 :: families.flatMap octets

theorem length_flatMap_octets (families : List ServiceFamily) :
    (families.flatMap octets).length = 2 * families.length := by
  induction families with
  | nil => rfl
  | cons s families ih =>
    rw [List.flatMap_cons, List.length_append, ih, List.length_cons, octets, List.length_cons,
      List.length_singleton]
    omega

theorem length_wire (families : List ServiceFamily) :
    (wire families).length = blockLength families := by
  rw [wire, List.length_cons, List.length_cons, length_flatMap_octets, blockLength]
  omega

theorem writes_pairs_iff {families : List ServiceFamily} {b : Octets} :
    (families.foldr (fun s e => .octet s.family ++ .octet s.version ++ e) Encoding.empty).Writes b ↔
      b = families.flatMap octets := by
  induction families generalizing b with
  | nil => simp [Encoding.Writes, Encoding.empty, Encoding.content, eq_comm]
  | cons s families ih =>
    rw [List.foldr_cons, List.flatMap_cons, octets]
    simp only [Encoding.writes_append_iff, Encoding.writes_octet_iff, ih, exists_and_left,
      exists_eq_left]
    rfl

theorem writes_iff {families : List ServiceFamily} {b : Octets} :
    (encodeAll families).Writes b ↔ families.length ≤ 126 ∧ b = wire families := by
  have hfits : blockLength families < 256 ↔ families.length ≤ 126 := by
    rw [blockLength]
    omega
  unfold encodeAll wire
  simp only [Encoding.writes_append_iff, Encoding.writes_require_iff, Encoding.writes_octet_iff,
    writes_pairs_iff, exists_and_left, and_assoc, exists_eq_left, decide_eq_true_iff, hfits,
    List.nil_append, List.cons_append]

theorem ofPairs_flatMap_octets (families : List ServiceFamily) :
    ofPairs (families.flatMap octets) = families := by
  induction families with
  | nil => rfl
  | cons s families ih =>
    rw [List.flatMap_cons]
    exact congrArg (s :: ·) ih

theorem takes_wire {families : List ServiceFamily} (h : families.length ≤ 126) (rest : Octets) :
    readingAll.Takes (wire families) rest families := by
  have hcount : (UInt8.ofNat (blockLength families)).toNat = 2 + 2 * families.length := by
    rw [UInt8.toNat_ofNat', blockLength]
    omega
  have hlength : ((2 + 2 * families.length) % 2 == 0 && 2 ≤ 2 + 2 * families.length) = true := by
    rw [Bool.and_eq_true, beq_iff_eq, decide_eq_true_iff]
    omega
  have hpairs : (families.flatMap octets).length = 2 + 2 * families.length - 2 := by
    rw [length_flatMap_octets]
    omega
  have hend := (Reading.takes_exactly rest hpairs).map ofPairs
  rw [ofPairs_flatMap_octets, ← hcount] at hend
  rw [← hcount] at hlength
  exact (Reading.takes_octet _ _).bind ((Reading.takes_octet _ 2).bind
    ((Reading.takes_require _ rfl _).bind ((Reading.takes_require _ hlength _).bind hend)))

end ServiceFamily
end KnxBus
