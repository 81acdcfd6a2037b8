import KnxBus.Ip.Packet
import KnxBus.Proofs.Encoding
import KnxBus.Proofs.Octets
import Mathlib.Tactic.SplitIfs

/-!
# The envelope of a datagram

A datagram that can be written is its header and its body (`Packet.wire`), and it can be written as
long as a word can tell its length.  What is read is what was written: the octets that are accepted
as a datagram are exactly those that some datagram has (`Packet.decode_eq_ok_iff`).

## Two names for one service

A service is known by its code.  Codes that are not in the list are kept as they are, so that no
datagram is refused for its service.  But the type of services also lets somebody write down a known
code as an unknown one; such a datagram has the same octets as the one with the known service, and
it is the latter that is read from them.  What is read is never written down so
(`Service.ofWord_word_ofWord`), and a datagram that is not (`Packet.IsCanonical`) is read back.

## Where a datagram ends

The header tells how long the datagram is, and nothing is accepted that is not exactly so long.
What is accepted can therefore be neither the beginning nor the continuation of something else that
is accepted (`Packet.eq_of_accepted`).
-/

namespace KnxBus

namespace Service

/-- The code of the service with a given code is that code, whether the service is known or not. -/
theorem word_ofWord (code : UInt16) : (ofWord code).word = code := by
  unfold ofWord
  split <;> rfl

theorem ofWord_word_ofWord (code : UInt16) : ofWord (ofWord code).word = ofWord code := by
  rw [word_ofWord]

end Service

namespace Packet

/-- The service is the one that its code names.  A code could also be written down as an unknown
one. -/
def IsCanonical (p : Packet) : Prop := Service.ofWord p.service.word = p.service

instance (p : Packet) : Decidable p.IsCanonical :=
  inferInstanceAs (Decidable (Service.ofWord p.service.word = p.service))

/-! ## Writing -/

/-- The octets before the body. -/
def header (p : Packet) : Octets :=
  [0x06, 0x10] ++ Octets.ofWord p.service.word ++ Octets.ofWord (UInt16.ofNat p.encodedLength)

/-- The octets of a datagram. -/
def wire (p : Packet) : Octets := p.header ++ p.body

theorem length_header (p : Packet) : p.header.length = 6 := rfl

theorem length_wire (p : Packet) : p.wire.length = p.encodedLength := by
  rw [wire, List.length_append, length_header, encodedLength, headerLength]

/-- **A datagram has octets exactly if a word can tell its length.** -/
theorem toOctets_eq_ok_iff {p : Packet} {b : Octets} :
    p.toOctets = .ok b ↔ p.encodedLength < 65536 ∧ b = p.wire := by
  have hwrites : p.encode.Writes b ↔ p.encodedLength < 65536 ∧ b = p.wire := by
    unfold encode wire header
    simp only [Encoding.writes_append_iff, Encoding.writes_require_iff, Encoding.writes_octet_iff,
      Encoding.writes_octets_iff, Encoding.writes_word_iff, exists_and_left, and_assoc,
      exists_eq_left, decide_eq_true_iff]
    rfl
  rw [toOctets, Encoding.toOctets_eq_ok_iff, hwrites]
  refine and_iff_left_of_imp ?_
  rintro ⟨-, rfl⟩
  exact Nat.le_of_eq p.length_wire

theorem exists_octets_iff {p : Packet} : (∃ b, p.toOctets = .ok b) ↔ p.body.length ≤ 65529 := by
  simp only [toOctets_eq_ok_iff, exists_and_left, exists_eq, and_true, encodedLength, headerLength]
  omega

/-! ## Bodies -/

section
variable {service : Service} {body : Encoding} {length : Nat} {p : Packet}

theorem build_eq_ok_iff :
    build service body length = .ok p ↔
      p.service = service ∧ body.Writes p.body ∧ p.body.length ≤ length := by
  rw [← Encoding.toOctets_eq_ok_iff, build]
  constructor
  · intro h
    split at h
    · rename_i octets hoctets
      cases h
      exact ⟨rfl, hoctets⟩
    · cases h
  · rintro ⟨rfl, hoctets⟩
    rw [hoctets]

/-- If the octets of a body are known and there is room for them, then they decide alone whether a
datagram can be built. -/
theorem build_eq_ok_iff_of_wire {fits : Prop} {wire : Octets}
    (hwrites : ∀ b, body.Writes b ↔ fits ∧ b = wire) (hlength : wire.length = length) :
    build service body length = .ok p ↔ fits ∧ p = ⟨service, wire⟩ := by
  rw [build_eq_ok_iff, hwrites]
  constructor
  · rintro ⟨rfl, ⟨hfits, hbody⟩, -⟩
    exact ⟨hfits, by rw [← hbody]⟩
  · rintro ⟨hfits, rfl⟩
    exact ⟨rfl, ⟨hfits, rfl⟩, Nat.le_of_eq hlength⟩

/-- What can be built at all, if it can be built under some condition only and only as one
datagram. -/
theorem exists_built_iff {built : Except EncodeError Packet} {fits : Prop} {sent : Packet}
    (h : ∀ p, built = .ok p ↔ fits ∧ p = sent) : (∃ p, built = .ok p) ↔ fits := by
  simp only [h, exists_and_left, exists_eq, and_true]

/-- A datagram is of its own service. -/
theorem expect_self (service : Service) (body : Octets) :
    (⟨service, body⟩ : Packet).expect service = .ok () := if_pos rfl

theorem service_of_expect {u : Unit} (h : p.expect service = .ok u) : p.service = service := by
  unfold expect at h
  split at h
  · assumption
  · cases h

end

/-! ## Reading -/

/-- A length that a word can tell is the one that it tells. -/
theorem toNat_lengthWord {p : Packet} (hlength : p.encodedLength < 65536) :
    (UInt16.ofNat p.encodedLength).toNat = p.encodedLength := by
  rw [UInt16.toNat_ofNat']
  exact Nat.mod_eq_of_lt hlength

/-- A header announces the whole datagram; what is shorter or longer is not accepted. -/
theorem decode_header {p : Packet} (hlength : p.encodedLength < 65536) (body : Octets) :
    decode (p.header ++ body) =
      if body.length = p.body.length then .ok ⟨Service.ofWord p.service.word, body⟩
      else .error .invalidLength := by
  have hstart : decode (p.header ++ body) =
      decodeBody (body.length + 6) (Octets.ofWord p.service.word ++
        Octets.ofWord (UInt16.ofNat p.encodedLength) ++ body) := rfl
  rw [hstart]
  simp only [Octets.ofWord, List.cons_append, List.nil_append, decodeBody, Octets.word_ofWord]
  have hiff : p.encodedLength = body.length + 6 ↔ body.length = p.body.length := by
    rw [encodedLength, headerLength]
    omega
  simp only [toNat_lengthWord hlength, hiff]

/-- **A datagram that was written is read back**, with the service that its code names. -/
theorem decode_of_toOctets {p : Packet} {b : Octets} (h : p.toOctets = .ok b) :
    decode b = .ok ⟨Service.ofWord p.service.word, p.body⟩ := by
  obtain ⟨hlength, rfl⟩ := toOctets_eq_ok_iff.1 h
  exact (decode_header hlength p.body).trans (if_pos rfl)

/-- What is read stands behind a header that names its service and tells how long all is. -/
theorem exists_of_decode {b : Octets} {p : Packet} (h : decode b = .ok p) :
    ∃ code total : UInt16, p.service = Service.ofWord code ∧ total.toNat = b.length ∧
      b = [0x06, 0x10] ++ Octets.ofWord code ++ Octets.ofWord total ++ p.body := by
  unfold decode at h
  split at h
  · cases h
  · split_ifs at h with hsize
    split at h
    · cases h
    · split_ifs at h with hversion
      unfold decodeBody at h
      split at h
      · rename_i sh sl th tl body
        split_ifs at h with htotal
        cases h
        refine ⟨Octets.word sh sl, Octets.word th tl, rfl, htotal, ?_⟩
        rw [Octets.ofWord_word, Octets.ofWord_word, Decidable.of_not_not hsize,
          Decidable.of_not_not hversion]
        rfl
      · cases h

/-- **What is read is written as it was read.** -/
theorem toOctets_of_decode {b : Octets} {p : Packet} (h : decode b = .ok p) :
    p.toOctets = .ok b := by
  obtain ⟨code, total, hservice, htotal, hb⟩ := exists_of_decode h
  have hlength : p.encodedLength = total.toNat := by
    rw [htotal, hb]
    simp only [encodedLength, headerLength, List.length_append, Octets.length_ofWord,
      List.length_cons, List.length_nil]
  have hword : UInt16.ofNat p.encodedLength = total := by
    rw [hlength, UInt16.ofNat_toNat]
  refine toOctets_eq_ok_iff.2 ⟨by rw [hlength]; exact total.toNat_lt, ?_⟩
  rw [wire, header, hservice, Service.word_ofWord, hword, hb]

/-- **What is accepted as a datagram are its octets**, and the datagram is written down with the
service that its code names. -/
theorem decode_eq_ok_iff {b : Octets} {p : Packet} :
    decode b = .ok p ↔ p.IsCanonical ∧ p.toOctets = .ok b := by
  constructor
  · intro h
    obtain ⟨code, -, hservice, -, -⟩ := exists_of_decode h
    refine ⟨?_, toOctets_of_decode h⟩
    rw [IsCanonical, hservice, Service.ofWord_word_ofWord]
  · rintro ⟨hcanonical, h⟩
    rw [decode_of_toOctets h, hcanonical]

/-! ## Where a datagram ends -/

/-- How long a datagram says that it is. -/
def declaredLength (b : Octets) : Nat := (Octets.word (b[4]?.getD 0) (b[5]?.getD 0)).toNat

theorem length_of_decode {b : Octets} {p : Packet} (h : decode b = .ok p) :
    6 ≤ b.length ∧ b.length = declaredLength b := by
  obtain ⟨code, total, -, htotal, rfl⟩ := exists_of_decode h
  refine ⟨Nat.le_add_left 6 _, htotal.symm.trans ?_⟩
  show total.toNat = (Octets.word _ _).toNat
  exact congrArg UInt16.toNat (Octets.word_ofWord total).symm

/-- So nothing can be taken off a datagram, or added to it. -/
theorem eq_of_accepted {a b : Octets} {p q : Packet} (ha : decode a = .ok p)
    (hb : decode b = .ok q) (h : a <+: b) : a = b := by
  obtain ⟨rest, rfl⟩ := h
  obtain ⟨hheader, hlength⟩ := length_of_decode ha
  have hsame : declaredLength (a ++ rest) = declaredLength a := by
    unfold declaredLength
    rw [List.getElem?_append_left (by omega), List.getElem?_append_left (by omega)]
  have hwhole := (length_of_decode hb).2
  rw [hsame, ← hlength, List.length_append] at hwhole
  have hrest : rest = [] := List.length_eq_zero_iff.1 (by omega)
  rw [hrest, List.append_nil]

/-- **Datagrams are exact.**

What is read is written as the octets that it was read from.  A datagram whose service is the one
that its code names can be written exactly if its body has at most 65529 octets, and then it is read
back.  So the octets that are accepted are those that a datagram has.  And a datagram ends where it
says: if octets are accepted, then nothing shorter is that they begin with, and nothing longer that
begins with them. -/
theorem datagrams_are_exact :
    (∀ (b : Octets) (p : Packet), decode b = .ok p → p.toOctets = .ok b) ∧
    (∀ p : Packet, Service.ofWord p.service.word = p.service →
      ((∃ b, p.toOctets = .ok b) ↔ p.body.length ≤ 65529) ∧
        ∀ b, p.toOctets = .ok b → decode b = .ok p) ∧
    (∀ b : Octets, (∃ p, decode b = .ok p) ↔ ∃ p : Packet, p.toOctets = .ok b) ∧
    ∀ (b : Octets) (p : Packet), decode b = .ok p →
      ∀ a, a ≠ b → a <+: b ∨ b <+: a → ∃ e, decode a = .error e := by
  refine ⟨fun b p h => toOctets_of_decode h, fun p hcanonical => ?_, fun b => ?_,
    fun b p hb a hne hprefix => ?_⟩
  · exact ⟨exists_octets_iff, fun b h => decode_eq_ok_iff.2 ⟨hcanonical, h⟩⟩
  · constructor
    · rintro ⟨p, h⟩
      exact ⟨p, toOctets_of_decode h⟩
    · rintro ⟨p, h⟩
      exact ⟨_, decode_of_toOctets h⟩
  · cases ha : decode a with
    | error e => exact ⟨e, rfl⟩
    | ok q =>
      rcases hprefix with hprefix | hprefix
      · exact absurd (eq_of_accepted ha hb hprefix) hne
      · exact absurd (eq_of_accepted hb ha hprefix).symm hne

/-- An acknowledgement is read back from its octets, and neither without the last of them nor with
one more. -/
theorem datagrams_are_exact_ack :
    let p : Packet := ⟨.tunnelResponse, [0x04, 0x01, 0x00, 0x00]⟩
    let b : Octets := [0x06, 0x10, 0x04, 0x21, 0x00, 0x0a, 0x04, 0x01, 0x00, 0x00]
    decode b = .ok p ∧ p.toOctets = .ok b ∧ (∃ e, decode b.dropLast = .error e) ∧
      ∃ e, decode (b ++ [0x00]) = .error e := by
  intro p b
  have hwritten : p.toOctets = .ok b := toOctets_eq_ok_iff.2 (by decide)
  have hread : decode b = .ok p := (datagrams_are_exact.2.1 p rfl).2 b hwritten
  have hends := datagrams_are_exact.2.2.2 b p hread
  refine ⟨hread, datagrams_are_exact.1 b p hread, hends _ (by decide) (.inl ?_),
    hends _ (by decide) (.inr ?_)⟩
  · exact List.dropLast_prefix b
  · exact List.prefix_append b [0x00]

end Packet
end KnxBus
