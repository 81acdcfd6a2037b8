import KnxBus.Lpdu
import KnxBus.Proofs.Frame

/-!
# Between the bus and what is heard on it

Only data frames are taken apart; the three answers and everything else are kept as the octets they
are, so with them nothing can get lost (`Lpdu.decode_cases`).  A data frame is recognised by four
bits of its first octet, which every frame has that is written (`Frame.wire_marked`).

What is written of a data frame differs from what it was read from in two cases only.  A frame that
disagreed with its check octet or its length field is written with the right ones; and a frame that
came in the extended format without need is written in the standard format.
-/

namespace KnxBus
namespace Lpdu

/-- What is marked as a data frame and can be read as one is taken for it. -/
theorem decode_eq_data {b : Octets} {f : Frame} (hmarked : b.headD 0 &&& 0x53 = 0x10)
    (hread : Frame.ReadAs b f) : decode b = .data f := by
  -- none of the three answers is marked so
  have hack : b ≠ [0xcc] := fun h => absurd (h ▸ hmarked) (by decide)
  have hnack : b ≠ [0x0c] := fun h => absurd (h ▸ hmarked) (by decide)
  have hbusy : b ≠ [0xc0] := fun h => absurd (h ▸ hmarked) (by decide)
  cases b with
  | nil => exact absurd hmarked (by decide)
  | cons control rest =>
    rw [decode, if_neg hack, if_neg hnack, if_neg hbusy]
    simp only [hread.decode?]
    exact if_pos hmarked

/-- Octets are taken for a data frame, or they are kept. -/
theorem decode_cases (b : Octets) :
    (∃ f, decode b = .data f ∧ b.headD 0 &&& 0x53 = 0x10 ∧ Frame.ReadAs b f) ∨
      ((∀ f, decode b ≠ .data f) ∧ (decode b).toOctets = .ok b) := by
  have kept {l : Lpdu} (hdata : ∀ f, l ≠ .data f) (hoctets : l.toOctets = .ok b) :
      (∃ f, l = .data f ∧ b.headD 0 &&& 0x53 = 0x10 ∧ Frame.ReadAs b f) ∨
        ((∀ f, l ≠ .data f) ∧ l.toOctets = .ok b) :=
    .inr ⟨hdata, hoctets⟩
  unfold decode
  split
  · rename_i hack
    exact kept nofun (hack ▸ rfl)
  · split
    · rename_i hnack
      exact kept nofun (hnack ▸ rfl)
    · split
      · rename_i hbusy
        exact kept nofun (hbusy ▸ rfl)
      · split
        · exact kept nofun rfl
        · split
          · rename_i hmarked
            split
            · rename_i f hread
              exact .inl ⟨f, rfl, hmarked, Frame.decode?_eq_some_iff.1 hread⟩
            · exact kept nofun rfl
          · exact kept nofun rfl

/-- What was taken for a data frame was marked as one and is read as it. -/
theorem readAs_of_decode {b : Octets} {f : Frame} (h : decode b = .data f) :
    b.headD 0 &&& 0x53 = 0x10 ∧ Frame.ReadAs b f := by
  obtain ⟨g, hg, hread⟩ | ⟨hdata, -⟩ := decode_cases b
  · cases hg.symm.trans h
    exact hread
  · exact absurd h (hdata f)

/-- A data frame that was written is heard again. -/
theorem decode_wire {f : Frame} (hfits : f.Fits) (hvalid : f.IsValid) : decode f.wire = .data f :=
  decode_eq_data f.wire_marked (Frame.decode?_eq_some_iff.1 (Frame.decode?_wire hfits hvalid))

/-- When a frame that was heard is written in the way it came. -/
theorem toOctets_eq_iff_of_decode {b : Octets} {f : Frame} (h : decode b = .data f) :
    f.toOctets = .ok b ↔ f.IsValid ∧
      (b.headD 0 &&& 0x80 ≠ 0 ∨ (17 ≤ f.payload.length ∧ f.payload.length ≤ 255)) := by
  obtain ⟨hmarked, hread⟩ := readAs_of_decode h
  have hextended : f.isStandard = false ↔ 17 ≤ f.payload.length := by
    rw [Frame.isStandard, decide_eq_false_iff_not, Frame.maxStandardPayload]
    omega
  rw [Frame.toOctets_eq_ok_iff, hread.fits_iff, eq_comm, hread.wire_eq_iff hmarked, hextended]
  constructor
  · rintro ⟨hle, hvalid, hstandard | hlong⟩
    · exact ⟨hvalid, .inl hstandard⟩
    · exact ⟨hvalid, .inr ⟨hlong, hle⟩⟩
  · rintro ⟨hvalid, hstandard | ⟨hlong, hle⟩⟩
    · have hshort : f.payload.length ≤ 16 := of_decide_eq_true (hread.isStandard hstandard)
      exact ⟨by omega, hvalid, .inl hstandard⟩
    · exact ⟨hle, hvalid, .inr hlong⟩

/-- **Nothing gets lost between the bus and what is heard on it.**

A valid frame has octets exactly if its payload has between one and 255 of them and its hop count is
at most seven, and these octets are heard as that frame.  Conversely octets that are heard as a
frame are what would be written of it exactly if the frame is valid and the octets are in the
standard format (the highest bit of the first octet is set) or the payload needs the extended one.
Whatever else is heard has the octets that were heard. -/
theorem heard_as_written :
    (∀ f : Frame, f.validCheck = true → f.validLength = true →
      ((∃ b, f.toOctets = .ok b) ↔
        (1 ≤ f.payload.length ∧ f.payload.length ≤ 255) ∧ f.hopCount ≤ 7) ∧
      ∀ b, f.toOctets = .ok b → decode b = .data f) ∧
    ∀ b : Octets,
      (∀ f, decode b = .data f →
        (f.toOctets = .ok b ↔
          (f.validCheck = true ∧ f.validLength = true) ∧
            (b.headD 0 &&& 0x80 ≠ 0 ∨ (17 ≤ f.payload.length ∧ f.payload.length ≤ 255)))) ∧
      ((∀ f, decode b ≠ .data f) → (decode b).toOctets = .ok b) := by
  constructor
  · intro f hcheck hlength
    refine ⟨Frame.exists_octets_iff, fun b hb => ?_⟩
    obtain ⟨hfits, rfl⟩ := Frame.toOctets_eq_ok_iff.1 hb
    exact decode_wire hfits ⟨hcheck, hlength⟩
  · intro b
    refine ⟨fun f hf => toOctets_eq_iff_of_decode hf, fun hdata => ?_⟩
    obtain ⟨f, hf, -⟩ | ⟨-, hkept⟩ := decode_cases b
    · exact absurd hf (hdata f)
    · exact hkept

/-- The command that switches a group on is heard as it was written.  In the extended format, in
which it does not belong, it is heard as the same frame, but would not be written so. -/
theorem heard_as_written_switch :
    let f := Frame.addressed (.group ⟨0x0a03⟩) [0x00, 0x81]
    let b : Octets := [0x3c, 0xe0, 0x00, 0x00, 0x0a, 0x03, 0x01, 0x00, 0x81, 0xaa]
    (∃ b', f.toOctets = .ok b' ∧ decode b' = .data f) ∧
      decode b = .data f ∧ f.toOctets ≠ .ok b ∧ (decode [0xcc]).toOctets = .ok [0xcc] := by
  intro f b
  have hheard : decode b = .data f := by decide
  obtain ⟨hoctets, hback⟩ := heard_as_written.1 f rfl rfl
  obtain ⟨b', hb'⟩ := hoctets.2 (by decide)
  refine ⟨⟨b', hb', hback b' hb'⟩, hheard, fun h => ?_, ?_⟩
  · exact absurd (((heard_as_written.2 b).1 f hheard).1 h) (by decide)
  · exact (heard_as_written.2 [0xcc]).2 nofun

end Lpdu
end KnxBus
