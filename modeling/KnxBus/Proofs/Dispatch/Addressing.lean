import KnxBus.Proofs.Dispatch.Delivery

/-!
# Frames to an individual address

A subscription to an individual address names it, or names zero and means this device
(`IndividualAddress.Means`).  The address of this device is replaced by zero before anybody is asked,
so a subscription that names it *by its number* gets nothing (`IndividualAddress.Deaf`).  The filter
for that address has been asked for like any other; only the frames do not arrive.

The main statement, `Registry.dispatch_individual`, says for a subscription of which nothing is
known but its place who gets what: the subscription gets a frame once if it names what the frame is
sent to, unless it names this device by its number.  Such a subscription might as well not be there
(`Registry.dispatch_without_deaf`).
-/

namespace KnxBus

variable {σ : Type}

namespace Registry

variable {r : Registry σ} {own : IndividualAddress} {before after : List (Subscriber σ)}
  {s : Subscriber σ} {source named : IndividualAddress} {lock : PeerLock}

/-- A subscription that names this device by its number might as well not be there. -/
theorem dispatch_without_deaf (hsplit : r.subscribers = before ++ s :: after)
    (hroute : s.route = .individual source named lock) (hdeaf : named.Deaf own) (heard : Lpdu) :
    r.dispatch own heard = ({ r with subscribers := before ++ after }).dispatch own heard := by
  cases heard with
  | data frame =>
    have hdeaf : s.route.accepts (frame.seenFrom own) = false :=
      hroute ▸ Route.not_accepts_of_deaf hdeaf frame
    show handouts _ r.subscribers = handouts _ (before ++ after)
    rw [hsplit, handouts_split, hdeaf, handouts, handouts, handouts]
    simp
  | _ => rfl

/-- **Who gets a frame to an individual address.**  Wherever a subscription to an individual address
stands, whoever else is registered and whatever address this device has: a frame that comes from a
source that is wanted is handed to it once if the subscription means the address of the frame, and
not at all otherwise; but if the subscription names this device by its number, it is never handed
anything. -/
theorem dispatch_individual (hsplit : r.subscribers = before ++ s :: after)
    (hroute : s.route = .individual source named lock) {frame : Frame} {d : IndividualAddress}
    (hdestination : frame.destination = .individual d)
    (hsource : source = .unset ∨ source = frame.source) :
    r.dispatch own (.data frame) =
      handouts (frame.seenFrom own) before ++
      (if named.Means own d ∧ ¬ named.Deaf own then [(s.sink, .frame (frame.seenFrom own))]
        else []) ++
      handouts (frame.seenFrom own) after := by
  have hwanted : s.route.accepts (frame.seenFrom own) = true ↔
      named.Means own d ∧ ¬ named.Deaf own := by
    rw [hroute, Route.individual_accepts_seenFrom_iff hdestination, and_iff_left hsource]
  show handouts (frame.seenFrom own) r.subscribers = _
  rw [hsplit, handouts_split]
  simp only [hwanted]

/-- Two subscriptions of a device with the address 1.1.1: the one behind the other means the device,
and a frame to 1.1.1 is handed to it alone. -/
theorem dispatch_individual_thisDevice :
    let r : Registry Nat := ⟨[⟨1, .individual .unset ⟨0x1103⟩ .shared, 1⟩,
      ⟨2, .individual ⟨0x1102⟩ .unset .shared, 2⟩], []⟩
    let frame : Frame :=
      { Frame.addressed (.individual ⟨0x1101⟩) [0x00, 0x80] with source := ⟨0x1102⟩ }
    r.dispatch ⟨0x1101⟩ (.data frame) =
      [(2, .frame { frame with destination := .individual .unset })] := by
  intro r frame
  have hsplit : r.subscribers = [⟨1, .individual .unset ⟨0x1103⟩ .shared, 1⟩] ++
      ⟨2, .individual ⟨0x1102⟩ .unset .shared, 2⟩ :: [] := rfl
  rw [dispatch_individual hsplit rfl rfl (.inr rfl)]
  decide

/-- A subscription of the same device to 1.1.1 does not get the frame, although it names and means
the address. -/
theorem dispatch_individual_misses :
    let r : Registry Nat := ⟨[⟨1, .individual .unset ⟨0x1101⟩ .shared, 1⟩], []⟩
    let frame : Frame :=
      { Frame.addressed (.individual ⟨0x1101⟩) [0x00, 0x80] with source := ⟨0x1102⟩ }
    IndividualAddress.Means ⟨0x1101⟩ ⟨0x1101⟩ ⟨0x1101⟩ ∧ r.dispatch ⟨0x1101⟩ (.data frame) = [] := by
  decide

end Registry
end KnxBus
