import KnxBus.Proofs.Gateway.Requests

/-!
# What a channel takes in

An `Intake` is the past of one channel: the requests that came under the expected number while it
was open, the frames that went to the bus because of requests on it, and the confirmations that
joined its queue because of them.

## Why the last two follow from the first

A frame goes to the bus, and a confirmation joins a queue, only while the gateway looks at a
request that the channel expects, and then both are what the message in it yields.  A request that
cannot be understood brings neither, and still moves the expected number on.  So the three lists grow
together, and the expected number counts the first.

## What is not a request

A datagram of this service that carries less than two octets of message cannot be read.  It is
ignored whatever number it bears, so a channel can be sent what it expects and not answer.
-/

namespace KnxBus
namespace Gateway
open GatewayChannel

variable {g : Gateway} {id : UInt8}

/-! ## Where frames for the bus come from -/

/-- A datagram that is not a request brings a frame to the bus only if it comes from a router. -/
theorem forwardsOf_onPacket {p : Received} (hrequest : p.packet.service ≠ .tunnelRequest)
    (hrouted : p.packet.service ≠ .routingIndication) (now : Nat) :
    forwardsOf (g.onPacket now p).2 = [] := by
  have hsending : ∀ r : Gateway × List Outgoing, forwardsOf (onlySending r).2 = [] :=
    fun r => forwardsOf_sending r.2
  unfold onPacket
  simp only
  split
  · split
    · exact forwardsOf_sending _
    · rfl
  · split
    · exact forwardsOf_sending _
    · rfl
  · rename_i hservice
    exact absurd hservice hrouted
  · split
    · exact hsending _
    · rfl
  · split
    · exact hsending _
    · rfl
  · split
    · exact hsending _
    · rfl
  · rename_i hservice
    exact absurd hservice hrequest
  · split <;> rfl
  · rfl

/-- A gateway gives a frame to the bus only when it looks at what a router has sent, or at a request
that is expected. -/
theorem source_of_forward (h : g.Orderly) (hoffered : g.OnlyOffered) {a : Act}
    (hforward : forwardsOf (g.perform a).2 ≠ []) :
    ∃ now p later, a = .look now ∧ g.received = p :: later ∧
      (p.packet.service = .routingIndication ∨
        ∃ q c, TunnelRequest.ofPacket p.packet = .ok q ∧ c ∈ g.channels ∧ q.channel = c.id ∧
          q.sequence = c.receiveNo) := by
  obtain ⟨now, p, later, rfl, hfront, hperform⟩ | ⟨now, rfl⟩ | ⟨-, -, -, out, hout, -⟩ :=
    perform_cases (h.one 0) a
  · refine ⟨now, p, later, rfl, hfront, ?_⟩
    rw [hperform] at hforward
    by_cases hrouted : p.packet.service = .routingIndication
    · exact Or.inl hrouted
    · by_cases hservice : p.packet.service = .tunnelRequest
      · obtain ⟨q, c, hq, hc, hid, hnext, -⟩ | ⟨-, hnothing, -⟩ :=
          request_outcome (g := g.withWaiting later g.heard) (h.of_table rfl rfl rfl) hoffered
            hservice now
        · exact Or.inr ⟨q, c, hq, hc, hid, hnext⟩
        · exact absurd hnothing hforward
      · exact absurd (forwardsOf_onPacket hservice hrouted now) hforward
  · exact absurd (forwardsOf_sending _) hforward
  · rw [hout] at hforward
    exact absurd (forwardsOf_sending out) hforward

/-! ## The expected number -/

/-- A channel has been opened, or its expected number is what it was. -/
def SameCount (before after : List GatewayChannel) : Prop :=
  (before = [] ∧ ∃ c, after = [c] ∧ c.receiveNo = 0) ∨
    ∀ c', after = [c'] → ∃ c, before = [c] ∧ c'.receiveNo = c.receiveNo

theorem SameCount.of_apart {before after : List GatewayChannel} (h : Apart before after) :
    SameCount before after := by
  cases h with
  | gone h' =>
    refine Or.inr fun c' hc' => ?_
    rw [h'] at hc'
    cases hc'
  | opened c h h' _ receiveNo_eq _ _ _ => exact Or.inl ⟨h, c, h', receiveNo_eq⟩
  | kept c c' h h' unmoved =>
    refine Or.inr fun c'' hc'' => ⟨c, h, ?_⟩
    rw [h'] at hc''
    cases hc''
    exact unmoved.receiveNo_eq

theorem SameCount.of_held {before after : List GatewayChannel} {c c' : GatewayChannel}
    (hc : before = [c]) (hc' : after = [c']) (h : c'.receiveNo = c.receiveNo) :
    SameCount before after := by
  refine Or.inr fun c'' hc'' => ⟨c, hc, ?_⟩
  rw [hc'] at hc''
  cases hc''
  exact h

theorem pump_receiveNo (c : GatewayChannel) (config : GatewayConfig) (now : Nat) :
    (c.pump config now).1.receiveNo = c.receiveNo := by
  cases c.pump_outcome config now with
  | rests _ eq => rw [eq]
  | givesUp _ _ eq =>
    rw [eq]
    rfl
  | sends _ _ _ _ _ eq => rw [eq]
  | idles _ _ eq => rw [eq]

theorem onAck_receiveNo (c : GatewayChannel) (a : TunnelAck) :
    (c.onAck a).receiveNo = c.receiveNo := by
  unfold GatewayChannel.onAck
  split <;> rfl

/-- Only a request on the channel moves its expected number. -/
theorem perform_sameCount (hone : AtMostOne (g.held id)) (a : Act)
    (hnone : (GatewayChronicle.front a g).flatMap (GatewayChronicle.requestFor id) = []) :
    SameCount (g.held id) ((g.perform a).1.held id) := by
  obtain ⟨now, p, later, rfl, hfront, hperform⟩ | ⟨now, rfl⟩ | ⟨-, hapart, -⟩ :=
    perform_cases hone a
  · rw [hperform]
    have hasked : GatewayChronicle.requestFor id p.packet = [] := by
      rw [GatewayChronicle.front, hfront] at hnone
      exact (List.flatMap_singleton _ _).symm.trans hnone
    obtain ⟨q, c, hq, hid, -⟩ | ⟨b, c, -, -, hc, hc', -⟩ | ⟨hapart, -, -⟩ :=
      onPacket_cases (g := g.withWaiting later g.heard) hone now p
    · rw [GatewayChronicle.requestFor_of_ofPacket hq hid] at hasked
      cases hasked
    · exact SameCount.of_held hc hc' (onAck_receiveNo c b)
    · exact SameCount.of_apart hapart
  · have hheld : (g.perform (.pump now)).1.held id =
        (g.held id).map fun c => (c.pump g.config now).1 := held_pumpChannels g now
    rw [hheld]
    obtain hnil | ⟨c, hc⟩ := hone
    · rw [hnil]
      exact SameCount.of_apart (Apart.gone rfl)
    · rw [hc]
      exact SameCount.of_held rfl rfl (pump_receiveNo c g.config now)
  · exact SameCount.of_apart hapart

end Gateway

/-! ## The past of a channel -/

/-- What one channel has taken in since it was opened. -/
structure Intake where
  /-- The requests that came under the expected number, oldest first. -/
  expected : List TunnelRequest
  /-- The frames that went to the bus because of requests on the channel, oldest first. -/
  forwarded : List Frame
  /-- The messages that joined the queue because of requests on the channel, oldest first. -/
  confirmed : List Octets
  deriving DecidableEq, Repr

namespace Intake
open Gateway GatewayChannel

/-- Nothing has been taken in. -/
def empty : Intake := ⟨[], [], []⟩

/-- What becomes of a request on the channel enters into its past: whether the request bore the
number that the channel expected, what went to the bus and what joined the queue while the gateway
looked at it.  The past begins when the channel is opened. -/
def note (id : UInt8) (a : Act) (g g' : Gateway) (actions : List GatewayAction) (past : Intake) :
    Intake :=
  let asked := (GatewayChronicle.front a g).flatMap (GatewayChronicle.requestFor id)
  if g.held id = [] ∧ g'.held id ≠ [] then empty
  else if asked = [] then past
  else
    { expected :=
        past.expected ++ asked.filter fun q => (g.held id).any fun c => q.sequence == c.receiveNo
      forwarded := past.forwarded ++ forwardsOf actions
      confirmed :=
        past.confirmed ++ (g'.held id).flatMap fun c =>
          c.queue.drop ((g.held id).flatMap (·.queue)).length }

/-- The past of a channel accounts for what has come of its requests. -/
structure Accounts (id : UInt8) (past : Intake) : Prop where
  /-- What went to the bus came in the requests that were expected. -/
  forwarded_eq : past.forwarded = past.expected.flatMap fun q => (yield q.message).forwarded
  /-- What was confirmed came in them too. -/
  confirmed_eq : past.confirmed = past.expected.flatMap fun q => (yield q.message).confirmed
  /-- They were for this channel and bore consecutive numbers. -/
  numbers : ∀ i q, past.expected[i]? = some q → q.channel = id ∧ q.sequence = octetNo i

/-- The gateway is in order, and the channel fits together with its past. -/
structure Sound (id : UInt8) (b : Gateway × Intake) : Prop where
  orderly : b.1.Orderly
  offered : b.1.OnlyOffered
  accounts : b.2.Accounts id
  /-- The expected number counts the requests that were expected. -/
  counted : ∀ c, b.1.held id = [c] → c.receiveNo = octetNo b.2.expected.length

variable {id : UInt8} {b : Gateway × Intake}

theorem empty_accounts (id : UInt8) : empty.Accounts id :=
  ⟨rfl, rfl, fun _ _ hq => by cases hq⟩

/-- So what each request yields accounts for it. -/
theorem Accounts.yields {past : Intake} (h : past.Accounts id) :
    ∃ ys, List.Forall₂ (fun q y => Yields q.message y) past.expected ys ∧
      past.forwarded = ys.flatMap (·.forwarded) ∧ past.confirmed = ys.flatMap (·.confirmed) := by
  refine ⟨past.expected.map fun q => yield q.message, ?_, ?_, ?_⟩
  · rw [List.forall₂_map_right_iff, List.forall₂_same]
    exact fun q _ => yields_yield q.message
  · rw [List.flatMap_map]
    exact h.forwarded_eq
  · rw [List.flatMap_map]
    exact h.confirmed_eq

theorem Accounts.accept {past : Intake} (h : past.Accounts id) {q : TunnelRequest}
    (hid : q.channel = id) (hnumber : q.sequence = octetNo past.expected.length) :
    Accounts id
      ⟨past.expected ++ [q], past.forwarded ++ (yield q.message).forwarded,
        past.confirmed ++ (yield q.message).confirmed⟩ := by
  refine ⟨?_, ?_, fun i q' hq' => ?_⟩
  · simp only [h.forwarded_eq, List.flatMap_append, List.flatMap_singleton]
  · simp only [h.confirmed_eq, List.flatMap_append, List.flatMap_singleton]
  · simp only at hq'
    rcases Nat.lt_trichotomy i past.expected.length with hlt | rfl | hgt
    · rw [List.getElem?_append_left hlt] at hq'
      exact h.numbers i q' hq'
    · rw [List.getElem?_concat_length] at hq'
      cases hq'
      exact ⟨hid, hnumber⟩
    · rw [List.getElem?_eq_none (by rw [List.length_append, List.length_singleton]; omega)] at hq'
      cases hq'

/-- A channel and its past fit together. -/
structure Fits (id : UInt8) (g : Gateway) (past : Intake) : Prop where
  accounts : past.Accounts id
  counted : ∀ c, g.held id = [c] → c.receiveNo = octetNo past.expected.length

theorem Sound.fits (h : Sound id b) : Fits id b.1 b.2 := ⟨h.accounts, h.counted⟩

/-- What is noted of a request on the channel, which is not opened just then. -/
theorem note_request {g g' : Gateway} {a : Act} {q : TunnelRequest}
    (hasked : (GatewayChronicle.front a g).flatMap (GatewayChronicle.requestFor id) = [q])
    (hopen : g.held id ≠ [] ∨ g'.held id = []) (actions : List GatewayAction) (past : Intake) :
    note id a g g' actions past =
      ⟨past.expected ++ [q].filter fun q => (g.held id).any fun c => q.sequence == c.receiveNo,
        past.forwarded ++ forwardsOf actions,
        past.confirmed ++ (g'.held id).flatMap fun c =>
          c.queue.drop ((g.held id).flatMap (·.queue)).length⟩ := by
  rw [note, hasked, if_neg (by tauto), if_neg (List.cons_ne_nil _ _)]

section
variable {g g' : Gateway} {past : Intake} {a : Act} {q : TunnelRequest} {c : GatewayChannel}
  {actions : List GatewayAction}

/-- The request that the channel expects enters into its past with all that it yields. -/
theorem Fits.accept (h : Fits id g past)
    (hasked : (GatewayChronicle.front a g).flatMap (GatewayChronicle.requestFor id) = [q])
    (hid : q.channel = id) (hheld : g.held id = [c]) (hnext : q.sequence = c.receiveNo)
    {now timeout : Nat}
    (hafter : g'.held id = [c.accepting now timeout (yield q.message).confirmed])
    (hactions : forwardsOf actions = (yield q.message).forwarded) :
    Fits id g' (note id a g g' actions past) := by
  have hnumber : c.receiveNo = octetNo past.expected.length := h.counted c hheld
  have hpast : note id a g g' actions past =
      ⟨past.expected ++ [q], past.forwarded ++ (yield q.message).forwarded,
        past.confirmed ++ (yield q.message).confirmed⟩ := by
    rw [note_request hasked (Or.inl (by rw [hheld]; exact List.cons_ne_nil _ _)), hactions, hafter,
      hheld]
    simp [accepting, hnext]
  rw [hpast]
  refine ⟨h.accounts.accept hid (hnext.trans hnumber), fun c' hc' => ?_⟩
  rw [hafter] at hc'
  cases hc'
  rw [List.length_append, List.length_singleton, octetNo_succ, ← hnumber]
  rfl

/-- Any other request leaves no trace. -/
theorem Fits.decline (h : Fits id g past)
    (hasked : (GatewayChronicle.front a g).flatMap (GatewayChronicle.requestFor id) = [q])
    (hone : AtMostOne (g.held id)) (hnot : ∀ c, g.held id = [c] → q.sequence ≠ c.receiveNo)
    (hafter : g'.held id = g.held id) (hactions : forwardsOf actions = []) :
    Fits id g' (note id a g g' actions past) := by
  have hpast : note id a g g' actions past = past := by
    rw [note_request hasked (by rw [hafter]; tauto), hactions, hafter]
    obtain hnil | ⟨c, hc⟩ := hone
    · simp [hnil]
    · simp [hc, hnot c hc]
  rw [hpast]
  exact ⟨h.accounts, fun c hc => h.counted c (hafter ▸ hc)⟩

end

/-- A request on the channel is looked at. -/
theorem request_fits (h : Sound id b) {now : Nat} {p : Received} {later : List Received}
    (hfront : b.1.received = p :: later) {q : TunnelRequest}
    (hq : TunnelRequest.ofPacket p.packet = .ok q) (hid : q.channel = id) :
    Fits id (noted perform (note id) (.look now) b).1.1
      (noted perform (note id) (.look now) b).1.2 := by
  obtain ⟨g, past⟩ := b
  have hasked : (GatewayChronicle.front (.look now) g).flatMap (GatewayChronicle.requestFor id) =
      [q] := by
    rw [GatewayChronicle.front, hfront]
    exact (List.flatMap_singleton _ _).trans (GatewayChronicle.requestFor_of_ofPacket hq hid)
  have hperform := perform_look_cons hfront now
  obtain ⟨q', c, hq', hc, hcid, hnext, hlook⟩ | ⟨hsame, hnothing, hnot⟩ :=
    request_outcome (g := g.withWaiting later g.heard) (h.orderly.of_table rfl rfl rfl)
      h.offered (TunnelRequest.service_of_ofPacket hq) now
  · rw [hq] at hq'
    cases hq'
    have hheld : g.held id = [c] := by
      rw [← hid, hcid]
      exact h.orderly.held_id hc
    have hafter : (g.perform (.look now)).1.held id =
        [c.accepting now g.config.channelTimeout (yield q.message).confirmed] := by
      rw [hperform, hlook, ← hid, hcid]
      exact held_put (g := g.withWaiting later g.heard) rfl (h.orderly.held_id hc)
    have hactions : forwardsOf (g.perform (.look now)).2 = (yield q.message).forwarded := by
      rw [hperform, hlook, forwardsOf_append, forwardsOf_forward]
      exact List.append_nil _
    exact h.fits.accept hasked hid hheld hnext hafter hactions
  · have hafter : (g.perform (.look now)).1.held id = g.held id := by
      rw [hperform, hsame]
      rfl
    have hactions : forwardsOf (g.perform (.look now)).2 = [] := by
      rw [hperform]
      exact hnothing
    refine h.fits.decline hasked (h.orderly.one id) (fun c hc => ?_) hafter hactions
    have hcmem : c ∈ g.held id := by
      rw [hc]
      exact List.mem_singleton_self c
    exact hnot q c hq (List.mem_filter.1 hcmem).1 (hid.trans (id_of_held hcmem).symm)

/-- Nothing else enters into the past of a channel, but that it is opened. -/
theorem calm_fits (h : Sound id b) {a : Act}
    (hnone : (GatewayChronicle.front a b.1).flatMap (GatewayChronicle.requestFor id) = []) :
    Fits id (noted perform (note id) a b).1.1 (noted perform (note id) a b).1.2 := by
  obtain ⟨g, past⟩ := b
  have hpast : (noted perform (note id) a (g, past)).1.2 =
      if g.held id = [] ∧ (g.perform a).1.held id ≠ [] then empty else past := by
    rw [noted, note, hnone, if_pos rfl]
  rw [hpast]
  obtain ⟨hbefore, c, hc, hzero⟩ | hkept := perform_sameCount (h.orderly.one id) a hnone
  · have hopened : g.held id = [] ∧ (g.perform a).1.held id ≠ [] := by
      refine ⟨hbefore, ?_⟩
      rw [hc]
      exact List.cons_ne_nil _ _
    rw [if_pos hopened]
    refine ⟨empty_accounts id, fun c' hc' => ?_⟩
    rw [noted, hc] at hc'
    cases hc'
    exact hzero
  · by_cases hopened : g.held id = [] ∧ (g.perform a).1.held id ≠ []
    · obtain ⟨c', hc'⟩ := ((h.orderly.perform a).one id).resolve_left hopened.2
      obtain ⟨c, hc, -⟩ := hkept c' hc'
      rw [hopened.1] at hc
      cases hc
    · rw [if_neg hopened]
      refine ⟨h.accounts, fun c' hc' => ?_⟩
      obtain ⟨c, hc, hsame⟩ := hkept c' hc'
      rw [hsame]
      exact h.counted c hc

theorem act_sound (a : Act) (b : Gateway × Intake) (h : Sound id b) :
    Sound id (noted perform (note id) a b).1 := by
  have hfits : Fits id (noted perform (note id) a b).1.1 (noted perform (note id) a b).1.2 := by
    by_cases hnone :
        (GatewayChronicle.front a b.1).flatMap (GatewayChronicle.requestFor id) = []
    · exact calm_fits h hnone
    · obtain ⟨q, hq⟩ := List.exists_mem_of_ne_nil _ hnone
      obtain ⟨p, hp, hqp⟩ := List.mem_flatMap.1 hq
      cases a with
      | look now =>
        cases hfront : b.1.received with
        | nil =>
          rw [GatewayChronicle.front, hfront] at hp
          cases hp
        | cons r later =>
          rw [GatewayChronicle.front, hfront] at hp
          rw [List.mem_singleton.1 hp] at hqp
          unfold GatewayChronicle.requestFor at hqp
          split at hqp
          · rename_i q' hq'
            split at hqp
            · rename_i hid
              exact request_fits h hfront hq' hid
            · cases hqp
          · cases hqp
      | _ => cases hp
  exact ⟨h.orderly.perform a, h.offered.perform a, hfits.accounts, hfits.counted⟩

theorem run_sound (h : Sound id b) (events : List Event) (acts : List Act) :
    Sound id (runWith (noted perform (note id)) acts (noteRun (note id) events b).1).1 := by
  refine runWith_invariant (noted perform (note id)) (Sound id) act_sound acts
    (noteRun_kept ?_ act_sound events h)
  intro g g' past hchannels hcount hconfig h
  have hheld : g'.held id = g.held id := by rw [held, held, hchannels]
  refine ⟨h.orderly.of_table hchannels hcount hconfig, ?_, h.accounts, fun c hc => ?_⟩
  · intro hoff
    simp only at hoff
    rw [hconfig] at hoff
    exact hchannels.trans (h.offered hoff)
  · rw [hheld] at hc
    exact h.counted c hc

theorem start_sound {host : Host} {inUse : List UInt16} {config : GatewayConfig} {g₀ : Gateway}
    (h : bind host inUse config = .ok g₀) (registrations : List Nat) (id : UInt8) :
    Sound id (g₀.registered registrations, empty) := by
  refine ⟨orderly_of_bind h registrations, fun _ => (channels_of_bind h).1, empty_accounts id,
    fun c hc => ?_⟩
  have hnone : (g₀.registered registrations).held id = [] := held_of_bind h registrations id
  rw [hnone] at hc
  cases hc

/-! ## What comes in on a channel -/

/-- **A channel takes in exactly the requests that it expects**, whatever is sent to the gateway.
Take a gateway that has been bound, any run, and any part of a further turn (`acts`).  A request can
be read if there are two octets of message in it, and what the gateway makes of any datagram that is
to be a request is what `Treats` says.  For each channel, the frames given to the bus because of
requests on it are those that the requests that it expected yield, once each and in order, and so are
the confirmations that joined its queue; the expected number counts these requests.  No other frames
go to the bus but those that routers send. -/
theorem requests_taken_in {host : Host} {inUse : List UInt16} {config : GatewayConfig}
    {g₀ : Gateway} (h : bind host inUse config = .ok g₀) (registrations : List Nat)
    (events : List Event) (acts : List Act) (id : UInt8) :
    let g := (runWith perform acts ((g₀.registered registrations).run events).1).1
    let b := (runWith (noted perform (note id)) acts
      (noteRun (note id) events (g₀.registered registrations, empty)).1).1
    (∀ q, TunnelRequest.ofPacket q.toPacket = .ok q ↔ 2 ≤ q.message.length) ∧
    (∀ now p, g.Treats now p) ∧
    b.1 = g ∧
    (∃ ys, List.Forall₂ (fun q y => Yields q.message y) b.2.expected ys ∧
      b.2.forwarded = ys.flatMap (·.forwarded) ∧ b.2.confirmed = ys.flatMap (·.confirmed)) ∧
    (∀ i q, b.2.expected[i]? = some q → q.channel = id ∧ q.sequence = octetNo i) ∧
    (∀ c, g.held id = [c] → c.receiveNo = octetNo b.2.expected.length) ∧
    ∀ a, forwardsOf (g.perform a).2 ≠ [] →
      ∃ now p later, a = .look now ∧ g.received = p :: later ∧
        (p.packet.service = .routingIndication ∨
          ∃ q c, TunnelRequest.ofPacket p.packet = .ok q ∧ c ∈ g.channels ∧ q.channel = c.id ∧
            q.sequence = c.receiveNo) := by
  intro g b
  have hgateway : b.1 = g :=
    noteRun_acts (note id) events acts (g₀.registered registrations, empty)
  have hsound : Sound id b := run_sound (start_sound h registrations id) events acts
  have horderly : g.Orderly := hgateway ▸ hsound.orderly
  have hoffered : g.OnlyOffered := hgateway ▸ hsound.offered
  refine ⟨TunnelRequest.ofPacket_toPacket_iff, treats horderly hoffered, hgateway,
    hsound.accounts.yields, hsound.accounts.numbers, fun c hc => ?_,
    fun a => source_of_forward horderly hoffered⟩
  rw [← hgateway] at hc
  exact hsound.counted c hc

/-! ## A hostile client -/

/-- A request on the first channel, as it comes from the network. -/
def requestOctets (sequence : UInt8) (message : Octets) : Octets :=
  [0x06, 0x10, 0x04, 0x20, 0, UInt8.ofNat (10 + message.length), 4, 1, sequence, 0] ++ message

/-- A frame that has been received, in external framing. -/
def receivedFrame : Octets := [0x29, 0, 0xbc, 0xe0, 0x11, 2, 8, 1, 1, 0, 0x81]

/-- A client gets a channel and sends what it likes: a request under a number that is not expected,
the first one twice, the second one with a message that nobody understands, and the third one with a
frame that has been received. -/
def hostileClient : List Event :=
  [.arrive (.octets askingOctets asker), .takeIn 0, .turn 0,
    .arrive (.octets (requestOctets 7 sendingRequest) asker),
    .arrive (.octets (requestOctets 0 sendingRequest) asker),
    .arrive (.octets (requestOctets 0 sendingRequest) asker),
    .arrive (.octets (requestOctets 1 [0, 0]) asker),
    .arrive (.octets (requestOctets 2 receivedFrame) asker), .takeIn 5, .turn 5]

/-- What the first channel has taken in then, and the gateway. -/
def hosted : Gateway × Intake :=
  (noteRun (note 1) hostileClient (tunnellingGateway.registered [1, 2, 3], empty)).1

/-- Both frames go to the bus, and only the one that was to be sent is confirmed. -/
theorem requests_taken_in_hostileClient :
    hosted.2.expected = [⟨1, 0, sendingRequest⟩, ⟨1, 1, [0, 0]⟩, ⟨1, 2, receivedFrame⟩] ∧
      hosted.2.forwarded =
        [Frame.addressed (.group ⟨2049⟩) [0, 0x80],
          { Frame.addressed (.group ⟨2049⟩) [0, 0x81] with source := ⟨4354⟩ }] ∧
      hosted.2.confirmed = [[0x2e, 0, 0xbc, 0xe0, 0, 0, 8, 1, 1, 0, 0x80]] ∧
      (hosted.1.held 1).map (·.receiveNo) = [3] ∧
      hosted.1.onPacket 6 ⟨(TunnelRequest.mk 1 2 sendingRequest).toPacket, asker⟩ =
        (hosted.1, [.datagram ⟨(TunnelAck.mk 1 2 Status.ok).toPacket, asker⟩]) := by
  obtain ⟨hreadable, htreats, hgateway, ⟨ys, hyields, hforwarded, hconfirmed⟩, -, hcounted, -⟩ :=
    requests_taken_in bind_tunnellingGateway [1, 2, 3] hostileClient [] 1
  have hexpected :
      hosted.2.expected = [⟨1, 0, sendingRequest⟩, ⟨1, 1, [0, 0]⟩, ⟨1, 2, receivedFrame⟩] := by
    decide +kernel
  have hrun : ((tunnellingGateway.registered [1, 2, 3]).run hostileClient).1 = hosted.1 :=
    hgateway.symm
  obtain ⟨c, hc⟩ : ∃ c, hosted.1.held 1 = [c] := List.length_eq_one_iff.1 (by decide +kernel)
  have hcmem : c ∈ hosted.1.held 1 := by
    rw [hc]
    exact List.mem_singleton_self c
  have hnumber : c.receiveNo = octetNo hosted.2.expected.length :=
    hcounted c ((congrArg (held 1) hrun).trans hc)
  rw [hexpected] at hnumber
  have hys : ys = [yield sendingRequest, yield [0, 0], yield receivedFrame] := by
    rw [runWith, ← hosted, hexpected] at hyields
    obtain _ | ⟨hfirst, _ | ⟨hsecond, _ | ⟨hthird, _ | _⟩⟩⟩ := hyields
    rw [yields_iff.1 hfirst, yields_iff.1 hsecond, yields_iff.1 hthird]
  subst hys
  refine ⟨hexpected, hforwarded.trans (by decide +kernel), hconfirmed.trans (by decide +kernel),
    ?_, ?_⟩
  · rw [hc, List.map_singleton, hnumber]
    rfl
  · have hdata : c.data = asker := by
      have hall : ∀ c ∈ hosted.1.held 1, c.data = asker := by decide +kernel
      exact hall c hcmem
    have hlook := (htreats 6 ⟨(TunnelRequest.mk 1 2 sendingRequest).toPacket, asker⟩).previous
      ⟨1, 2, sendingRequest⟩ c ((hreadable _).2 (by decide)) (by
        rw [runWith, hrun]
        exact (List.mem_filter.1 hcmem).1) (id_of_held hcmem).symm (by rw [hnumber]; rfl)
    rw [runWith, hrun] at hlook
    refine hlook.trans ?_
    rw [acknowledging, hdata, id_of_held hcmem]
    rfl

/-- A client has just got a channel. -/
def admitted : Gateway :=
  ((tunnellingGateway.registered [1, 2, 3]).run
    [.arrive (.octets askingOctets asker), .takeIn 0, .turn 0]).1

/-- The client sends the request that is expected, with a message of one octet.  It is not told that
the message could not be understood, and the same number is expected as before. -/
theorem short_request_ignored :
    ((admitted.held 1).map (·.receiveNo) = [0] ∧ (Cemi.decode [0x11]).toOption = none) ∧
      (admitted.run [.arrive (.octets (requestOctets 0 [0x11]) asker), .takeIn 0, .turn 0]).2 = [] ∧
      (admitted.run [.arrive (.octets (requestOctets 0 [0x11]) asker), .takeIn 0,
        .turn 0]).1.held 1 = admitted.held 1 := by
  decide +kernel

end Intake
end KnxBus
