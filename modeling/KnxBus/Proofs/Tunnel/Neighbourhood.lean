import KnxBus.Proofs.Gateway.Custody
import KnxBus.Proofs.Tunnel.Tenancy

/-!
# A gateway and its clients

A gateway and any number of clients are on one network.  A datagram is where it goes to at the
instant it is sent, or it is lost.  Clients come and go; two of them are never at the same place,
but one may come to where another one was.

All do what they do in parts, in any order.  They have to be in time, however.  Time passes only
when nobody has a datagram to look at and no heartbeat is due, and so it is when no turn is due
(`calm_of_not_isDue`).  Nothing else is asked of anybody.  A turn is a run of its parts
(`gateway_turn`, `client_turn`), so what is said about all runs of the parts holds of all runs of
the turns.

## The log

What the gateway and the clients have done about channels is written down: a channel is opened for a
client or ends, a client comes, and a client gets to believe that it is connected.  The entries are
read off the table of the gateway and the sessions of the clients, before and after each part
(`Gateway.entries`, `Tunnel.entries`).
-/

namespace KnxBus

/-- What is done about channels. -/
inductive ChannelEvent where
  /-- The gateway opens a channel for a client. -/
  | opened (id : UInt8) (client : Endpoint)
  /-- A channel of the gateway ends. -/
  | ended (id : UInt8)
  /-- A client comes. -/
  | joined (client : Endpoint)
  /-- A client is connected. -/
  | connected (client : Endpoint) (id : UInt8)
  deriving DecidableEq, Repr

namespace Gateway

/-- Which channels the gateway has opened, and which have ended. -/
def entries (g g' : Gateway) : List ChannelEvent :=
  ((g.channels.filter fun c => g'.held c.id = []).map fun c => .ended c.id) ++
    (g'.channels.filter fun c => g.held c.id = []).map fun c => .opened c.id c.control

/-- The gateway hears datagrams. -/
def hear (packets : List Received) (g : Gateway) : Gateway :=
  { g with received := g.received ++ packets }

/-- What a client hears of datagrams from the gateway that are not lost. -/
def heardBy (g : Gateway) (t : Tunnel) (arrived : List Outgoing) : List Received :=
  match g.facing? t.own with
  | none => []
  | some sender => (arrived.filter fun o => o.destination = t.own).flatMap (t.socket.takes sender)

end Gateway

namespace Tunnel

/-- Whether a client has become connected. -/
def entries (t t' : Tunnel) : List ChannelEvent :=
  match t.session?, t'.session? with
  | none, some s => [.connected t.own s.channel]
  | _, _ => []

/-- A client hears datagrams. -/
def hear (packets : List Received) (t : Tunnel) : Tunnel :=
  { t with received := t.received ++ packets }

/-- What the gateway hears of datagrams from a client that are not lost. -/
def heardBy (t : Tunnel) (g : Gateway) (arrived : List Outgoing) : List Received :=
  (arrived.filter fun o => g.facing? t.own = some o.destination).flatMap (g.socket.takes t.own)

/-- A client has looked at all datagrams, and no heartbeat is due. -/
def IsCalm (now : Nat) (t : Tunnel) : Prop :=
  t.received = [] ∧ ∀ s ∈ t.session?, heartbeatDue t.config s now = .nothing

instance (now : Nat) (t : Tunnel) : Decidable (t.IsCalm now) :=
  inferInstanceAs (Decidable (_ ∧ _))

end Tunnel

/-- A gateway and its clients. -/
structure Neighbourhood where
  /-- The time. -/
  now : Nat
  /-- The gateway. -/
  gateway : Gateway
  /-- The clients. -/
  clients : List Tunnel
  /-- What has been done about channels, oldest first. -/
  log : List ChannelEvent
  deriving DecidableEq, Repr

namespace Neighbourhood

/-- What can happen.  Where something is sent, it is said of each datagram whether it arrives; those
of which nothing is said are lost. -/
inductive Move where
  /-- The gateway does something. -/
  | gateway (d : Gateway.Doing) (fates : List Bool)
  /-- A client does something. -/
  | client (own : Endpoint) (d : Tunnel.Doing) (fates : List Bool)
  /-- A client is told to stop. -/
  | leave (own : Endpoint) (fates : List Bool)
  /-- A client comes. -/
  | join (host : Host) (inUse : List UInt16) (target : Endpoint) (config : TunnelConfig)
  /-- Time passes. -/
  | tick
  deriving DecidableEq, Repr

/-- The datagrams that are not lost. -/
def carried (fates : List Bool) (sent : List Outgoing) : List Outgoing :=
  ((sent.zip fates).filter (·.2)).map (·.1)

/-- The client at a place. -/
def client? (own : Endpoint) (n : Neighbourhood) : Option Tunnel :=
  n.clients.find? fun t => t.own = own

/-- Nobody has a datagram to look at, and no heartbeat is due. -/
def IsCalm (n : Neighbourhood) : Prop :=
  n.gateway.received = [] ∧ ∀ t ∈ n.clients, t.IsCalm n.now

instance (n : Neighbourhood) : Decidable n.IsCalm := inferInstanceAs (Decidable (_ ∧ _))

/-- Something happens.  A client comes only if it gives up before its channel is over, and if nobody
is where it is. -/
def step (m : Move) (n : Neighbourhood) : Neighbourhood :=
  match m with
  | .gateway d fates =>
    let (g, done) := n.gateway.perform (d.act n.now)
    { n with
      gateway := g
      clients := n.clients.map fun t =>
        t.hear (n.gateway.heardBy t (carried fates (datagramsOf done)))
      log := n.log ++ n.gateway.entries g }
  | .client own d fates =>
    match n.client? own with
    | none => n
    | some t =>
      let (t', sent) := t.perform (d.act n.now)
      { n with
        gateway := n.gateway.hear (t.heardBy n.gateway (carried fates sent))
        clients := n.clients.map fun t₂ => if t₂.own = own then t' else t₂
        log := n.log ++ t.entries t' }
  | .leave own fates =>
    match n.client? own with
    | none => n
    | some t =>
      { n with
        gateway := n.gateway.hear (t.heardBy n.gateway (carried fates t.finish.2))
        clients := n.clients.filter fun t₂ => t₂.own ≠ own }
  | .join host inUse target config =>
    match Tunnel.connect host inUse target config n.now with
    | .error _ => n
    | .ok t =>
      if config.Outlasted n.gateway.config.channelTimeout ∧ ∀ t₂ ∈ n.clients, t₂.own ≠ t.own then
        { n with clients := n.clients ++ [t], log := n.log ++ [.joined t.own] }
      else n
  | .tick => if n.IsCalm then { n with now := n.now + 1 } else n

/-- Things happen one after the other. -/
def run (moves : List Move) (n : Neighbourhood) : Neighbourhood :=
  moves.foldl (fun n m => n.step m) n

/-- What every move keeps, a run keeps. -/
theorem run_invariant (Inv : Neighbourhood → Prop) (hstep : ∀ m n, Inv n → Inv (n.step m))
    (moves : List Move) {n : Neighbourhood} (h : Inv n) : Inv (n.run moves) := by
  induction moves generalizing n with
  | nil => exact h
  | cons m later ih => exact ih (hstep m n h)

/-- A gateway without clients. -/
def start (now : Nat) (g : Gateway) : Neighbourhood := ⟨now, g, [], []⟩

end Neighbourhood

/-! ## The log

Of a channel it matters what was done about it last, and whether it was done for the client that is
at its place now.
-/

namespace ChannelEvent

/-- The entry is about a channel, or about who is at a place. -/
def IsAbout (own : Endpoint) (id : UInt8) : ChannelEvent → Prop
  | opened id' _ | ended id' => id' = id
  | joined client => client = own
  | connected _ _ => False

/-- The entry says that a client is connected. -/
def IsConnect (own : Endpoint) : ChannelEvent → Prop
  | connected client _ => client = own
  | _ => False

instance (own : Endpoint) (id : UInt8) : (e : ChannelEvent) → Decidable (e.IsAbout own id)
  | opened id' _ | ended id' => inferInstanceAs (Decidable (id' = id))
  | joined client => inferInstanceAs (Decidable (client = own))
  | connected _ _ => inferInstanceAs (Decidable False)

instance (own : Endpoint) : (e : ChannelEvent) → Decidable (e.IsConnect own)
  | connected client _ => inferInstanceAs (Decidable (client = own))
  | opened _ _ | ended _ | joined _ => inferInstanceAs (Decidable False)

/-- The last that has been done about a channel is that it was opened for a client. -/
def OpenedLast (own : Endpoint) (id : UInt8) (log : List ChannelEvent) : Prop :=
  ∃ before after, log = before ++ .opened id own :: after ∧ ∀ e ∈ after, ¬ e.IsAbout own id

/-- A client has been connected last to a channel that had been opened for it; nothing has been done
about this channel since. -/
def ConnectedLast (own : Endpoint) (id : UInt8) (log : List ChannelEvent) : Prop :=
  ∃ before after, log = before ++ .connected own id :: after ∧ OpenedLast own id before ∧
    ∀ e ∈ after, ¬ e.IsAbout own id ∧ ¬ e.IsConnect own

variable {own : Endpoint} {id : UInt8} {log more : List ChannelEvent}

theorem OpenedLast.append (h : OpenedLast own id log) (hmore : ∀ e ∈ more, ¬ e.IsAbout own id) :
    OpenedLast own id (log ++ more) := by
  obtain ⟨before, after, rfl, hafter⟩ := h
  refine ⟨before, after ++ more, by rw [List.append_assoc, List.cons_append], fun e he => ?_⟩
  exact (List.mem_append.1 he).elim (hafter e) (hmore e)

theorem ConnectedLast.append (h : ConnectedLast own id log)
    (hmore : ∀ e ∈ more, ¬ e.IsAbout own id ∧ ¬ e.IsConnect own) :
    ConnectedLast own id (log ++ more) := by
  obtain ⟨before, after, rfl, hopened, hafter⟩ := h
  refine ⟨before, after ++ more, by rw [List.append_assoc, List.cons_append], hopened,
    fun e he => ?_⟩
  exact (List.mem_append.1 he).elim (hafter e) (hmore e)

end ChannelEvent

namespace Gateway

section
variable {own : Endpoint} {id : UInt8} {g g' : Gateway}

/-- The gateway writes nothing down about a channel that is there before and after. -/
theorem not_about_of_entries {c c' : GatewayChannel} (h : g.held id = [c])
    (h' : g'.held id = [c']) : ∀ e ∈ g.entries g', ¬ e.IsAbout own id ∧ ¬ e.IsConnect own := by
  intro e he
  obtain he | he := List.mem_append.1 he
  · obtain ⟨d, hd, rfl⟩ := List.mem_map.1 he
    refine ⟨fun hid => ?_, fun hfalse => hfalse⟩
    have hnone := of_decide_eq_true (List.mem_filter.1 hd).2
    rw [show d.id = id from hid, h'] at hnone
    cases hnone
  · obtain ⟨d, hd, rfl⟩ := List.mem_map.1 he
    refine ⟨fun hid => ?_, fun hfalse => hfalse⟩
    have hnone := of_decide_eq_true (List.mem_filter.1 hd).2
    rw [show d.id = id from hid, h] at hnone
    cases hnone

theorem mem_held {c : GatewayChannel} (h : c ∈ g.channels) : c ∈ g.held c.id :=
  List.mem_filter.2 ⟨h, beq_iff_eq.2 rfl⟩

/-- Of a channel that is opened it is written down for whom. -/
theorem entries_of_opened {c : GatewayChannel} (hid : c.id = id) (h : g.held id = [])
    (heq : g'.channels = g.channels ++ [c]) : g.entries g' = [.opened id c.control] := by
  subst hid
  have hended : (g.channels.filter fun d => g'.held d.id = []) = [] := by
    refine List.filter_eq_nil_iff.2 fun d hd hnone => ?_
    have hmem : d ∈ g'.held d.id := mem_held (heq ▸ List.mem_append_left _ hd)
    rw [of_decide_eq_true hnone] at hmem
    exact absurd hmem List.not_mem_nil
  have hkept : (g.channels.filter fun d => g.held d.id = []) = [] := by
    refine List.filter_eq_nil_iff.2 fun d hd hnone => ?_
    have hmem := mem_held hd
    rw [of_decide_eq_true hnone] at hmem
    exact absurd hmem List.not_mem_nil
  have hnew : ([c].filter fun d => g.held d.id = []) = [c] :=
    List.filter_cons_of_pos (decide_eq_true h)
  rw [entries, hended, heq, List.filter_append, hkept, hnew]
  rfl

end
end Gateway

namespace Tunnel

section
variable {s : TunnelSession} {t t' : Tunnel}

theorem entries_of_session (h : t.session? = some s) : t.entries t' = [] := by
  rw [entries, h]

/-- That a client is connected is no news about a channel, nor about another client. -/
theorem not_about_of_entries {own : Endpoint} :
    ∀ e ∈ t.entries t', (∀ id, ¬ e.IsAbout own id) ∧ (t.own ≠ own → ¬ e.IsConnect own) := by
  intro e he
  unfold entries at he
  split at he
  · rw [List.mem_singleton.1 he]
    exact ⟨fun _ hfalse => hfalse, fun hne => hne⟩
  · exact absurd he List.not_mem_nil

end
end Tunnel

/-! ## What is heard -/

section
variable {g : Gateway} {t : Tunnel} {sent : List Outgoing} {extra : List Received}

theorem Neighbourhood.carried_sublist (fates : List Bool) (sent : List Outgoing) :
    (carried fates sent).Sublist sent := by
  induction sent generalizing fates with
  | nil => exact List.Sublist.refl _
  | cons o later ih =>
    cases fates with
    | nil => exact List.nil_sublist _
    | cons fate fates =>
      cases fate with
      | false => exact (ih fates).cons o
      | true => exact (ih fates).cons_cons o

/-- What a client hears of the gateway was sent to it. -/
def Tunnel.Hears (t : Tunnel) (sent : List Outgoing) (extra : List Received) : Prop :=
  (extra.map (·.packet)).Sublist ((sent.filter fun o => o.destination = t.own).map (·.packet))

theorem Gateway.hears (hcanonical : ∀ o ∈ sent, o.packet.IsCanonical) (fates : List Bool) :
    t.Hears sent (g.heardBy t (Neighbourhood.carried fates sent)) := by
  have hsublist := (Neighbourhood.carried_sublist fates sent).filter fun o => o.destination = t.own
  unfold heardBy
  split
  · exact List.nil_sublist _
  · rename_i sender _
    refine (t.socket.takes_sublist sender fun o ho => ?_).trans (hsublist.map _)
    exact hcanonical o (List.mem_filter.1 (hsublist.subset ho)).1

/-- What the gateway hears of a client was sent. -/
theorem Tunnel.heardBy_sublist (hcanonical : ∀ o ∈ sent, o.packet.IsCanonical)
    (fates : List Bool) :
    ((t.heardBy g (Neighbourhood.carried fates sent)).map (·.packet)).Sublist
      (sent.map (·.packet)) := by
  have hsublist : ((Neighbourhood.carried fates sent).filter fun o =>
      g.facing? t.own = some o.destination).Sublist sent :=
    List.filter_sublist.trans (Neighbourhood.carried_sublist fates sent)
  refine (g.socket.takes_sublist t.own fun o ho => ?_).trans (hsublist.map _)
  exact hcanonical o (hsublist.subset ho)

theorem Tunnel.Hears.exists_sent (h : t.Hears sent extra) {p : Packet}
    (hp : p ∈ extra.map (·.packet)) : ∃ o ∈ sent, o.packet = p := by
  obtain ⟨o, ho, rfl⟩ := List.mem_map.1 (h.subset hp)
  exact ⟨o, (List.mem_filter.1 ho).1, rfl⟩

/-- What is sent to one place is heard by nobody but the client that is there. -/
theorem Tunnel.Hears.of_told {target : Endpoint} (h : t.Hears sent extra)
    (htold : sent = [] ∨ ∃ p : Packet, p.IsCanonical ∧ sent = [⟨p, target⟩]) :
    extra.map (·.packet) = [] ∨ target = t.own ∧ ∃ p, extra.map (·.packet) = [p] := by
  obtain rfl | ⟨p, -, rfl⟩ := htold
  · exact Or.inl (List.sublist_nil.1 h)
  · by_cases htarget : target = t.own
    · refine (List.sublist_singleton.1 (h.trans ?_)).imp_right fun heq => ⟨htarget, p, heq⟩
      exact List.filter_sublist.map _
    · have hnone : ([⟨p, target⟩] : List Outgoing).filter (fun o => o.destination = t.own) = [] :=
        List.filter_cons_of_neg (by simpa using htarget)
      rw [Tunnel.Hears, hnone] at h
      exact Or.inl (List.sublist_nil.1 h)

theorem Tunnel.waiting_hear (packets : List Received) (t : Tunnel) :
    (t.hear packets).received.map (·.packet) =
      t.received.map (·.packet) ++ packets.map (·.packet) := List.map_append

theorem Gateway.waiting_hear (packets : List Received) (g : Gateway) :
    (g.hear packets).received.map (·.packet) =
      g.received.map (·.packet) ++ packets.map (·.packet) := List.map_append

end

/-! ## Turns

A turn of the gateway or of a client is a sequence of moves, one for each part.  When no turn is due,
time may pass.
-/

/-- The parts of a turn of the gateway. -/
def Gateway.turnDoings (g : Gateway) : List Gateway.Doing :=
  List.replicate g.received.length .look ++
    (List.replicate g.heard.length .listen ++ [.expire, .pump])

theorem Gateway.map_turnDoings {g : Gateway} (hgoing : g.stopping = false) (now : Nat) :
    g.turnDoings.map (Gateway.Doing.act now) = g.turnActs now := by
  rw [turnActs, hgoing, turnDoings, actsBeforePump]
  simp only [List.map_append, List.map_replicate, List.map_cons, List.map_nil, List.append_assoc]
  rfl

namespace Neighbourhood

variable {n : Neighbourhood} {t : Tunnel} {own : Endpoint}

theorem run_gateway (parts : List (Gateway.Doing × List Bool)) (n : Neighbourhood) :
    (n.run (parts.map fun p => .gateway p.1 p.2)).gateway =
      (runWith Gateway.perform (parts.map fun p => p.1.act n.now) n.gateway).1 := by
  induction parts generalizing n with
  | nil => rfl
  | cons p later ih => exact ih (n.step (.gateway p.1 p.2))

/-- A turn of the gateway. -/
theorem gateway_turn (hgoing : n.gateway.stopping = false)
    {parts : List (Gateway.Doing × List Bool)} (hparts : parts.map (·.1) = n.gateway.turnDoings) :
    (n.run (parts.map fun p => .gateway p.1 p.2)).gateway = (n.gateway.turn n.now).1 := by
  rw [run_gateway, Gateway.turn_eq_run, ← Gateway.map_turnDoings hgoing, ← hparts, List.map_map]
  rfl

theorem client?_eq_some (h : n.client? own = some t) :
    t ∈ n.clients ∧ t.own = own := by
  unfold client? at h
  have hown := List.find?_some h
  exact ⟨List.mem_of_find?_eq_some h, of_decide_eq_true hown⟩

theorem client?_step (h : n.client? own = some t) (d : Tunnel.Doing) (fates : List Bool) :
    (n.step (.client own d fates)).client? own = some (t.perform (d.act n.now)).1 := by
  have hfound : n.clients.find? (fun t => t.own = own) = some t := h
  obtain ⟨-, htown⟩ := client?_eq_some h
  have hown := (Tunnel.perform_setup (d.act n.now) t).own_eq.trans htown
  have hsame : ((fun t₂ : Tunnel => decide (t₂.own = own)) ∘ fun t₂ =>
      if t₂.own = own then (t.perform (d.act n.now)).1 else t₂) =
        fun t₂ => decide (t₂.own = own) := by
    funext t₂
    rw [Function.comp_apply]
    split
    · rename_i heq
      rw [hown, heq]
    · rfl
  unfold step
  simp only [h]
  rw [client?, List.find?_map, hsame, hfound, Option.map_some, if_pos htown]

theorem run_client (parts : List (Tunnel.Doing × List Bool)) (h : n.client? own = some t) :
    (n.run (parts.map fun p => .client own p.1 p.2)).client? own =
      some (runWith Tunnel.perform (parts.map fun p => p.1.act n.now) t).1 := by
  induction parts generalizing n t with
  | nil => exact h
  | cons p later ih =>
    have hnow : (n.step (.client own p.1 p.2)).now = n.now := by
      unfold step
      simp only [h]
    have hlater := ih (client?_step h p.1 p.2)
    rw [hnow] at hlater
    exact hlater

/-- A turn of a client. -/
theorem client_turn (h : n.client? own = some t) {parts : List (Tunnel.Doing × List Bool)}
    (hparts : parts.map (·.1) = t.turnDoings) :
    (n.run (parts.map fun p => .client own p.1 p.2)).client? own = some (t.turn n.now).1 := by
  have hturn : t.turn n.now = runWith Tunnel.perform (t.turnActs n.now) t :=
    Tunnel.turn_eq_run n.now t
  rw [run_client parts h, hturn, ← Tunnel.map_turnDoings, ← hparts, List.map_map]
  rfl

end Neighbourhood

/-- When no turn of a client is due, it is calm. -/
theorem Tunnel.isCalm_of_not_isDue {now : Nat} {t : Tunnel} (h : t.isDue now = false) :
    t.IsCalm now := by
  rw [isDue, Bool.or_eq_false_iff, decide_eq_false_iff_not, hasWork, Bool.or_eq_false_iff] at h
  obtain ⟨⟨hreceived, -⟩, hdeadline⟩ := h
  refine ⟨List.isEmpty_iff.1 (by simpa using hreceived), fun s hs => ?_⟩
  have hlink := session?_eq_some_iff.1 hs
  have hbeat : now < s.heartbeatDeadline.getD s.heartbeatAt := by
    rw [nextDeadline, hlink] at hdeadline
    simp only at hdeadline
    split at hdeadline <;> omega
  unfold heartbeatDue
  split
  · rename_i deadline hsome
    rw [hsome] at hbeat
    exact if_pos hbeat
  · rename_i hnone
    rw [hnone] at hbeat
    exact if_pos hbeat

/-- When no turn is due, time may pass. -/
theorem Neighbourhood.calm_of_not_isDue {n : Neighbourhood} (hends : n.gateway.isEnded = false)
    (hgateway : n.gateway.isDue n.now = false) (hclients : ∀ t ∈ n.clients, t.isDue n.now = false) :
    n.IsCalm := by
  refine ⟨?_, fun t ht => Tunnel.isCalm_of_not_isDue (hclients t ht)⟩
  rw [Gateway.isDue, hends] at hgateway
  simp only [Bool.not_false, Bool.true_and, Bool.or_eq_false_iff, Bool.not_eq_false',
    List.isEmpty_iff] at hgateway
  exact hgateway.1.1.2

end KnxBus
