import KnxBus.Proofs.Dispatch.Seen

/-!
# What members see

Of an event, of a medium and of the desk members see what they see of a registry
(`Registry.seen`): what is left when onlookers are taken away, with members under their names, and
without the captures that a medium queues for a virtual monitor.

Two things hold of each operation.  If it concerns members it does to what is seen what it would do if
there were nothing else: `handle_seen` for the desk and `Loopback.plain_inject` for the medium.  If it
concerns onlookers it does not change what is seen: `handle_unseen`.
-/

namespace KnxBus

/-! ## What members see of events -/

/-- An event under the names of members; nothing, if it is a capture or concerns an onlooker. -/
def DispatchEvent.seen (owner : Nat → Option Party) :
    DispatchEvent Party → Option (DispatchEvent Nat)
  | .subscribe s => s.seen.map .subscribe
  | .monitor m => m.seen.map .monitor
  | .unsubscribe id => ((owner id).bind Party.name?).map .unsubscribe
  | .heard (.capture _) => none
  | .heard item => some (.heard item)
  | .lost => some .lost

/-- Whether something heard is a capture. -/
def Lpdu.isCapture : Lpdu → Bool
  | .capture _ => true
  | _ => false

theorem DispatchEvent.heard_seen (owner : Nat → Option Party) {item : Lpdu}
    (h : item.isCapture = false) : (heard item).seen owner = some (.heard item) := by
  cases item with
  | capture raw => cases h
  | _ => rfl

theorem DispatchEvent.heard_unseen (owner : Nat → Option Party) {item : Lpdu}
    (h : item.isCapture = true) : (heard item).seen owner = none := by
  cases item with
  | capture raw => rfl
  | _ => cases h

section
variable {owner : Nat → Option Party} {e : DispatchEvent Party}

theorem Registry.suited_of_entries {r : Registry Party}
    (h : ∀ x ∈ r.entries, owner x.1 = some x.2.sink ∧ x.2.Suits) : r.Suited where
  subscribers s hs := (h _ (List.mem_append_left _ (List.mem_map.2 ⟨s, hs, rfl⟩))).2
  monitors m hm := (h _ (List.mem_append_right _ (List.mem_map.2 ⟨m, hm, rfl⟩))).2

/-- A member that leaves under its number is seen to leave under its name. -/
theorem Registry.unsubscribe_member {r : Registry Party} {id : Nat} {name : Nat}
    (hentries : ∀ x ∈ r.entries, owner x.1 = some x.2.sink ∧ x.2.Suits)
    (hone : ∀ a b party, owner a = some party → owner b = some party → a = b)
    (howner : owner id = some (.member name)) (verdict : Verdict) :
    r.seen.unsubscribe verdict name =
      ((r.unsubscribe verdict id).1.seen, (r.unsubscribe verdict id).2) := by
  have hnamed (a : Nat) (sink : Party) (hsink : owner a = some sink) :
      sink = .member name ↔ a = id := by
    constructor
    · rintro rfl
      exact hone a id _ hsink howner
    · rintro rfl
      exact Option.some.inj (hsink.symm.trans howner)
  refine (Registry.suited_of_entries hentries).unsubscribe_seen verdict (fun s hs => ?_)
    fun m hm => ?_
  · have hsink := (hentries _ (List.mem_append_left _ (List.mem_map.2 ⟨s, hs, rfl⟩))).1
    exact hnamed s.id s.sink hsink
  · have hsink := (hentries _ (List.mem_append_right _ (List.mem_map.2 ⟨m, hm, rfl⟩))).1
    exact hnamed m.id m.sink hsink

/-- An onlooker is not seen to leave, and if a command is given it concerns the virtual monitor. -/
theorem Registry.unsubscribe_onlooker {r : Registry Party} {id : Nat} {party : Party}
    (hentries : ∀ x ∈ r.entries, owner x.1 = some x.2.sink ∧ x.2.Suits)
    (howner : owner id = some party) (honlooker : party.isOnlooker = true) (verdict : Verdict) :
    (r.unsubscribe verdict id).1.seen = r.seen ∧
      ∀ c ∈ (r.unsubscribe verdict id).2, c = .closeVirtualMonitor := by
  have hthere (x : Nat × Request Party) (hx : x ∈ r.entries) (hid : x.1 = id) :
      x.2.sink.isOnlooker = true := by
    have hsink := (hentries x hx).1
    rw [hid, howner] at hsink
    exact Option.some.inj hsink ▸ honlooker
  refine r.unsubscribe_unseen verdict id (fun s hs hid => ?_) fun m hm hid => ?_
  · have hmem : (s.id, .frames s.route s.sink) ∈ r.entries :=
      List.mem_append_left _ (List.mem_map.2 ⟨s, hs, rfl⟩)
    have hsuits : s.sink.isOnlooker = false := (hentries _ hmem).2
    cases hsuits.symm.trans (hthere _ hmem hid)
  · have hmem : (m.id, .captures m.isVirtual m.sink) ∈ r.entries :=
      List.mem_append_right _ (List.mem_map.2 ⟨m, hm, rfl⟩)
    have hsuits : m.isVirtual = m.sink.isOnlooker := (hentries _ hmem).2
    have hsink : m.sink.isOnlooker = true := hthere _ hmem hid
    refine ⟨?_, hsuits.trans hsink⟩
    unfold Monitor.seen
    cases hparty : m.sink with
    | member name => rw [hparty] at hsink; cases hsink
    | onlooker name => rfl

/-- What handling an event comes to as members see it. -/
structure Dispatched.Matches (done : Dispatched Party) (done' : Dispatched Nat) : Prop where
  /-- The same members are registered. -/
  registry_eq : done'.dispatcher.registry = done.dispatcher.registry.seen
  /-- The dispatcher goes on, or ends, in both cases. -/
  running_eq : done'.dispatcher.running = done.dispatcher.running
  /-- The same commands are given. -/
  commands_eq : done'.commands = done.commands

/-- **What members see is handled as if there were nothing else**: under their names, with the same
commands, and with the same tidings for them. -/
theorem handle_seen (d : Dispatcher Party) (d' : Dispatcher Nat)
    (hregistry : d'.registry = d.registry.seen) (hrunning : d'.running = d.running)
    (hentries : ∀ x ∈ d.registry.entries, owner x.1 = some x.2.sink ∧ x.2.Suits)
    (hone : ∀ a b party, owner a = some party → owner b = some party → a = b)
    (hasked : ∀ x, e.asks? = some x → x.2.Suits) {e' : DispatchEvent Nat}
    (he : e.seen owner = some e') (verdict : Verdict) (own : IndividualAddress) :
    (d.handle verdict own e).Matches (d'.handle verdict own e') ∧
      e'.tidings some (d'.handle verdict own e') =
        e.tidings Party.name? (d.handle verdict own e) := by
  have hsuited := Registry.suited_of_entries hentries
  cases e with
  | subscribe s =>
    obtain ⟨t, ht, rfl⟩ := Option.map_eq_some_iff.1 he
    have hdone : d'.registry.subscribe verdict t = (d.registry.subscribe verdict s).seen :=
      hregistry ▸ hsuited.subscribe_seen verdict ht
    obtain ⟨name, hsink, rfl⟩ := Subscriber.seen_eq_some.1 ht
    refine ⟨⟨congrArg Registered.registry hdone, hrunning, congrArg Registered.commands hdone⟩, ?_⟩
    change [(name, Tiding.answer _)] = (Party.name? s.sink).toList.map _
    rw [hsink]
    exact congrArg (fun done => [(name, Tiding.answer done.result)]) hdone
  | monitor m =>
    obtain ⟨t, ht, rfl⟩ := Option.map_eq_some_iff.1 he
    obtain ⟨name, hsink, rfl⟩ := Monitor.seen_eq_some.1 ht
    have hreal : m.isVirtual = false := by
      have hsuits : m.isVirtual = m.sink.isOnlooker := hasked _ rfl
      rw [hsuits, hsink]
      rfl
    have hdone : d'.registry.monitor verdict ⟨name, m.isVirtual, name⟩ =
        (d.registry.monitor verdict m).seen :=
      hregistry ▸ hsuited.monitor_seen verdict hreal ht
    refine ⟨⟨congrArg Registered.registry hdone, hrunning, congrArg Registered.commands hdone⟩, ?_⟩
    change [(name, Tiding.answer _)] = (Party.name? m.sink).toList.map _
    rw [hsink]
    exact congrArg (fun done => [(name, Tiding.answer done.result)]) hdone
  | unsubscribe id =>
    obtain ⟨name, hname, rfl⟩ := Option.map_eq_some_iff.1 he
    obtain ⟨party, howner, hparty⟩ := Option.bind_eq_some_iff.1 hname
    obtain rfl : party = .member name := by
      cases party <;> cases hparty
      rfl
    have hdone : d'.registry.unsubscribe verdict name =
        ((d.registry.unsubscribe verdict id).1.seen, (d.registry.unsubscribe verdict id).2) :=
      hregistry ▸ Registry.unsubscribe_member hentries hone howner verdict
    exact ⟨⟨congrArg Prod.fst hdone, hrunning, congrArg Prod.snd hdone⟩, rfl⟩
  | heard item =>
    have hheard : e' = .heard item := by
      cases item <;> cases he <;> rfl
    subst hheard
    refine ⟨⟨hregistry, hrunning, rfl⟩, ?_⟩
    change (d'.registry.dispatch own item).filterMap _ ++ _ =
      (d.registry.dispatch own item).filterMap _ ++ _
    rw [hregistry, d.registry.dispatch_seen]
    rfl
  | lost =>
    cases he
    refine ⟨⟨hregistry, rfl, rfl⟩, ?_⟩
    change d'.registry.announceLoss.filterMap _ ++ _ = d.registry.announceLoss.filterMap _ ++ _
    rw [Registry.announceLoss_tidings, Registry.announceLoss_tidings]
    rfl

/-- **What members do not see changes nothing that they see.** -/
theorem handle_unseen (d : Dispatcher Party)
    (hentries : ∀ x ∈ d.registry.entries, owner x.1 = some x.2.sink ∧ x.2.Suits)
    (hasked : ∀ x, e.asks? = some x → x.2.Suits)
    (hleaving : ∀ id, e = .unsubscribe id → ∃ party, owner id = some party)
    (he : e.seen owner = none) (verdict : Verdict) (own : IndividualAddress) :
    let done := d.handle verdict own e
    done.dispatcher.registry.seen = d.registry.seen ∧ done.dispatcher.running = d.running ∧
      (∀ c ∈ done.commands, c = .openVirtualMonitor ∨ c = .closeVirtualMonitor) ∧
      e.tidings Party.name? done = [] := by
  cases e with
  | subscribe s =>
    have hsuits : s.sink.isOnlooker = false := hasked _ rfl
    obtain ⟨id, route, party⟩ := s
    cases party with
    | member name => cases he
    | onlooker name => cases hsuits
  | monitor m =>
    have hsuits : m.isVirtual = m.sink.isOnlooker := hasked _ rfl
    obtain ⟨id, isVirtual, party⟩ := m
    cases party with
    | member name => cases he
    | onlooker name =>
      obtain ⟨hseen, hcommands⟩ := d.registry.monitor_unseen verdict hsuits rfl
      exact ⟨hseen, rfl, fun c hc => .inl (hcommands c hc), rfl⟩
  | unsubscribe id =>
    obtain ⟨party, howner⟩ := hleaving id rfl
    have honlooker : party.isOnlooker = true := by
      cases party with
      | member name => rw [DispatchEvent.seen, howner] at he; cases he
      | onlooker name => rfl
    obtain ⟨hseen, hcommands⟩ := Registry.unsubscribe_onlooker hentries howner honlooker verdict
    exact ⟨hseen, rfl, fun c hc => .inr (hcommands c hc), rfl⟩
  | heard item =>
    cases item with
    | capture raw =>
      refine ⟨rfl, rfl, nofun, List.append_eq_nil_iff.2 ⟨?_, rfl⟩⟩
      refine List.filterMap_eq_nil_iff.2 fun x hx => ?_
      obtain ⟨m, -, rfl⟩ := List.mem_map.1 hx
      rfl
    | _ => cases he
  | lost => cases he

end

/-! ## What members see of the medium -/

namespace Loopback

/-- A medium without captures and without the virtual monitor. -/
def plain (l : Loopback) : Loopback :=
  { l with
    mode := { l.mode with virtualMonitor := false }
    inbox := l.inbox.filter fun item => !item.isCapture }

theorem plain_plain (l : Loopback) : l.plain.plain = l.plain := by
  simp [plain]

/-- All that the virtual monitor adds to what is heard is captures. -/
theorem filter_report (mode : MonitorMode) (item : Lpdu) :
    (report { mode with virtualMonitor := false } item).filter (fun item => !item.isCapture) =
      (report mode item).filter fun item => !item.isCapture := by
  have hcapture (frame : Frame) :
      (MonitorMode.captureOf frame).filter (fun item => !item.isCapture) = [] := by
    unfold MonitorMode.captureOf
    split <;> rfl
  cases item with
  | data frame =>
    change (MonitorMode.framesFor _ frame false).filter _ =
      (MonitorMode.framesFor _ frame false).filter _
    unfold MonitorMode.framesFor
    cases mode.busmonitor with
    | true => rfl
    | false =>
      cases mode.virtualMonitor with
      | false => rfl
      | true =>
        simp only [Bool.false_eq_true, if_false, if_true, List.filter_append, hcapture]
        rfl
  | _ => rfl

theorem plain_inject (l : Loopback) (item : Lpdu) :
    (l.plain.inject item).plain = (l.inject item).plain := by
  unfold inject
  change (if l.lost then _ else _ : Loopback).plain = _
  split
  · exact l.plain_plain
  · simp only [plain, List.filter_append, List.filter_filter, Bool.and_self]
    exact congrArg (fun more => Loopback.mk _ _ (_ ++ more) _) (filter_report l.mode item)

theorem plain_obey (l : Loopback) (c : Command) : (l.plain.obey c).plain = (l.obey c).plain := by
  cases c <;> simp [obey, Medium.obey, Medium.mapMode, plain]

theorem plain_obeyAll (l : Loopback) (commands : List Command) :
    (l.plain.obeyAll commands).plain = (l.obeyAll commands).plain := by
  induction commands generalizing l with
  | nil => exact l.plain_plain
  | cons c later ih =>
    calc ((l.plain.obey c).obeyAll later).plain
        = ((l.plain.obey c).plain.obeyAll later).plain := (ih _).symm
      _ = ((l.obey c).plain.obeyAll later).plain := by rw [plain_obey]
      _ = ((l.obey c).obeyAll later).plain := ih _

/-- Opening and closing the virtual monitor is not seen. -/
theorem obeyAll_unseen (l : Loopback) {commands : List Command}
    (h : ∀ c ∈ commands, c = .openVirtualMonitor ∨ c = .closeVirtualMonitor) :
    (l.obeyAll commands).plain = l.plain := by
  refine List.foldlRecOn (motive := fun l' => l'.plain = l.plain) commands obey rfl
    fun l' hl' c hc => ?_
  rw [← hl']
  obtain rfl | rfl := h c hc <;> rfl

end Loopback

/-- A wire as members see it. -/
def Wire.plain (w : Wire) : Wire := ⟨w.medium.plain, w.pump, []⟩

theorem Wire.plain_plain (w : Wire) : w.plain.plain = w.plain :=
  congrArg (Wire.mk · w.pump []) w.medium.plain_plain

theorem Wire.plain_hear (w : Wire) (item : Lpdu) : (w.plain.hear item).plain = (w.hear item).plain :=
  congrArg (Wire.mk · w.pump []) (w.medium.plain_inject item)

theorem Wire.plain_obeyAll (w : Wire) (commands : List Command) :
    (w.plain.obeyAll commands).plain = (w.obeyAll commands).plain :=
  congrArg (Wire.mk · w.pump []) (w.medium.plain_obeyAll commands)

/-! ## What members see of desk and circuit -/

theorem Request.seen_eq_none {request : Request Party} :
    request.seen = none ↔ request.sink.isOnlooker = true := by
  obtain ⟨route, party⟩ | ⟨isVirtual, party⟩ := request <;> cases party <;>
    simp [seen, sink, Party.name?, Party.isOnlooker]

theorem Request.sink_of_seen {request : Request Party} {x : Nat × Request Nat}
    (h : request.seen = some x) : request.sink = .member x.1 := by
  obtain ⟨route, party⟩ | ⟨isVirtual, party⟩ := request <;> cases party <;> cases h <;> rfl

theorem Want.request_seen (want : Want) (name : Nat) :
    (want.request (Party.member name)).seen = some (name, want.request name) := by
  cases want <;> rfl

/-- A request that is handed in is seen if it is seen before. -/
theorem Request.event_seen (owner : Nat → Option Party) (id : Nat) (request : Request Party) :
    (request.event id).seen owner = request.seen.map fun x => x.2.event x.1 := by
  obtain ⟨route, party⟩ | ⟨isVirtual, party⟩ := request <;> cases party <;> rfl

attribute [ext] Dispatcher

/-- A desk under the names of members, of whom so many have got a number.  What driver and log
remember is not seen. -/
def Desk.seen (owner : Nat → Option Party) (joined : Nat) (desk : Desk Party) : Desk Nat where
  dispatcher :=
    ⟨desk.registry.seen, joined, desk.dispatcher.running,
      desk.dispatcher.events.filterMap (DispatchEvent.seen owner)⟩
  driver := .opened
  drawn := desk.drawn.filterMap fun x => x.2.seen
  log := []

theorem Desk.enqueue_seen {owner : Nat → Option Party} {joined : Nat} {desk : Desk Party}
    {e : DispatchEvent Party} {e' : DispatchEvent Nat} (he : e.seen owner = some e') :
    (desk.enqueue e).seen owner joined = (desk.seen owner joined).enqueue e' := by
  have hevents : (desk.dispatcher.events ++ [e]).filterMap (DispatchEvent.seen owner) =
      desk.dispatcher.events.filterMap (DispatchEvent.seen owner) ++ [e'] := by
    rw [List.filterMap_append, List.filterMap_cons_some he]
    rfl
  exact congrArg (fun events => Desk.mk ⟨_, _, _, events⟩ _ _ _) hevents

theorem Desk.enqueue_unseen {owner : Nat → Option Party} {joined : Nat} {desk : Desk Party}
    {e : DispatchEvent Party} (he : e.seen owner = none) :
    (desk.enqueue e).seen owner joined = desk.seen owner joined := by
  have hevents : (desk.dispatcher.events ++ [e]).filterMap (DispatchEvent.seen owner) =
      desk.dispatcher.events.filterMap (DispatchEvent.seen owner) := by
    rw [List.filterMap_append, List.filterMap_cons_none he]
    exact List.append_nil _
  exact congrArg (fun events => Desk.mk ⟨_, _, _, events⟩ _ _ _) hevents

/-- What is left at the desk when an event has been handled that members see. -/
theorem Desk.record_seen {owner : Nat → Option Party} (joined : Nat) (desk : Desk Party)
    {verdict : Verdict} {own : IndividualAddress} {e : DispatchEvent Party}
    {later : List (DispatchEvent Party)} {e' : DispatchEvent Nat}
    (h : (desk.handling verdict own e later).done.Matches
      ((desk.seen owner joined).handling verdict own e'
        (later.filterMap (DispatchEvent.seen owner))).done) :
    (desk.record (desk.handling verdict own e later)).seen owner joined =
      { (desk.seen owner joined).record ((desk.seen owner joined).handling verdict own e'
          (later.filterMap (DispatchEvent.seen owner))) with
        driver := .opened
        log := [] } := by
  have hqueue : (desk.handling verdict own e later).done.dispatcher.events = later :=
    (handle_queue verdict own _ e).1
  obtain ⟨hqueue', hnext'⟩ := handle_queue verdict own
    ((desk.seen owner joined).dispatcher.withEvents (later.filterMap (DispatchEvent.seen owner))) e'
  have hdispatcher : ((desk.seen owner joined).handling verdict own e'
      (later.filterMap (DispatchEvent.seen owner))).done.dispatcher =
        ⟨(desk.handling verdict own e later).done.dispatcher.registry.seen, joined,
          (desk.handling verdict own e later).done.dispatcher.running,
          (desk.handling verdict own e later).done.dispatcher.events.filterMap
            (DispatchEvent.seen owner)⟩ :=
    Dispatcher.ext h.registry_eq hnext' h.running_eq
      (hqueue'.trans (congrArg (List.filterMap _) hqueue.symm))
  exact congrArg (Desk.mk · _ _ _) hdispatcher.symm

/-- And when it is one that they do not see. -/
theorem Desk.record_unseen {owner : Nat → Option Party} (joined : Nat) (desk : Desk Party)
    {verdict : Verdict} {own : IndividualAddress} {e : DispatchEvent Party}
    {later : List (DispatchEvent Party)} (he : e.seen owner = none)
    (queue : desk.dispatcher.events = e :: later)
    (hregistry : (desk.handling verdict own e later).done.dispatcher.registry.seen =
      desk.registry.seen)
    (hrunning : (desk.handling verdict own e later).done.dispatcher.running =
      desk.dispatcher.running) :
    (desk.record (desk.handling verdict own e later)).seen owner joined = desk.seen owner joined := by
  have hqueue : (desk.handling verdict own e later).done.dispatcher.events = later :=
    (handle_queue verdict own _ e).1
  have hevents : desk.dispatcher.events.filterMap (DispatchEvent.seen owner) =
      later.filterMap (DispatchEvent.seen owner) := by
    rw [queue, List.filterMap_cons_none he]
  change (⟨⟨(Handling.done _).dispatcher.registry.seen, joined, (Handling.done _).dispatcher.running,
      (Handling.done _).dispatcher.events.filterMap _⟩, _, _, _⟩ : Desk Nat) =
    ⟨⟨_, _, _, desk.dispatcher.events.filterMap _⟩, _, _, _⟩
  rw [hqueue, hregistry, hrunning, hevents]
  rfl

/-- A circuit as members see it. -/
def Circuit.seen (owner : Nat → Option Party) (joined : Nat) (c : Circuit Party) : Circuit Nat :=
  ⟨c.desk.seen owner joined, c.wire.plain⟩

end KnxBus
