import KnxBus.Proofs.Dispatch.Assembly

/-!
# What members see of a registry

To members onlookers do not exist, nor do the numbers that the desk gives out.  What is left of a
registry when these are taken away, with members under their names, is what members *see*
(`Registry.seen`).

What is asked of a registry on behalf of a member has the same outcome there, and what is asked on
behalf of an onlooker does not change it.  This rests on one property of registries: nobody but an
onlooker is a virtual monitor (`Registry.Suited`), so every question that a registry asks about
subscribers and real monitors has the same answer without them.
-/

namespace KnxBus

/-! ## What members see of a registry -/

/-- A subscription under the name of its member. -/
def Subscriber.seen (s : Subscriber Party) : Option (Subscriber Nat) :=
  s.sink.name?.map fun name => ⟨name, s.route, name⟩

/-- A monitor under the name of its member. -/
def Monitor.seen (m : Monitor Party) : Option (Monitor Nat) :=
  m.sink.name?.map fun name => ⟨name, m.isVirtual, name⟩

/-- A request under the name of its member. -/
def Request.seen : Request Party → Option (Nat × Request Nat)
  | .frames route party => party.name?.map fun name => (name, .frames route name)
  | .captures isVirtual party => party.name?.map fun name => (name, .captures isVirtual name)

theorem Subscriber.seen_eq_some {s : Subscriber Party} {t : Subscriber Nat} :
    s.seen = some t ↔ ∃ name, s.sink = .member name ∧ t = ⟨name, s.route, name⟩ := by
  obtain ⟨id, route, party⟩ := s
  cases party <;> simp [seen, Party.name?, eq_comm]

theorem Monitor.seen_eq_some {m : Monitor Party} {t : Monitor Nat} :
    m.seen = some t ↔ ∃ name, m.sink = .member name ∧ t = ⟨name, m.isVirtual, name⟩ := by
  obtain ⟨id, isVirtual, party⟩ := m
  cases party <;> simp [seen, Party.name?, eq_comm]

/-- Whether frames of a route go to an individual address. -/
def Route.leadsTo (a : IndividualAddress) : Route → Bool
  | .individual _ destination _ => destination == a
  | _ => false

/-- Whether a route holds a peer. -/
def Route.holds (peer : IndividualAddress) : Route → Bool
  | .individual source _ .exclusive => source == peer
  | _ => false

namespace Registry

/-- The registrations of members. -/
def seen (r : Registry Party) : Registry Nat :=
  ⟨r.subscribers.filterMap Subscriber.seen, r.monitors.filterMap Monitor.seen⟩

/-- Members are subscribers and real monitors, onlookers are virtual monitors. -/
structure Suited (r : Registry Party) : Prop where
  /-- No subscriber is an onlooker. -/
  subscribers : ∀ s ∈ r.subscribers, s.sink.isOnlooker = false
  /-- The virtual monitors are the onlookers. -/
  monitors : ∀ m ∈ r.monitors, m.isVirtual = m.sink.isOnlooker

variable {r : Registry Party}

/-- Members see all subscriptions. -/
theorem any_seen {subscribers : List (Subscriber Party)}
    (h : ∀ s ∈ subscribers, s.sink.isOnlooker = false) (wanted : Route → Bool) :
    ((subscribers.filterMap Subscriber.seen).any fun s => wanted s.route) =
      subscribers.any fun s => wanted s.route := by
  induction subscribers with
  | nil => rfl
  | cons s later ih =>
    have hlater := ih fun s' hs' => h s' (List.mem_cons_of_mem s hs')
    obtain ⟨id, route, party⟩ := s
    cases party with
    | member name => exact congrArg (wanted route || ·) hlater
    | onlooker name => cases h _ List.mem_cons_self

theorem Suited.tracksGroup_seen (h : r.Suited) (g : GroupAddress) :
    r.seen.tracksGroup g = r.tracksGroup g :=
  any_seen h.subscribers fun route => route == .group g

theorem Suited.tracksIndividual_seen (h : r.Suited) (a : IndividualAddress) :
    r.seen.tracksIndividual a = r.tracksIndividual a :=
  any_seen h.subscribers (·.leadsTo a)

theorem Suited.isHeld_seen (h : r.Suited) (peer : IndividualAddress) :
    r.seen.isHeld peer = r.isHeld peer :=
  any_seen h.subscribers (·.holds peer)

theorem Suited.isEmpty_seen (h : r.Suited) :
    r.seen.subscribers.isEmpty = r.subscribers.isEmpty := by
  have hany := any_seen h.subscribers fun _ => true
  change (r.seen.subscribers.any fun _ => true) = _ at hany
  cases hseen : r.seen.subscribers <;> cases hthere : r.subscribers <;>
    simp_all

/-- And all real monitors. -/
theorem Suited.hasMonitor_seen (h : r.Suited) : r.seen.hasMonitor false = r.hasMonitor false := by
  obtain ⟨subscribers, monitors⟩ := r
  have hmonitors : ∀ m ∈ monitors, m.isVirtual = m.sink.isOnlooker := h.monitors
  clear h
  change ((monitors.filterMap Monitor.seen).any fun m => m.isVirtual == false) =
    monitors.any fun m => m.isVirtual == false
  induction monitors with
  | nil => rfl
  | cons m later ih =>
    have hlater := ih fun m' hm' => hmonitors m' (List.mem_cons_of_mem m hm')
    have hm := hmonitors m List.mem_cons_self
    obtain ⟨id, isVirtual, party⟩ := m
    cases party with
    | member name => exact congrArg (isVirtual == false || ·) hlater
    | onlooker name =>
      obtain rfl : isVirtual = true := hm
      exact hlater

theorem add_seen (r : Registry Party) {s : Subscriber Party} {t : Subscriber Nat}
    (hs : s.seen = some t) : (r.add s).seen = r.seen.add t := by
  simp [Registry.seen, Registry.add, hs]

theorem addMonitor_seen (r : Registry Party) {m : Monitor Party} {t : Monitor Nat}
    (hm : m.seen = some t) : (r.addMonitor m).seen = r.seen.addMonitor t := by
  simp [Registry.seen, Registry.addMonitor, hm]

end Registry

/-- An operation as members see it. -/
def Registered.seen (done : Registered Party) : Registered Nat :=
  ⟨done.registry.seen, done.commands, done.result⟩

namespace Registry

variable {r : Registry Party}

theorem addAfter_seen (verdict : Verdict) (r : Registry Party) (c : Command) {s : Subscriber Party}
    {t : Subscriber Nat} (hs : s.seen = some t) :
    r.seen.addAfter verdict c t = (r.addAfter verdict c s).seen := by
  unfold addAfter
  split
  · exact congrArg (Registered.mk · _ _) (r.add_seen hs).symm
  · rfl

/-- A member that subscribes gets the same answer whether there are onlookers or not. -/
theorem Suited.subscribe_seen (h : r.Suited) (verdict : Verdict) {s : Subscriber Party}
    {t : Subscriber Nat} (hs : s.seen = some t) :
    r.seen.subscribe verdict t = (r.subscribe verdict s).seen := by
  have hroute : t.route = s.route := by
    obtain ⟨name, -, rfl⟩ := Subscriber.seen_eq_some.1 hs
    rfl
  have hadd : (⟨r.seen.add t, [], .ok ()⟩ : Registered Nat) = Registered.seen ⟨r.add s, [], .ok ()⟩ :=
    congrArg (Registered.mk · _ _) (r.add_seen hs).symm
  unfold subscribe
  rw [h.hasMonitor_seen, hroute]
  split
  · rfl
  · cases s.route with
    | broadcast => exact hadd
    | group g =>
      simp only [h.tracksGroup_seen]
      split
      · exact hadd
      · exact addAfter_seen verdict r _ hs
    | individual source destination lock =>
      simp only [h.isHeld_seen, h.tracksIndividual_seen]
      split
      · rfl
      · split
        · exact hadd
        · exact addAfter_seen verdict r _ hs

/-- So does a member that wants the bus. -/
theorem Suited.monitor_seen (h : r.Suited) (verdict : Verdict) {m : Monitor Party} {t : Monitor Nat}
    (hreal : m.isVirtual = false) (hm : m.seen = some t) :
    r.seen.monitor verdict t = (r.monitor verdict m).seen := by
  have hreal' : t.isVirtual = false := by
    obtain ⟨name, -, rfl⟩ := Monitor.seen_eq_some.1 hm
    exact hreal
  have hadd (commands : List Command) : (⟨r.seen.addMonitor t, commands, .ok ()⟩ : Registered Nat) =
      Registered.seen ⟨r.addMonitor m, commands, .ok ()⟩ :=
    congrArg (Registered.mk · _ _) (r.addMonitor_seen hm).symm
  unfold monitor
  rw [hreal, hreal', h.hasMonitor_seen, h.isEmpty_seen]
  simp only [Bool.false_eq_true, if_false]
  split
  · rfl
  · split
    · exact hadd []
    · unfold takeBus
      split
      · rfl
      · split
        · rfl
        · exact hadd _

/-- An onlooker that comes is not seen; it makes the medium open its virtual monitor at most. -/
theorem monitor_unseen (verdict : Verdict) (r : Registry Party) {m : Monitor Party}
    (hvirtual : m.isVirtual = true) (hm : m.seen = none) :
    (r.monitor verdict m).registry.seen = r.seen ∧
      ∀ c ∈ (r.monitor verdict m).commands, c = .openVirtualMonitor := by
  have hadd : (r.addMonitor m).seen = r.seen := by
    simp [Registry.seen, addMonitor, hm]
  unfold monitor
  rw [if_pos hvirtual]
  split
  · exact ⟨hadd, fun c hc => absurd hc List.not_mem_nil⟩
  · unfold openVirtual
    split
    · exact ⟨rfl, fun c hc => List.mem_singleton.1 hc⟩
    · exact ⟨hadd, fun c hc => List.mem_singleton.1 hc⟩

/-! ## Leaving -/

/-- Taking out an element by its number and by another one that tells it apart as well. -/
theorem takeOut_filterMap {α β : Type} {f : α → Option β} {number : α → Nat} {number' : β → Nat}
    {id id' : Nat} {all : List α}
    (hkept : ∀ a ∈ all, ∀ b, f a = some b → (number' b = id' ↔ number a = id))
    (hgone : ∀ a ∈ all, f a = none → number a ≠ id) :
    takeOut number' id' (all.filterMap f) =
      (takeOut number id all).bind fun found =>
        (f found.1).map fun b => (b, found.2.filterMap f) := by
  induction all with
  | nil => rfl
  | cons a later ih =>
    have hlater := ih (fun a' ha' => hkept a' (List.mem_cons_of_mem a ha'))
      fun a' ha' => hgone a' (List.mem_cons_of_mem a ha')
    cases hf : f a with
    | none =>
      have hne := hgone a List.mem_cons_self hf
      rw [List.filterMap_cons_none hf, hlater, takeOut, if_neg hne]
      cases takeOut number id later with
      | none => rfl
      | some found => simp [hf]
    | some b =>
      have hiff := hkept a List.mem_cons_self b hf
      rw [List.filterMap_cons_some hf, takeOut, takeOut]
      by_cases hid : number a = id
      · rw [if_pos hid, if_pos (hiff.2 hid)]
        simp [hf]
      · rw [if_neg hid, if_neg fun h => hid (hiff.1 h), hlater]
        cases takeOut number id later with
        | none => rfl
        | some found =>
          cases hfound : f found.1 <;> simp [hf, hfound]

/-- Taking out an element that is not seen is not seen. -/
theorem filterMap_takeOut {α β : Type} {f : α → Option β} {number : α → Nat} {id : Nat}
    {all others : List α} {a : α} (h : takeOut number id all = some (a, others)) (ha : f a = none) :
    others.filterMap f = all.filterMap f := by
  obtain ⟨-, before, after, rfl, rfl⟩ := takeOut_eq_some h
  simp [ha]

theorem Suited.releasedFilter_seen (h : r.Suited) (route : Route) :
    r.seen.releasedFilter route = r.releasedFilter route := by
  cases route with
  | broadcast => rfl
  | group g => simp only [releasedFilter, h.tracksGroup_seen]
  | individual source destination lock => simp only [releasedFilter, h.tracksIndividual_seen]

theorem Suited.releasedMode_seen (h : r.Suited) (verdict : Verdict) :
    r.seen.releasedMode verdict false = r.releasedMode verdict false := by
  simp only [releasedMode, h.hasMonitor_seen]

theorem Suited.of_sublist (h : r.Suited) {r' : Registry Party}
    (hsubscribers : r'.subscribers.Sublist r.subscribers)
    (hmonitors : r'.monitors.Sublist r.monitors) : r'.Suited :=
  ⟨fun s hs => h.subscribers s (hsubscribers.subset hs),
    fun m hm => h.monitors m (hmonitors.subset hm)⟩

/-- A member leaves the same filters and the same mode behind. -/
theorem Suited.unsubscribe_seen (h : r.Suited) (verdict : Verdict) {id name : Nat}
    (hsubscribers : ∀ s ∈ r.subscribers, s.sink = .member name ↔ s.id = id)
    (hmonitors : ∀ m ∈ r.monitors, m.sink = .member name ↔ m.id = id) :
    r.seen.unsubscribe verdict name =
      ((r.unsubscribe verdict id).1.seen, (r.unsubscribe verdict id).2) := by
  have hsubscribed : takeOut Subscriber.id name r.seen.subscribers =
      (takeOut Subscriber.id id r.subscribers).bind fun found =>
        found.1.seen.map fun t => (t, found.2.filterMap Subscriber.seen) := by
    refine takeOut_filterMap (fun s hs t ht => ?_) fun s hs hnone hid => ?_
    · obtain ⟨other, hsink, rfl⟩ := Subscriber.seen_eq_some.1 ht
      rw [← hsubscribers s hs, hsink, Party.member.injEq]
    · rw [Subscriber.seen_eq_some.2 ⟨name, (hsubscribers s hs).2 hid, rfl⟩] at hnone
      cases hnone
  have hmonitored : takeOut Monitor.id name r.seen.monitors =
      (takeOut Monitor.id id r.monitors).bind fun found =>
        found.1.seen.map fun t => (t, found.2.filterMap Monitor.seen) := by
    refine takeOut_filterMap (fun m hm t ht => ?_) fun m hm hnone hid => ?_
    · obtain ⟨other, hsink, rfl⟩ := Monitor.seen_eq_some.1 ht
      rw [← hmonitors m hm, hsink, Party.member.injEq]
    · rw [Monitor.seen_eq_some.2 ⟨name, (hmonitors m hm).2 hid, rfl⟩] at hnone
      cases hnone
  unfold unsubscribe
  rw [hsubscribed]
  cases htaken : takeOut Subscriber.id id r.subscribers with
  | some found =>
    obtain ⟨gone, others⟩ := found
    obtain ⟨hthere, hid⟩ := mem_of_takeOut htaken
    have hseen := Subscriber.seen_eq_some.2 ⟨name, (hsubscribers gone hthere).2 hid, rfl⟩
    have hrest : Suited ⟨others, r.monitors⟩ :=
      h.of_sublist (sublist_of_takeOut htaken) (List.Sublist.refl _)
    simp only [Option.bind_some, hseen, Option.map_some]
    exact congrArg (Prod.mk _) (hrest.releasedFilter_seen gone.route)
  | none =>
    simp only [Option.bind_none, hmonitored]
    cases htaken' : takeOut Monitor.id id r.monitors with
    | some found =>
      obtain ⟨gone, others⟩ := found
      obtain ⟨hthere, hid⟩ := mem_of_takeOut htaken'
      have hsink := (hmonitors gone hthere).2 hid
      have hreal : gone.isVirtual = false := by
        rw [h.monitors gone hthere, hsink]
        rfl
      have hseen := Monitor.seen_eq_some.2 ⟨name, hsink, rfl⟩
      have hrest : Suited ⟨r.subscribers, others⟩ :=
        h.of_sublist (List.Sublist.refl _) (sublist_of_takeOut htaken')
      simp only [Option.bind_some, hseen, Option.map_some, hreal]
      exact congrArg (Prod.mk _) (hrest.releasedMode_seen verdict)
    | none => rfl

/-- An onlooker that leaves is not seen; it makes the medium close its virtual monitor at most. -/
theorem unsubscribe_unseen (verdict : Verdict) (r : Registry Party) (id : Nat)
    (hsubscribers : ∀ s ∈ r.subscribers, s.id ≠ id)
    (hmonitors : ∀ m ∈ r.monitors, m.id = id → m.seen = none ∧ m.isVirtual = true) :
    (r.unsubscribe verdict id).1.seen = r.seen ∧
      ∀ c ∈ (r.unsubscribe verdict id).2, c = .closeVirtualMonitor := by
  cases r.unsubscribe_cases verdict id with
  | unsubscribed before after gone id_eq there _ _ =>
    exact absurd id_eq (hsubscribers gone (there ▸ List.mem_append_right before List.mem_cons_self))
  | unmonitored before after gone id_eq there _ registry_eq commands_eq =>
    obtain ⟨hunseen, hvirtual⟩ :=
      hmonitors gone (there ▸ List.mem_append_right before List.mem_cons_self) id_eq
    refine ⟨?_, ?_⟩
    · rw [registry_eq]
      simp [seen, there, hunseen]
    · rw [commands_eq, hvirtual]
      unfold releasedMode
      split
      · nofun
      · exact fun c hc => List.mem_singleton.1 hc
  | unknown _ eq =>
    rw [eq]
    exact ⟨rfl, nofun⟩

/-! ## Dispatching -/

/-- Members are handed the same frames. -/
theorem handed_seen (accepted : Route → Bool) (frame : Frame) (subscribers : List (Subscriber Party)) :
    (((subscribers.filterMap Subscriber.seen).filter fun s => accepted s.route).map
        fun s => (s.sink, Handed.frame frame)).filterMap (Handed.tiding? some) =
      ((subscribers.filter fun s => accepted s.route).map
        fun s => (s.sink, Handed.frame frame)).filterMap (Handed.tiding? Party.name?) := by
  induction subscribers with
  | nil => rfl
  | cons s later ih =>
    obtain ⟨id, route, party⟩ := s
    have hhead : Subscriber.seen ⟨id, route, party⟩ =
      party.name?.map fun name => ⟨name, route, name⟩ := rfl
    cases party <;> cases haccepted : accepted route <;>
      simp only [List.filterMap_cons, List.filter_cons, List.map_cons, hhead, haccepted, ih,
        Party.name?, Handed.tiding?, Option.map_some, Option.map_none, if_true, if_false,
        Bool.false_eq_true]

theorem dispatch_seen (r : Registry Party) (own : IndividualAddress) (item : Lpdu) :
    (r.seen.dispatch own item).filterMap (Handed.tiding? some) =
      (r.dispatch own item).filterMap (Handed.tiding? Party.name?) := by
  cases item with
  | data frame =>
    exact handed_seen (fun route => route.accepts (frame.seenFrom own)) _ r.subscribers
  | capture raw =>
    unfold dispatch
    rw [List.filterMap_map, List.filterMap_map]
    exact (List.filterMap_eq_nil_iff.2 fun _ _ => rfl).trans
      (List.filterMap_eq_nil_iff.2 fun _ _ => rfl).symm
  | _ => rfl

/-- The news of a loss is no tiding of its own. -/
theorem announceLoss_tidings {σ : Type} (name? : σ → Option Nat) (r : Registry σ) :
    r.announceLoss.filterMap (Handed.tiding? name?) = [] := by
  refine List.filterMap_eq_nil_iff.2 fun x hx => ?_
  obtain hx | hx := List.mem_append.1 hx <;> obtain ⟨_, -, rfl⟩ := List.mem_map.1 hx <;> rfl

end Registry

end KnxBus
