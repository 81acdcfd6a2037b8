import KnxBus.Proofs.Dispatch.Driver

/-!
# What the operations of a registry come to

Registering and leaving ask for the consent of the medium at some points and not at others, so an
operation can end in several ways.  Here all ends are listed, each with the conditions under which it
is reached, with the commands that were given and with what the medium said to them.  Whoever wants to
know what a registry does looks at these lists and no further.

The commands that a subscription needs and those that its end releases are counterparts.  Both are
about the filter of its address, and whether there is one is a matter of the other subscriptions: a
filter is told to the medium while nobody else needs it (`neededFilter_eq`, `releasedFilter_eq`).
-/

namespace KnxBus

variable {σ : Type}

/-! ## Filters -/

/-- An address that a driver can be told to take frames to. -/
inductive Filter where
  /-- A group. -/
  | group (address : GroupAddress)
  /-- An individual address. -/
  | individual (address : IndividualAddress)
  deriving DecidableEq, Repr

/-- The command to take frames to it. -/
def Filter.add : Filter → Command
  | group g => .addGroup g
  | individual a => .addAddress a

/-- The command to leave them. -/
def Filter.remove : Filter → Command
  | group g => .removeGroup g
  | individual a => .removeAddress a

/-- The filter that a route needs.  Address zero, on either side, needs none. -/
def Route.filter? : Route → Option Filter
  | .broadcast => none
  | .group g => if g.isBroadcast then none else some (.group g)
  | .individual _ destination _ =>
    if destination.isUnset then none else some (.individual destination)

theorem Route.filter?_eq_group {route : Route} {g : GroupAddress} :
    route.filter? = some (.group g) ↔ g.isBroadcast = false ∧ route = .group g := by
  cases route with
  | broadcast => simp [filter?]
  | group g' =>
    by_cases heq : g' = g
    · cases hzero : g.isBroadcast <;> simp [filter?, heq, hzero]
    · cases hzero : g'.isBroadcast <;> simp [filter?, heq, hzero]
  | individual source destination lock =>
    cases hzero : destination.isUnset <;> simp [filter?, hzero]

theorem Route.filter?_eq_individual {route : Route} {a : IndividualAddress} :
    route.filter? = some (.individual a) ↔
      a.isUnset = false ∧ ∃ source lock, route = .individual source a lock := by
  cases route with
  | broadcast => simp [filter?]
  | group g => cases hzero : g.isBroadcast <;> simp [filter?, hzero]
  | individual source destination lock =>
    by_cases heq : destination = a
    · cases hzero : a.isUnset <;> simp [filter?, heq, hzero]
    · cases hzero : destination.isUnset <;> simp [filter?, heq, hzero]

theorem Filter.isFilter_add (f : Filter) : f.add.isFilter = true := by
  cases f <;> rfl

theorem Filter.isFilter_remove (f : Filter) : f.remove.isFilter = true := by
  cases f <;> rfl

/-! ## Subscriptions -/

/-- The peer that a subscription keeps from others. -/
def Subscriber.held? (s : Subscriber σ) : Option IndividualAddress :=
  match s.route with
  | .individual source _ .exclusive => some source
  | _ => none

namespace Registry

variable {r r' : Registry σ}

/-- The numbers of all registrations. -/
def numbers (r : Registry σ) : List Nat := r.subscribers.map (·.id) ++ r.monitors.map (·.id)

/-! ## What is asked of a registry -/

theorem tracksGroup_iff {g : GroupAddress} :
    r.tracksGroup g = true ↔ ∃ s ∈ r.subscribers, s.route = .group g := by
  simp [tracksGroup]

theorem tracksIndividual_iff {a : IndividualAddress} :
    r.tracksIndividual a = true ↔
      ∃ s ∈ r.subscribers, ∃ source lock, s.route = .individual source a lock := by
  rw [tracksIndividual, List.any_eq_true]
  constructor
  · rintro ⟨s, hs, hroute⟩
    split at hroute
    · rename_i source destination lock heq
      exact ⟨s, hs, source, lock, by rw [heq, beq_iff_eq.1 hroute]⟩
    · cases hroute
  · rintro ⟨s, hs, source, lock, heq⟩
    exact ⟨s, hs, by simp [heq]⟩

theorem isHeld_iff {peer : IndividualAddress} :
    r.isHeld peer = true ↔ peer ∈ r.subscribers.filterMap Subscriber.held? := by
  rw [isHeld, List.any_eq_true, List.mem_filterMap]
  refine exists_congr fun s => and_congr_right fun _ => ?_
  unfold Subscriber.held?
  cases s.route with
  | broadcast => simp
  | group g => simp
  | individual source destination lock => cases lock <;> simp

theorem hasMonitor_iff {isVirtual : Bool} :
    r.hasMonitor isVirtual = true ↔ ∃ m ∈ r.monitors, m.isVirtual = isVirtual := by
  simp [hasMonitor]

theorem hasMonitor_addMonitor (r : Registry σ) (m : Monitor σ) (isVirtual : Bool) :
    (r.addMonitor m).hasMonitor isVirtual = (r.hasMonitor isVirtual || m.isVirtual == isVirtual) := by
  simp [hasMonitor, addMonitor]

/-! ## Filters that are shared -/

/-- The filter that a subscription with the given route needs besides those that there are. -/
def neededFilter (r : Registry σ) : Route → List Command
  | .broadcast => []
  | .group g => if g.isBroadcast || r.tracksGroup g then [] else [.addGroup g]
  | .individual _ destination _ =>
    if destination.isUnset || r.tracksIndividual destination then []
    else [.addAddress destination]

/-- Whether some subscription needs a filter. -/
def needs (r : Registry σ) (f : Filter) : Bool :=
  r.subscribers.any fun s => s.route.filter? == some f

theorem needs_iff {f : Filter} :
    r.needs f = true ↔ ∃ s ∈ r.subscribers, s.route.filter? = some f := by
  simp [needs]

theorem needs_group {g : GroupAddress} :
    r.needs (.group g) = (!g.isBroadcast && r.tracksGroup g) := by
  rw [Bool.eq_iff_iff, needs_iff, Bool.and_eq_true, Bool.not_eq_true', tracksGroup_iff]
  constructor
  · rintro ⟨s, hs, hfilter⟩
    obtain ⟨hg, hroute⟩ := Route.filter?_eq_group.1 hfilter
    exact ⟨hg, s, hs, hroute⟩
  · rintro ⟨hg, s, hs, hroute⟩
    exact ⟨s, hs, Route.filter?_eq_group.2 ⟨hg, hroute⟩⟩

theorem needs_individual {a : IndividualAddress} :
    r.needs (.individual a) = (!a.isUnset && r.tracksIndividual a) := by
  rw [Bool.eq_iff_iff, needs_iff, Bool.and_eq_true, Bool.not_eq_true', tracksIndividual_iff]
  constructor
  · rintro ⟨s, hs, hfilter⟩
    obtain ⟨ha, hroute⟩ := Route.filter?_eq_individual.1 hfilter
    exact ⟨ha, s, hs, hroute⟩
  · rintro ⟨ha, s, hs, hroute⟩
    exact ⟨s, hs, Route.filter?_eq_individual.2 ⟨ha, hroute⟩⟩

/-- The filter that a route needs, unless some subscription needs it. -/
def unshared? (r : Registry σ) (route : Route) : Option Filter :=
  match route.filter? with
  | none => none
  | some f => if r.needs f then none else some f

theorem unshared?_eq_some {route : Route} {f : Filter} :
    r.unshared? route = some f ↔ route.filter? = some f ∧ r.needs f = false := by
  unfold unshared?
  cases route.filter? with
  | none => simp
  | some f' =>
    by_cases heq : f' = f
    · cases hneeds : r.needs f <;> simp [heq, hneeds]
    · cases hneeds : r.needs f' <;> simp [heq, hneeds]

theorem needs_of_unshared?_eq_none {route : Route} (h : r.unshared? route = none) {f : Filter}
    (hroute : route.filter? = some f) : r.needs f = true := by
  rw [← Bool.not_eq_false]
  intro hneeds
  rw [unshared?_eq_some.2 ⟨hroute, hneeds⟩] at h
  cases h

theorem neededFilter_eq (r : Registry σ) (route : Route) :
    r.neededFilter route = (r.unshared? route).toList.map Filter.add := by
  cases route with
  | broadcast => rfl
  | group g =>
    cases hg : g.isBroadcast <;> cases htracks : r.tracksGroup g <;>
      simp [neededFilter, unshared?, Route.filter?, needs_group, hg, htracks, Filter.add]
  | individual source destination lock =>
    cases ha : destination.isUnset <;> cases htracks : r.tracksIndividual destination <;>
      simp [neededFilter, unshared?, Route.filter?, needs_individual, ha, htracks, Filter.add]

theorem releasedFilter_eq (r : Registry σ) (route : Route) :
    r.releasedFilter route = (r.unshared? route).toList.map Filter.remove := by
  cases route with
  | broadcast => rfl
  | group g =>
    cases hg : g.isBroadcast <;> cases htracks : r.tracksGroup g <;>
      simp [releasedFilter, unshared?, Route.filter?, needs_group, hg, htracks, Filter.remove]
  | individual source destination lock =>
    cases ha : destination.isUnset <;> cases htracks : r.tracksIndividual destination <;>
      simp [releasedFilter, unshared?, Route.filter?, needs_individual, ha, htracks, Filter.remove]

/-- Registries that differ by one subscription differ by its filter at most. -/
theorem needs_iff_of_split {before after : List (Subscriber σ)} {s : Subscriber σ}
    (there : r.subscribers = before ++ s :: after) (gone : r'.subscribers = before ++ after)
    (f : Filter) : r.needs f = true ↔ r'.needs f = true ∨ s.route.filter? = some f := by
  simp only [needs, there, gone, List.any_append, List.any_cons, Bool.or_eq_true, beq_iff_eq]
  exact or_left_comm.trans or_comm

/-- What a subscription needs is a filter. -/
theorem isFilter_of_mem_neededFilter (r : Registry σ) {route : Route} :
    ∀ c ∈ r.neededFilter route, c.isFilter = true := by
  intro c hc
  rw [neededFilter_eq] at hc
  obtain ⟨f, -, rfl⟩ := List.mem_map.1 hc
  exact f.isFilter_add

/-- What its end releases is a filter. -/
theorem isFilter_of_mem_releasedFilter (r : Registry σ) {route : Route} :
    ∀ c ∈ r.releasedFilter route, c.isFilter = true := by
  intro c hc
  rw [releasedFilter_eq] at hc
  obtain ⟨f, -, rfl⟩ := List.mem_map.1 hc
  exact f.isFilter_remove

/-! ## Subscribing -/

section
variable {verdict : Verdict} {s : Subscriber σ} {done : Registered σ}

/-- How registering for frames can end. -/
inductive Subscribed (verdict : Verdict) (r : Registry σ) (s : Subscriber σ)
    (done : Registered σ) : Prop where
  /-- It is refused before the medium is asked. -/
  | refused (cause : DispatchError) (eq : done = r.refused cause)
  /-- The medium refuses the filter. -/
  | denied (c : Command) (e : LinkError) (needed : r.neededFilter s.route = [c])
      (verdict_eq : verdict c = .error e) (eq : done = ⟨r, [c], .error (.medium e)⟩)
  /-- The subscription is added, and there is a filter for it if it needs one. -/
  | added (apart : r.hasMonitor false = false)
      (free : ∀ peer, s.held? = some peer → r.isHeld peer = false)
      (obeyed : ∀ c ∈ r.neededFilter s.route, verdict c = .ok ())
      (eq : done = ⟨r.add s, r.neededFilter s.route, .ok ()⟩)

/-- Adding a subscription after its only command. -/
theorem subscribed_addAfter {c : Command} (hneeded : r.neededFilter s.route = [c])
    (hapart : r.hasMonitor false = false)
    (hfree : ∀ peer, s.held? = some peer → r.isHeld peer = false) :
    Subscribed verdict r s (addAfter verdict r c s) := by
  unfold addAfter
  split
  · rename_i hok
    refine .added hapart hfree (fun c' hc' => ?_) (by rw [hneeded])
    rw [hneeded, List.mem_singleton] at hc'
    rw [hc', hok]
  · rename_i e herror
    exact .denied c e hneeded herror rfl

/-- Adding a subscription that needs no command. -/
theorem subscribed_add (hneeded : r.neededFilter s.route = [])
    (hapart : r.hasMonitor false = false)
    (hfree : ∀ peer, s.held? = some peer → r.isHeld peer = false) :
    Subscribed verdict r s ⟨r.add s, [], .ok ()⟩ := by
  refine .added hapart hfree (fun c hc => ?_) (by rw [hneeded])
  rw [hneeded] at hc
  exact absurd hc List.not_mem_nil

theorem subscribe_cases (r : Registry σ) (verdict : Verdict) (s : Subscriber σ) :
    Subscribed verdict r s (r.subscribe verdict s) := by
  unfold subscribe
  split
  · exact .refused _ rfl
  · rename_i hmonitor
    have hapart : r.hasMonitor false = false := Bool.eq_false_iff.2 hmonitor
    split
    · rename_i hroute
      exact subscribed_add (by rw [hroute, neededFilter]) hapart
        (fun peer hpeer => by simp [Subscriber.held?, hroute] at hpeer)
    · rename_i g hroute
      have hfree : ∀ peer, s.held? = some peer → r.isHeld peer = false := by
        intro peer hpeer
        simp [Subscriber.held?, hroute] at hpeer
      split
      · rename_i hthere
        exact subscribed_add (by rw [hroute, neededFilter, if_pos hthere]) hapart hfree
      · rename_i hthere
        exact subscribed_addAfter (by rw [hroute, neededFilter, if_neg hthere]) hapart hfree
    · rename_i source destination lock hroute
      split
      · exact .refused _ rfl
      · rename_i hlock
        have hfree : ∀ peer, s.held? = some peer → r.isHeld peer = false := by
          intro peer hpeer
          cases lock with
          | shared => simp [Subscriber.held?, hroute] at hpeer
          | exclusive =>
            simp only [Subscriber.held?, hroute, Option.some_inj] at hpeer
            rw [← hpeer]
            exact Bool.eq_false_iff.2 fun hheld => hlock ⟨rfl, hheld⟩
        split
        · rename_i hthere
          exact subscribed_add (by rw [hroute, neededFilter, if_pos hthere]) hapart hfree
        · rename_i hthere
          exact subscribed_addAfter (by rw [hroute, neededFilter, if_neg hthere]) hapart hfree

end

/-! ## Monitoring -/

/-- How registering for captures can end. -/
inductive Monitored (verdict : Verdict) (r : Registry σ) (m : Monitor σ) (done : Registered σ) :
    Prop where
  /-- It is refused before the medium is asked. -/
  | refused (cause : DispatchError) (eq : done = r.refused cause)
  /-- There is a monitor of the kind already. -/
  | joins (there : r.hasMonitor m.isVirtual = true)
      (apart : m.isVirtual = false → r.subscribers = [])
      (eq : done = ⟨r.addMonitor m, [], .ok ()⟩)
  /-- The medium opens its virtual monitor. -/
  | opensVirtual (isVirtual : m.isVirtual = true)
      (obeyed : verdict .openVirtualMonitor = .ok ())
      (eq : done = ⟨r.addMonitor m, [.openVirtualMonitor], .ok ()⟩)
  /-- The medium does not open it. -/
  | staysWithoutVirtual (e : LinkError) (verdict_eq : verdict .openVirtualMonitor = .error e)
      (eq : done = ⟨r, [.openVirtualMonitor], .error (.medium e)⟩)
  /-- The medium leaves normal operation and enters busmonitor mode. -/
  | takesBus (isReal : m.isVirtual = false) (apart : r.subscribers = [])
      (left : verdict .finish = .ok ()) (entered : verdict .enterBusmonitor = .ok ())
      (eq : done = ⟨r.addMonitor m, [.finish, .enterBusmonitor], .ok ()⟩)
  /-- The medium does not leave normal operation. -/
  | staysNormal (e : LinkError) (verdict_eq : verdict .finish = .error e)
      (eq : done = ⟨r, [.finish], .error (.medium e)⟩)
  /-- The medium does not enter busmonitor mode and is told to return. -/
  | returnsToNormal (e : LinkError) (free : r.hasMonitor false = false)
      (left : verdict .finish = .ok ()) (verdict_eq : verdict .enterBusmonitor = .error e)
      (eq : done = ⟨r, [.finish, .enterBusmonitor, .start], .error (.medium e)⟩)

theorem monitor_cases (r : Registry σ) (verdict : Verdict) (m : Monitor σ) :
    Monitored verdict r m (r.monitor verdict m) := by
  unfold monitor
  split
  · rename_i hvirtual
    split
    · rename_i hthere
      exact .joins (by rw [hvirtual, hthere]) (fun h => by simp [hvirtual] at h) rfl
    · unfold openVirtual
      split
      · rename_i e herror
        exact .staysWithoutVirtual e herror rfl
      · rename_i hok
        exact .opensVirtual hvirtual hok rfl
  · rename_i hreal
    rw [Bool.not_eq_true] at hreal
    split
    · exact .refused _ rfl
    · rename_i hnobody
      have hapart : r.subscribers = [] := by simpa using hnobody
      split
      · rename_i hthere
        exact .joins (by rw [hreal, hthere]) (fun _ => hapart) rfl
      · rename_i hfree
        rw [Bool.not_eq_true] at hfree
        unfold takeBus
        split
        · rename_i e herror
          exact .staysNormal e herror rfl
        · rename_i hleft
          split
          · rename_i e herror
            exact .returnsToNormal e hfree hleft herror rfl
          · rename_i hentered
            exact .takesBus hreal hapart hleft hentered rfl

/-- Monitors come and go without any filter. -/
theorem not_isFilter_of_mem_monitor (r : Registry σ) (verdict : Verdict) (m : Monitor σ) :
    ∀ c ∈ (r.monitor verdict m).commands, c.isFilter = false := by
  cases r.monitor_cases verdict m with
  | refused _ eq | joins _ _ eq | opensVirtual _ _ eq | staysWithoutVirtual _ _ eq
  | takesBus _ _ _ _ eq | staysNormal _ _ eq | returnsToNormal _ _ _ _ eq =>
    rw [eq]
    simp [refused, Command.isFilter]

theorem not_isFilter_of_mem_releasedMode (r : Registry σ) (verdict : Verdict) (isVirtual : Bool) :
    ∀ c ∈ r.releasedMode verdict isVirtual, c.isFilter = false := by
  unfold releasedMode
  split
  · exact fun _ hc => absurd hc List.not_mem_nil
  · split
    · simp [Command.isFilter]
    · split <;> simp [Command.isFilter]

/-- A monitor leaves the subscriptions alone. -/
theorem monitor_subscribers (r : Registry σ) (verdict : Verdict) (m : Monitor σ) :
    (r.monitor verdict m).registry.subscribers = r.subscribers := by
  cases r.monitor_cases verdict m with
  | refused _ eq | joins _ _ eq | opensVirtual _ _ eq | staysWithoutVirtual _ _ eq
  | takesBus _ _ _ _ eq | staysNormal _ _ eq | returnsToNormal _ _ _ _ eq =>
    exact congrArg (·.registry.subscribers) eq

/-! ## Leaving -/

theorem takeOut_eq_some {α : Type} {number : α → Nat} {id : Nat} {all rest : List α} {a : α}
    (h : takeOut number id all = some (a, rest)) :
    number a = id ∧ ∃ before after, all = before ++ a :: after ∧ rest = before ++ after := by
  induction all generalizing rest with
  | nil => cases h
  | cons b later ih =>
    rw [takeOut] at h
    split at h
    · rename_i hb
      cases h
      exact ⟨hb, [], later, rfl, rfl⟩
    · obtain ⟨⟨found, others⟩, hfound, heq⟩ := Option.map_eq_some_iff.1 h
      cases heq
      obtain ⟨hnumber, before, after, hall, hrest⟩ := ih hfound
      exact ⟨hnumber, b :: before, after, by rw [hall]; rfl, by rw [hrest]; rfl⟩

/-- What has been taken out was there. -/
theorem mem_of_takeOut {α : Type} {number : α → Nat} {id : Nat} {all rest : List α} {a : α}
    (h : takeOut number id all = some (a, rest)) : a ∈ all ∧ number a = id := by
  obtain ⟨hid, before, after, rfl, -⟩ := takeOut_eq_some h
  exact ⟨List.mem_append_right before List.mem_cons_self, hid⟩

/-- And so was what is left. -/
theorem sublist_of_takeOut {α : Type} {number : α → Nat} {id : Nat} {all rest : List α} {a : α}
    (h : takeOut number id all = some (a, rest)) : rest.Sublist all := by
  obtain ⟨-, before, after, rfl, rfl⟩ := takeOut_eq_some h
  exact (List.sublist_cons_self a after).append_left before

theorem takeOut_eq_none {α : Type} {number : α → Nat} {id : Nat} {all : List α}
    (h : takeOut number id all = none) : ∀ a ∈ all, number a ≠ id := by
  induction all with
  | nil => simp
  | cons b later ih =>
    rw [takeOut] at h
    split at h
    · cases h
    · rename_i hb
      rintro a (_ | ⟨_, ha⟩)
      · exact hb
      · exact ih (Option.map_eq_none_iff.1 h) a ha

/-- How leaving can end: with the registry afterwards and the commands that were given. -/
inductive Left (verdict : Verdict) (r : Registry σ) (id : Nat) (done : Registry σ × List Command) :
    Prop where
  /-- A subscription is gone. -/
  | unsubscribed (before after : List (Subscriber σ)) (gone : Subscriber σ)
      (id_eq : gone.id = id) (there : r.subscribers = before ++ gone :: after)
      (registry_eq : done.1 = { r with subscribers := before ++ after })
      (commands_eq : done.2 = done.1.releasedFilter gone.route)
  /-- A monitor is gone. -/
  | unmonitored (before after : List (Monitor σ)) (gone : Monitor σ)
      (id_eq : gone.id = id) (there : r.monitors = before ++ gone :: after)
      (others : ∀ s ∈ r.subscribers, s.id ≠ id)
      (registry_eq : done.1 = { r with monitors := before ++ after })
      (commands_eq : done.2 = done.1.releasedMode verdict gone.isVirtual)
  /-- There was nothing of that number. -/
  | unknown (others : ∀ s ∈ r.subscribers, s.id ≠ id) (eq : done = (r, []))

theorem unsubscribe_cases (r : Registry σ) (verdict : Verdict) (id : Nat) :
    Left verdict r id (r.unsubscribe verdict id) := by
  unfold unsubscribe
  split
  · rename_i gone others hsome
    obtain ⟨hid, before, after, hall, hothers⟩ := takeOut_eq_some hsome
    exact .unsubscribed before after gone hid hall (by rw [hothers]) rfl
  · rename_i hnone
    split
    · rename_i gone others hsome
      obtain ⟨hid, before, after, hall, hothers⟩ := takeOut_eq_some hsome
      exact .unmonitored before after gone hid hall (takeOut_eq_none hnone) (by rw [hothers]) rfl
    · exact .unknown (takeOut_eq_none hnone) rfl

/-! ## Numbers -/

/-- A subscription takes at most the number that it comes with. -/
theorem subscribe_numbers (verdict : Verdict) (r : Registry σ) (s : Subscriber σ) (n : Nat) :
    (r.subscribe verdict s).registry.numbers.count n ≤ r.numbers.count n + [s.id].count n := by
  obtain ⟨cause, eq⟩ | ⟨c, e, -, -, eq⟩ | ⟨-, -, -, eq⟩ := r.subscribe_cases verdict s
  · rw [eq]
    exact Nat.le_add_right _ _
  · rw [eq]
    exact Nat.le_add_right _ _
  · rw [eq]
    simp only [numbers, add, List.map_append, List.count_append, List.map_singleton]
    omega

/-- Adding a monitor takes its number. -/
theorem addMonitor_numbers (r : Registry σ) (m : Monitor σ) (n : Nat) :
    (r.addMonitor m).numbers.count n = r.numbers.count n + [m.id].count n := by
  simp only [numbers, addMonitor, List.map_append, List.count_append, List.map_singleton]
  omega

/-- A monitor takes at most the number that it comes with. -/
theorem monitor_numbers (verdict : Verdict) (r : Registry σ) (m : Monitor σ) (n : Nat) :
    (r.monitor verdict m).registry.numbers.count n ≤ r.numbers.count n + [m.id].count n := by
  have hadded := Nat.le_of_eq (addMonitor_numbers r m n)
  have hkept : r.numbers.count n ≤ r.numbers.count n + [m.id].count n := Nat.le_add_right _ _
  cases r.monitor_cases verdict m with
  | refused _ eq | staysWithoutVirtual _ _ eq | staysNormal _ _ eq | returnsToNormal _ _ _ _ eq =>
    rw [eq]
    exact hkept
  | joins _ _ eq | opensVirtual _ _ eq | takesBus _ _ _ _ eq =>
    rw [eq]
    exact hadded

/-- Leaving takes no number. -/
theorem unsubscribe_numbers (verdict : Verdict) (r : Registry σ) (id n : Nat) :
    (r.unsubscribe verdict id).1.numbers.count n ≤ r.numbers.count n := by
  cases r.unsubscribe_cases verdict id with
  | unsubscribed before after gone _ there registry_eq _ =>
    rw [registry_eq]
    simp only [numbers, there, List.map_append, List.map_cons, List.count_append, List.count_cons]
    omega
  | unmonitored before after gone _ there _ registry_eq _ =>
    rw [registry_eq]
    simp only [numbers, there, List.map_append, List.map_cons, List.count_append, List.count_cons]
    omega
  | unknown _ eq => exact Nat.le_of_eq (congrArg (·.1.numbers.count n) eq)

end Registry
end KnxBus
