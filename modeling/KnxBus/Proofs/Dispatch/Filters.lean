import KnxBus.Proofs.Dispatch.Desk

/-!
# Address filters

A driver takes frames to those groups and individual addresses that it has been told to take, and
the registry tells it those that somebody subscribes to.  Subscriptions share filters: two of them to
one group need one filter, and so do two to one individual address, whatever their senders and locks.
Group zero and address zero need none.  Nobody counts how many share a filter; the registry looks
through its list before it adds a subscription and after it has taken one out.

The main statement is `Desk.filters_mirror`: as long as the driver obeys when a filter is to be
removed, its filters are exactly the addresses of the subscriptions, whichever filters it refuses to
add; and no filter is added twice, removed without being there, or removed while somebody needs it.

## The argument

What a group filter and an individual filter have to do with registry and driver is the same, so
both are one kind of thing (`Filter`).  A route needs one filter or none.  The invariant
(`Driver.Mirrors`) says that the driver takes a filter exactly if some subscription needs it.  Adding
and taking out a subscription are then two sides of one fact: registries that differ by it differ by
its filter at most, and they do if nobody else needs it, which is when there is a command.
-/

namespace KnxBus

variable {σ : Type}

/-! ## Filters of a driver -/

/-- A driver that obeys when a filter is to be removed. -/
def Verdict.Releasing (verdict : Verdict) : Prop := ∀ f : Filter, verdict f.remove = .ok ()

namespace Driver

variable {r r' : Registry σ} {d : Driver} {verdict : Verdict}

/-- The driver takes frames to an address. -/
def Takes (d : Driver) : Filter → Prop
  | .group g => g ∈ d.groups
  | .individual a => a ∈ d.addresses

theorem takes_add {f f' : Filter} : (d.obey f.add).Takes f' ↔ f' = f ∨ d.Takes f' := by
  cases f <;> cases f' <;> simp [Takes, obey, Filter.add]

theorem takes_remove {f f' : Filter} : (d.obey f.remove).Takes f' ↔ d.Takes f' ∧ f' ≠ f := by
  cases f <;> cases f' <;> simp [Takes, obey, Filter.remove]

/-- The driver takes exactly the filters that some subscription needs. -/
def Mirrors (d : Driver) (r : Registry σ) : Prop := ∀ f, d.Takes f ↔ r.needs f = true

/-- A command about a filter is in place: what is added is not there, and what is removed is there
and needed by nobody who stays. -/
def Fits (d : Driver) (staying : Registry σ) : Command → Prop
  | .addGroup g => g ∉ d.groups
  | .addAddress a => a ∉ d.addresses
  | .removeGroup g => g ∈ d.groups ∧ staying.tracksGroup g = false
  | .removeAddress a => a ∈ d.addresses ∧ staying.tracksIndividual a = false
  | _ => True

theorem opened_mirrors : opened.Mirrors (.empty : Registry σ) := by
  intro f
  cases f <;> simp [opened, Takes, Registry.needs, Registry.empty]

/-- A subscription is added, with its filter if nobody else needs it. -/
theorem Mirrors.add (h : d.Mirrors r) {s : Subscriber σ}
    (obeyed : ∀ c ∈ r.neededFilter s.route, verdict c = .ok ()) :
    (d.giveAll verdict (r.neededFilter s.route)).Mirrors (r.add s) := by
  intro f'
  have hsplit : (r.add s).needs f' = true ↔ r.needs f' = true ∨ s.route.filter? = some f' :=
    Registry.needs_iff_of_split rfl (List.append_nil _).symm f'
  rw [hsplit, ← h f']
  cases hunshared : r.unshared? s.route with
  | none =>
    have hthere : s.route.filter? = some f' → d.Takes f' := fun hroute =>
      (h f').2 (Registry.needs_of_unshared?_eq_none hunshared hroute)
    have hcommands : r.neededFilter s.route = [] := by rw [Registry.neededFilter_eq, hunshared]; rfl
    rw [hcommands, giveAll_nil, or_iff_left_of_imp hthere]
  | some f =>
    have hcommands : r.neededFilter s.route = [f.add] := by
      rw [Registry.neededFilter_eq, hunshared]
      rfl
    have hok : verdict f.add = .ok () := obeyed f.add (hcommands ▸ List.mem_singleton_self _)
    rw [hcommands, giveAll_cons, give_of_ok hok, giveAll_nil, takes_add,
      (Registry.unshared?_eq_some.1 hunshared).1, Option.some_inj, or_comm, eq_comm]

/-- A subscription is taken out, and its filter with it if nobody else needs it. -/
theorem Mirrors.remove (h : d.Mirrors r) {before after : List (Subscriber σ)} {s : Subscriber σ}
    (there : r.subscribers = before ++ s :: after) (gone : r'.subscribers = before ++ after)
    (obeyed : ∀ c ∈ r'.releasedFilter s.route, verdict c = .ok ()) :
    (d.giveAll verdict (r'.releasedFilter s.route)).Mirrors r' := by
  intro f'
  have hsplit := (h f').trans (Registry.needs_iff_of_split there gone f')
  cases hunshared : r'.unshared? s.route with
  | none =>
    have hcommands : r'.releasedFilter s.route = [] := by
      rw [Registry.releasedFilter_eq, hunshared]
      rfl
    have hkept : s.route.filter? = some f' → r'.needs f' = true :=
      Registry.needs_of_unshared?_eq_none hunshared
    rw [hcommands, giveAll_nil, hsplit, or_iff_left_of_imp hkept]
  | some f =>
    obtain ⟨hroute, hneeds⟩ := Registry.unshared?_eq_some.1 hunshared
    have hcommands : r'.releasedFilter s.route = [f.remove] := by
      rw [Registry.releasedFilter_eq, hunshared]
      rfl
    have hok : verdict f.remove = .ok () := obeyed f.remove (hcommands ▸ List.mem_singleton_self _)
    have hother : r'.needs f' = true → f' ≠ f := fun hneeded heq => by
      rw [← heq, hneeded] at hneeds
      cases hneeds
    rw [hcommands, giveAll_cons, give_of_ok hok, giveAll_nil, takes_remove, hsplit, hroute,
      Option.some_inj]
    exact ⟨fun ⟨hold, hne⟩ => hold.resolve_right hne.symm, fun hnew => ⟨.inl hnew, hother hnew⟩⟩

/-- Monitors have nothing to do with it. -/
theorem Mirrors.modes (h : d.Mirrors r) {cs : List Command} (hcs : ∀ c ∈ cs, c.isFilter = false)
    (hsubscribers : r'.subscribers = r.subscribers) : (d.giveAll verdict cs).Mirrors r' := by
  obtain ⟨hgroups, haddresses⟩ := giveAll_filters d verdict hcs
  intro f
  have hneeds : r'.needs f = r.needs f := by rw [Registry.needs, hsubscribers, Registry.needs]
  rw [hneeds, ← h f]
  cases f with
  | group g => rw [Takes, hgroups, Takes]
  | individual a => rw [Takes, haddresses, Takes]

theorem Mirrors.mem_groups (h : d.Mirrors r) (g : GroupAddress) :
    g ∈ d.groups ↔ g.isBroadcast = false ∧ ∃ s ∈ r.subscribers, s.route = .group g := by
  have hneeds := h (.group g)
  rw [Registry.needs_group, Bool.and_eq_true, Bool.not_eq_true', Registry.tracksGroup_iff] at hneeds
  exact hneeds

theorem Mirrors.mem_addresses (h : d.Mirrors r) (a : IndividualAddress) :
    a ∈ d.addresses ↔ a.isUnset = false ∧
      ∃ s ∈ r.subscribers, ∃ source lock, s.route = .individual source a lock := by
  have hneeds := h (.individual a)
  rw [Registry.needs_individual, Bool.and_eq_true, Bool.not_eq_true',
    Registry.tracksIndividual_iff] at hneeds
  exact hneeds

/-! ## Commands in place -/

/-- Commands are in place, each at the time when it is given. -/
def AllFit (verdict : Verdict) (staying : Registry σ) (d : Driver) (cs : List Command) : Prop :=
  ∀ earlier c later, cs = earlier ++ c :: later → (d.giveAll verdict earlier).Fits staying c

theorem allFit_nil : d.AllFit verdict r [] := by
  intro earlier c later heq
  exact absurd heq.symm (List.append_ne_nil_of_right_ne_nil earlier (List.cons_ne_nil c later))

theorem allFit_singleton {c : Command} (h : d.Fits r c) : d.AllFit verdict r [c] := by
  intro earlier c' later heq
  obtain ⟨hearlier, heq⟩ | ⟨-, heq⟩ := List.singleton_eq_append_iff.1 heq
  · cases heq
    rw [hearlier]
    exact h
  · cases heq

/-- Commands that are not about filters are always in place. -/
theorem allFit_modes {cs : List Command} (hcs : ∀ c ∈ cs, c.isFilter = false) :
    d.AllFit verdict r cs := by
  intro earlier c later heq
  have hc := hcs c (heq ▸ List.mem_append_right earlier List.mem_cons_self)
  cases c <;> trivial

/-- What is added is not there, because nobody needs it. -/
theorem Mirrors.needed_allFit (h : d.Mirrors r) (route : Route) :
    d.AllFit verdict r' (r.neededFilter route) := by
  rw [Registry.neededFilter_eq]
  cases hunshared : r.unshared? route with
  | none => exact allFit_nil
  | some f =>
    refine allFit_singleton ?_
    have hnot : ¬ d.Takes f := by
      rw [h f, (Registry.unshared?_eq_some.1 hunshared).2]
      exact Bool.false_ne_true
    cases f <;> exact hnot

/-- What is removed is there, because somebody needed it, and he was the last. -/
theorem Mirrors.released_allFit (h : d.Mirrors r) {before after : List (Subscriber σ)}
    {s : Subscriber σ} (there : r.subscribers = before ++ s :: after)
    (gone : r'.subscribers = before ++ after) :
    d.AllFit verdict r' (r'.releasedFilter s.route) := by
  rw [Registry.releasedFilter_eq]
  cases hunshared : r'.unshared? s.route with
  | none => exact allFit_nil
  | some f =>
    obtain ⟨hroute, hneeds⟩ := Registry.unshared?_eq_some.1 hunshared
    have htaken : d.Takes f := by
      rw [h f, Registry.needs_iff_of_split there gone]
      exact .inr hroute
    refine allFit_singleton ?_
    cases f with
    | group g =>
      have hg := (Route.filter?_eq_group.1 hroute).1
      rw [Registry.needs_group, hg] at hneeds
      exact ⟨htaken, hneeds⟩
    | individual a =>
      have ha := (Route.filter?_eq_individual.1 hroute).1
      rw [Registry.needs_individual, ha] at hneeds
      exact ⟨htaken, hneeds⟩

/-! ## What operations keep -/

theorem Mirrors.subscribe (h : d.Mirrors r) (verdict : Verdict) (s : Subscriber σ) :
    (d.giveAll verdict (r.subscribe verdict s).commands).Mirrors
        (r.subscribe verdict s).registry ∧
      d.AllFit verdict (r.subscribe verdict s).registry (r.subscribe verdict s).commands := by
  obtain ⟨cause, eq⟩ | ⟨c, e, needed, refused, eq⟩ | ⟨-, -, obeyed, eq⟩ :=
    r.subscribe_cases verdict s
  · rw [eq]
    exact ⟨h, allFit_nil⟩
  · rw [eq]
    refine ⟨?_, needed ▸ h.needed_allFit s.route⟩
    rw [giveAll_cons, give_of_error refused, giveAll_nil]
    exact h
  · rw [eq]
    exact ⟨h.add obeyed, h.needed_allFit s.route⟩

theorem Mirrors.monitor (h : d.Mirrors r) (verdict : Verdict) (m : Monitor σ) :
    (d.giveAll verdict (r.monitor verdict m).commands).Mirrors (r.monitor verdict m).registry ∧
      d.AllFit verdict (r.monitor verdict m).registry (r.monitor verdict m).commands := by
  have hmodes := r.not_isFilter_of_mem_monitor verdict m
  exact ⟨h.modes hmodes (r.monitor_subscribers verdict m), allFit_modes hmodes⟩

theorem Mirrors.unsubscribe (h : d.Mirrors r) (hverdict : verdict.Releasing) (id : Nat) :
    (d.giveAll verdict (r.unsubscribe verdict id).2).Mirrors (r.unsubscribe verdict id).1 ∧
      d.AllFit verdict (r.unsubscribe verdict id).1 (r.unsubscribe verdict id).2 := by
  cases r.unsubscribe_cases verdict id with
  | unsubscribed before after gone _ there registry_eq commands_eq =>
    have hgone : (r.unsubscribe verdict id).1.subscribers = before ++ after := by rw [registry_eq]
    rw [commands_eq]
    refine ⟨h.remove there hgone fun c hc => ?_, h.released_allFit there hgone⟩
    rw [Registry.releasedFilter_eq] at hc
    obtain ⟨f, -, rfl⟩ := List.mem_map.1 hc
    exact hverdict f
  | unmonitored before after gone _ _ _ registry_eq commands_eq =>
    have hmodes := (r.unsubscribe verdict id).1.not_isFilter_of_mem_releasedMode verdict
      gone.isVirtual
    rw [commands_eq]
    exact ⟨h.modes hmodes (by rw [registry_eq]), allFit_modes hmodes⟩
  | unknown _ eq =>
    rw [eq]
    exact ⟨h, allFit_nil⟩

end Driver

/-! ## Over whole runs -/

namespace Desk

/-- A move in which the driver obeys when a filter is to be removed. -/
def Move.Releasing : Move σ → Prop
  | .act (.serve verdict _) => verdict.Releasing
  | _ => True

/-- The filters are those of the subscriptions, and all commands that were given were in place. -/
structure Filtered (desk : Desk σ) : Prop where
  /-- The driver takes what is subscribed to. -/
  mirrors : desk.driver.Mirrors desk.registry
  /-- The commands of each event were in place. -/
  allFit : ∀ h ∈ desk.log,
    h.driver.AllFit h.verdict h.done.dispatcher.registry h.done.commands

theorem start_filtered : (start : Desk σ).Filtered :=
  ⟨Driver.opened_mirrors, fun _ h => absurd h List.not_mem_nil⟩

/-- Handling an event keeps the filters in order. -/
theorem handling_filtered {desk : Desk σ} (h : desk.driver.Mirrors desk.registry)
    {verdict : Verdict} (hverdict : verdict.Releasing) (own : IndividualAddress)
    (e : DispatchEvent σ) (later : List (DispatchEvent σ)) :
    let done := (desk.handling verdict own e later).done
    (desk.driver.giveAll verdict done.commands).Mirrors done.dispatcher.registry ∧
      desk.driver.AllFit verdict done.dispatcher.registry done.commands := by
  cases e with
  | subscribe s => exact h.subscribe verdict s
  | monitor m => exact h.monitor verdict m
  | unsubscribe id => exact h.unsubscribe hverdict id
  | heard heard => exact ⟨h, Driver.allFit_nil⟩
  | lost => exact ⟨h, Driver.allFit_nil⟩

theorem Filtered.step {desk : Desk σ} (h : desk.Filtered) {move : Move σ}
    (hmove : move.Releasing) : (desk.step move).Filtered := by
  cases desk.step_cases move with
  | idle registry_eq driver_eq log_eq =>
    refine ⟨?_, ?_⟩
    · rw [registry_eq, driver_eq]
      exact h.mirrors
    · rw [log_eq]
      exact h.allFit
  | halted registry_eq driver_eq log_eq =>
    have hmodes : ∀ c ∈ [Command.finish], c.isFilter = false := by simp [Command.isFilter]
    refine ⟨?_, ?_⟩
    · rw [registry_eq, driver_eq]
      exact h.mirrors.modes hmodes rfl
    · rw [log_eq]
      exact h.allFit
  | @served verdict own _ e later eq =>
    rw [eq]
    obtain ⟨hmirrors, hfit⟩ := handling_filtered h.mirrors hmove own e later
    refine ⟨hmirrors, fun handled hhandled => ?_⟩
    obtain hold | hnew := List.mem_append.1 hhandled
    · exact h.allFit handled hold
    · rw [List.mem_singleton.1 hnew]
      exact hfit

/-- **Address filters mirror the subscriptions.**  As long as the driver obeys when a filter is to be
removed, its filters are at any time the addresses, other than zero, of the subscriptions; and each
command about a filter that was ever given was in place: nothing was added that was there, and
nothing removed that was not there or that somebody else still needed. -/
theorem filters_mirror (moves : List (Move σ)) (hmoves : ∀ move ∈ moves, move.Releasing) :
    let desk := run moves start
    (∀ g, g ∈ desk.driver.groups ↔
      g.isBroadcast = false ∧ ∃ s ∈ desk.registry.subscribers, s.route = .group g) ∧
    (∀ a, a ∈ desk.driver.addresses ↔
      a.isUnset = false ∧
        ∃ s ∈ desk.registry.subscribers, ∃ source lock, s.route = .individual source a lock) ∧
    ∀ h ∈ desk.log, ∀ earlier c later, h.done.commands = earlier ++ c :: later →
      (h.driver.giveAll h.verdict earlier).Fits h.done.dispatcher.registry c := by
  intro desk
  have hfiltered : desk.Filtered :=
    List.foldlRecOn (motive := Filtered) moves step start_filtered
      fun _ h move hmove => h.step (hmoves move hmove)
  exact ⟨hfiltered.mirrors.mem_groups, hfiltered.mirrors.mem_addresses, hfiltered.allFit⟩

/-- A driver that takes no frames to individual addresses. -/
def groupsOnly : Verdict
  | .addAddress _ => .error .notConnected
  | _ => .ok ()

/-- Two subscriptions share the filter of a group, a third is refused its own, and the first of the
two ends. -/
def sharing : List (Move Unit) :=
  [.draw (.frames (.group ⟨2048⟩) ()), .draw (.frames (.group ⟨2048⟩) ()),
    .draw (.frames (.individual .unset ⟨4353⟩ .shared) ()),
    .act (.submit 1), .act (.submit 2), .act (.submit 3), .act (.leave 1),
    .act (.serve groupsOnly .unset), .act (.serve groupsOnly .unset),
    .act (.serve groupsOnly .unset), .act (.serve groupsOnly .unset)]

theorem filters_mirror_sharing :
    (∀ move ∈ sharing, move.Releasing) ∧
    (run sharing start).driver.groups = [⟨2048⟩] ∧
    (∃ s ∈ (run sharing start).registry.subscribers, s.route = .group ⟨2048⟩) ∧
    ⟨4353⟩ ∉ (run sharing start).driver.addresses := by
  have hverdict : groupsOnly.Releasing := fun f => by cases f <;> rfl
  have hmoves : ∀ move ∈ sharing, move.Releasing := by
    simp only [sharing, List.forall_mem_cons, Move.Releasing, hverdict, true_and]
    exact fun _ h => absurd h List.not_mem_nil
  have hgroups : (run sharing start).driver.groups = [⟨2048⟩] := rfl
  obtain ⟨hmirrored, haddresses, -⟩ := filters_mirror sharing hmoves
  refine ⟨hmoves, hgroups, ?_, ?_⟩
  · exact ((hmirrored ⟨2048⟩).1 (hgroups ▸ List.mem_singleton_self _)).2
  · intro htaken
    obtain ⟨-, s, hs, source, lock, hroute⟩ := (haddresses ⟨4353⟩).1 htaken
    have hregistered : (run sharing start).registry.subscribers =
        [⟨2, .group ⟨2048⟩, ()⟩] := rfl
    rw [hregistered, List.mem_singleton] at hs
    rw [hs] at hroute
    cases hroute

end Desk
end KnxBus
