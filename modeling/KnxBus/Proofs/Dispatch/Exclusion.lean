import KnxBus.Proofs.Dispatch.Desk

/-!
# Who excludes whom

Monitoring the raw bus and taking part in it exclude each other, a peer is held by one subscription
at most, and everybody is registered under a number of his own.  The registry sees to the first two
with the lists that it has, the numbers are drawn from a counter.  What the driver has to do with it
is a second matter: its mode follows the first and the last monitor of each kind, and it follows
them only as far as the driver obeys.  A driver may refuse to end normal operation, to begin
monitoring or to open its virtual monitor, and the registration is refused with it; but if it does
not come back when it is told to, there is nothing that the registry could do about it.

The main statement is `Desk.registrations_exclude`.  Both halves are invariants, one of the registry
alone (`Registry.Exclusive`), the other of registry and driver together (`Driver.Shows`).  Each is
kept by the three operations of a registry, of which all ends have been listed.
-/

namespace KnxBus

variable {σ : Type}

/-! ## Among registrations -/

namespace Registry

variable {r : Registry σ}

/-- Nobody takes part while a monitor holds the bus, and no peer is held twice. -/
structure Exclusive (r : Registry σ) : Prop where
  /-- Beside a subscription there are only virtual monitors. -/
  apart : ∀ s ∈ r.subscribers, ∀ m ∈ r.monitors, m.isVirtual = true
  /-- The peers that are held are different ones. -/
  held : (r.subscribers.filterMap Subscriber.held?).Nodup

theorem empty_exclusive : (empty : Registry σ).Exclusive :=
  ⟨fun _ hs => absurd hs List.not_mem_nil, List.nodup_nil⟩

theorem isVirtual_of_hasMonitor (h : r.hasMonitor false = false) {m : Monitor σ}
    (hm : m ∈ r.monitors) : m.isVirtual = true := by
  rw [← Bool.not_eq_false]
  intro hreal
  rw [hasMonitor_iff.2 ⟨m, hm, hreal⟩] at h
  cases h

/-- A subscription is added while no monitor holds the bus and nobody holds its peer. -/
theorem Exclusive.add (h : r.Exclusive) {s : Subscriber σ} (apart : r.hasMonitor false = false)
    (free : ∀ peer, s.held? = some peer → r.isHeld peer = false) : (r.add s).Exclusive where
  apart _ _ _ hm := isVirtual_of_hasMonitor apart hm
  held := by
    rw [Registry.add, List.filterMap_append]
    refine List.nodup_append.2 ⟨h.held, ?_, ?_⟩
    · cases hheld : s.held? <;> simp [hheld]
    · intro a ha b hb heq
      have hheld : s.held? = some b := by simpa using hb
      have hthere : r.isHeld b = true := isHeld_iff.2 (heq ▸ ha)
      rw [free b hheld] at hthere
      cases hthere

/-- A monitor that holds the bus is added while nobody takes part. -/
theorem Exclusive.addMonitor (h : r.Exclusive) {m : Monitor σ}
    (apart : m.isVirtual = false → r.subscribers = []) : (r.addMonitor m).Exclusive where
  apart s hs m' hm' := by
    obtain hold | hnew := List.mem_append.1 hm'
    · exact h.apart s hs m' hold
    · rw [List.mem_singleton.1 hnew, ← Bool.not_eq_false]
      intro hreal
      have hs' : s ∈ r.subscribers := hs
      rw [apart hreal] at hs'
      exact absurd hs' List.not_mem_nil
  held := h.held

/-- Nothing is lost with those who leave. -/
theorem Exclusive.of_sublist (h : r.Exclusive) {r' : Registry σ}
    (hsubscribers : r'.subscribers.Sublist r.subscribers)
    (hmonitors : r'.monitors.Sublist r.monitors) : r'.Exclusive where
  apart s hs m hm := h.apart s (hsubscribers.subset hs) m (hmonitors.subset hm)
  held := (hsubscribers.filterMap _).nodup h.held

theorem Exclusive.subscribe (h : r.Exclusive) (verdict : Verdict) (s : Subscriber σ) :
    (r.subscribe verdict s).registry.Exclusive := by
  obtain ⟨cause, eq⟩ | ⟨c, e, -, -, eq⟩ | ⟨apart, free, -, eq⟩ := r.subscribe_cases verdict s
  · rw [eq]
    exact h
  · rw [eq]
    exact h
  · rw [eq]
    exact h.add apart free

theorem Exclusive.monitor (h : r.Exclusive) (verdict : Verdict) (m : Monitor σ) :
    (r.monitor verdict m).registry.Exclusive := by
  cases r.monitor_cases verdict m with
  | refused _ eq | staysWithoutVirtual _ _ eq | staysNormal _ _ eq | returnsToNormal _ _ _ _ eq =>
    rw [eq]
    exact h
  | joins _ apart eq =>
    rw [eq]
    exact h.addMonitor apart
  | opensVirtual isVirtual _ eq =>
    rw [eq]
    exact h.addMonitor fun hreal => by rw [isVirtual] at hreal; cases hreal
  | takesBus _ apart _ _ eq =>
    rw [eq]
    exact h.addMonitor fun _ => apart

theorem Exclusive.unsubscribe (h : r.Exclusive) (verdict : Verdict) (id : Nat) :
    (r.unsubscribe verdict id).1.Exclusive := by
  cases r.unsubscribe_cases verdict id with
  | unsubscribed before after gone _ there registry_eq _ =>
    rw [registry_eq]
    refine h.of_sublist ?_ (List.Sublist.refl _)
    rw [there]
    exact (List.sublist_cons_self gone after).append_left before
  | unmonitored before after gone _ there _ registry_eq _ =>
    rw [registry_eq]
    refine h.of_sublist (List.Sublist.refl _) ?_
    rw [there]
    exact (List.sublist_cons_self gone after).append_left before
  | unknown _ eq =>
    rw [eq]
    exact h

end Registry

/-! ## Between monitors and the driver -/

/-- A driver that comes back when it is told to: from monitoring, to normal operation, and from its
virtual monitor. -/
structure Verdict.Obliging (verdict : Verdict) : Prop where
  /-- It returns to normal operation. -/
  start : verdict .start = .ok ()
  /-- It ends monitoring. -/
  leaveBusmonitor : verdict .leaveBusmonitor = .ok ()
  /-- It closes its virtual monitor. -/
  closeVirtualMonitor : verdict .closeVirtualMonitor = .ok ()

namespace Driver

variable {r r' : Registry σ} {d : Driver} {verdict : Verdict}

/-- The driver monitors for those monitors that there are, and is in normal operation otherwise. -/
structure Shows (d : Driver) (r : Registry σ) : Prop where
  /-- It monitors the bus for a monitor that holds it. -/
  busmonitor : d.mode.busmonitor = r.hasMonitor false
  /-- It is open unless a monitor holds the bus. -/
  isOpen : d.isOpen = !r.hasMonitor false
  /-- It reports captures to virtual monitors. -/
  virtualMonitor : d.mode.virtualMonitor = r.hasMonitor true

theorem opened_shows : opened.Shows (.empty : Registry σ) := ⟨rfl, rfl, rfl⟩

/-- Only the kinds of monitors count. -/
theorem Shows.of_hasMonitor (h : d.Shows r) (hkinds : ∀ b, r'.hasMonitor b = r.hasMonitor b) :
    d.Shows r' where
  busmonitor := h.busmonitor.trans (hkinds false).symm
  isOpen := by rw [h.isOpen, hkinds false]
  virtualMonitor := h.virtualMonitor.trans (hkinds true).symm

/-- Address filters have nothing to do with it. -/
theorem Shows.filters (h : d.Shows r) {cs : List Command} (hcs : ∀ c ∈ cs, c.isFilter = true)
    (hmonitors : r'.monitors = r.monitors) : (d.giveAll verdict cs).Shows r' := by
  obtain ⟨hmode, hopen⟩ := giveAll_mode d verdict hcs
  have hkinds : ∀ b, r'.hasMonitor b = r.hasMonitor b := fun b => by
    rw [Registry.hasMonitor, hmonitors, Registry.hasMonitor]
  exact Shows.of_hasMonitor
    ⟨by rw [hmode, h.busmonitor], by rw [hopen, h.isOpen], by rw [hmode, h.virtualMonitor]⟩ hkinds

/-- A driver that shows the monitors of a kind once the first of them has come. -/
theorem Shows.opensVirtual (h : d.Shows r) {m : Monitor σ} (isVirtual : m.isVirtual = true) :
    (d.obey .openVirtualMonitor).Shows (r.addMonitor m) where
  busmonitor := by rw [Registry.hasMonitor_addMonitor, isVirtual, ← h.busmonitor]; simp [obey]
  isOpen := by rw [Registry.hasMonitor_addMonitor, isVirtual]; simp [obey, h.isOpen]
  virtualMonitor := by rw [Registry.hasMonitor_addMonitor, isVirtual]; simp [obey]

theorem Shows.takesBus (h : d.Shows r) {m : Monitor σ} (isReal : m.isVirtual = false) :
    ((d.obey .finish).obey .enterBusmonitor).Shows (r.addMonitor m) where
  busmonitor := by rw [Registry.hasMonitor_addMonitor, isReal]; simp [obey]
  isOpen := by rw [Registry.hasMonitor_addMonitor, isReal]; simp [obey]
  virtualMonitor := by
    rw [Registry.hasMonitor_addMonitor, isReal, ← h.virtualMonitor]
    simp [obey]

/-- Leaving normal operation and returning to it at once changes nothing. -/
theorem Shows.returnsToNormal (h : d.Shows r) (free : r.hasMonitor false = false) :
    ((d.obey .finish).obey .start).Shows r where
  busmonitor := h.busmonitor
  isOpen := by rw [free]; rfl
  virtualMonitor := h.virtualMonitor

theorem Shows.subscribe (h : d.Shows r) (verdict : Verdict) (s : Subscriber σ) :
    (d.giveAll verdict (r.subscribe verdict s).commands).Shows
      (r.subscribe verdict s).registry := by
  obtain ⟨cause, eq⟩ | ⟨c, e, needed, -, eq⟩ | ⟨-, -, -, eq⟩ := r.subscribe_cases verdict s
  · rw [eq]
    exact h
  · rw [eq]
    exact h.filters (needed ▸ r.isFilter_of_mem_neededFilter) rfl
  · rw [eq]
    exact h.filters r.isFilter_of_mem_neededFilter rfl

theorem Shows.monitor (h : d.Shows r) (hverdict : verdict.Obliging) (m : Monitor σ) :
    (d.giveAll verdict (r.monitor verdict m).commands).Shows (r.monitor verdict m).registry := by
  cases r.monitor_cases verdict m with
  | refused _ eq =>
    rw [eq]
    exact h
  | joins there _ eq =>
    rw [eq]
    refine h.of_hasMonitor fun b => ?_
    rw [Registry.hasMonitor_addMonitor, Bool.or_eq_left_iff_imp, beq_iff_eq]
    rintro rfl
    exact there
  | opensVirtual isVirtual obeyed eq =>
    rw [eq, giveAll_cons, give_of_ok obeyed]
    exact h.opensVirtual isVirtual
  | staysWithoutVirtual _ refused eq =>
    rw [eq, giveAll_cons, give_of_error refused]
    exact h
  | takesBus isReal _ left entered eq =>
    rw [eq, giveAll_cons, giveAll_cons, give_of_ok left, give_of_ok entered]
    exact h.takesBus isReal
  | staysNormal _ refused eq =>
    rw [eq, giveAll_cons, give_of_error refused]
    exact h
  | returnsToNormal _ free left refused eq =>
    rw [eq, giveAll_cons, giveAll_cons, giveAll_cons, give_of_ok left, give_of_error refused,
      give_of_ok hverdict.start]
    exact h.returnsToNormal free

/-- A monitor goes.  If it was the last of its kind, the driver ends what it did for it. -/
theorem Shows.releases (h : d.Shows r) (hverdict : verdict.Obliging) {gone : Monitor σ}
    (hkinds : ∀ b, r.hasMonitor b = (r'.hasMonitor b || gone.isVirtual == b)) :
    (d.giveAll verdict (r'.releasedMode verdict gone.isVirtual)).Shows r' := by
  have hbus := h.busmonitor.trans (hkinds false)
  have hopen : d.isOpen = !(r'.hasMonitor false || gone.isVirtual == false) :=
    h.isOpen.trans (congrArg not (hkinds false))
  have hvirtual := h.virtualMonitor.trans (hkinds true)
  unfold Registry.releasedMode
  split
  · rename_i there
    refine h.of_hasMonitor fun b => ?_
    rw [hkinds b, eq_comm, Bool.or_eq_left_iff_imp, beq_iff_eq]
    rintro rfl
    exact there
  · rename_i last
    rw [Bool.not_eq_true] at last
    cases hkind : gone.isVirtual with
    | true =>
      rw [hkind] at hbus hopen last
      rw [if_pos rfl, giveAll_cons, give_of_ok hverdict.closeVirtualMonitor]
      exact ⟨hbus.trans (Bool.or_false _), hopen.trans (congrArg not (Bool.or_false _)), last.symm⟩
    | false =>
      rw [hkind] at hvirtual last
      rw [if_neg Bool.false_ne_true, hverdict.leaveBusmonitor, giveAll_cons, giveAll_cons,
        give_of_ok hverdict.leaveBusmonitor, give_of_ok hverdict.start]
      exact ⟨last.symm, by rw [last]; rfl, hvirtual.trans (Bool.or_false _)⟩

theorem Shows.unsubscribe (h : d.Shows r) (hverdict : verdict.Obliging) (id : Nat) :
    (d.giveAll verdict (r.unsubscribe verdict id).2).Shows (r.unsubscribe verdict id).1 := by
  cases r.unsubscribe_cases verdict id with
  | unsubscribed before after gone _ _ registry_eq commands_eq =>
    rw [commands_eq]
    refine h.filters (Registry.isFilter_of_mem_releasedFilter _) ?_
    rw [registry_eq]
  | unmonitored before after gone _ there _ registry_eq commands_eq =>
    rw [commands_eq]
    refine h.releases hverdict fun b => ?_
    rw [registry_eq]
    simp [Registry.hasMonitor, there, Bool.or_comm, Bool.or_left_comm]
  | unknown _ eq =>
    rw [eq]
    exact h

end Driver

/-! ## Over whole runs -/

namespace Desk

/-- A move in which the driver is obliging and is not closed. -/
def Move.Obliging : Move σ → Prop
  | .act (.serve verdict _) => verdict.Obliging
  | .act (.halt _) => False
  | _ => True

theorem step_exclusive {desk : Desk σ} (h : desk.registry.Exclusive) (move : Move σ) :
    (desk.step move).registry.Exclusive := by
  cases desk.step_cases move with
  | idle registry_eq _ _ | halted registry_eq _ _ =>
    rw [registry_eq]
    exact h
  | @served verdict own _ e later eq =>
    rw [eq]
    cases e with
    | subscribe s => exact h.subscribe verdict s
    | monitor m => exact h.monitor verdict m
    | unsubscribe id => exact h.unsubscribe verdict id
    | heard heard => exact h
    | lost => exact h

theorem Reachable.exclusive {desk : Desk σ} (h : desk.Reachable) : desk.registry.Exclusive :=
  h.induction (P := fun desk => desk.registry.Exclusive) Registry.empty_exclusive
    fun _ _ hexclusive move => step_exclusive hexclusive move

theorem step_shows {desk : Desk σ} (h : desk.driver.Shows desk.registry) {move : Move σ}
    (hmove : move.Obliging) : (desk.step move).driver.Shows (desk.step move).registry := by
  cases desk.step_cases move with
  | idle registry_eq driver_eq _ =>
    rw [registry_eq, driver_eq]
    exact h
  | halted _ _ _ => exact absurd hmove id
  | @served verdict own _ e later eq =>
    rw [eq]
    cases e with
    | subscribe s => exact h.subscribe verdict s
    | monitor m => exact h.monitor hmove m
    | unsubscribe id => exact h.unsubscribe hmove id
    | heard heard => exact h
    | lost => exact h

/-- **Registrations exclude each other.**  Whatever happens at a desk, and whatever the driver says
to it, there is never a subscription beside a monitor that holds the bus, no peer is held by two
subscriptions, and no number is that of two registrations.  If the driver is obliging as well, its
mode tells at any time what monitors there are. -/
theorem registrations_exclude (moves : List (Move σ)) :
    let desk := run moves start
    (∀ s ∈ desk.registry.subscribers, ∀ m ∈ desk.registry.monitors, m.isVirtual = true) ∧
    (desk.registry.subscribers.filterMap Subscriber.held?).Nodup ∧
    desk.registry.numbers.Nodup ∧
    ((∀ move ∈ moves, move.Obliging) →
      desk.driver.mode.busmonitor = desk.registry.hasMonitor false ∧
      desk.driver.isOpen = !desk.registry.hasMonitor false ∧
      desk.driver.mode.virtualMonitor = desk.registry.hasMonitor true) := by
  intro desk
  have hreach : desk.Reachable := ⟨moves, rfl⟩
  have hexclusive := hreach.exclusive
  refine ⟨hexclusive.apart, hexclusive.held, hreach.fresh.numbers_nodup, fun hmoves => ?_⟩
  have hshows : desk.driver.Shows desk.registry :=
    List.foldlRecOn (motive := fun desk => desk.driver.Shows desk.registry) moves step
      Driver.opened_shows fun _ h move hmove => step_shows h (hmoves move hmove)
  exact ⟨hshows.busmonitor, hshows.isOpen, hshows.virtualMonitor⟩

/-- A driver that does not begin to monitor. -/
def reluctant : Verdict := fun c => if c = .enterBusmonitor then .error .notConnected else .ok ()

/-- Somebody wants to monitor the bus and the driver does not begin; then somebody else does and it
begins; a subscriber, although there before, is handled too late. -/
def takeover : List (Move Unit) :=
  [.draw (.captures false ()), .act (.submit 1), .act (.serve reluctant .unset),
    .draw (.frames .broadcast ()), .draw (.captures false ()), .act (.submit 3), .act (.submit 2),
    .act (.serve (fun _ => .ok ()) .unset), .act (.serve (fun _ => .ok ()) .unset)]

theorem registrations_exclude_takeover :
    (∀ move ∈ takeover, move.Obliging) ∧
    (run takeover start).registry = ⟨[], [⟨3, false, ()⟩]⟩ ∧
    (run takeover start).driver.mode.busmonitor = true ∧
    (run takeover start).driver.isOpen = false ∧
    (run takeover start).driver.mode.virtualMonitor = false := by
  have hmoves : ∀ move ∈ takeover, move.Obliging := by
    simp only [takeover, List.forall_mem_cons, Move.Obliging, true_and]
    exact ⟨⟨rfl, rfl, rfl⟩, ⟨rfl, rfl, rfl⟩, ⟨rfl, rfl, rfl⟩, fun _ h => absurd h List.not_mem_nil⟩
  have hregistry : (run takeover start).registry = ⟨[], [⟨3, false, ()⟩]⟩ := rfl
  obtain ⟨hbus, hopen, hvirtual⟩ := (registrations_exclude takeover).2.2.2 hmoves
  rw [hregistry] at hbus hopen hvirtual
  exact ⟨hmoves, hregistry, hbus, hopen, hvirtual⟩

end Desk
end KnxBus
