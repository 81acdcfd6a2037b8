import KnxBus.Proofs.Dispatch.Exclusion

/-!
# Registrations that fail

A registration can fail before the medium is asked for anything, because the medium refuses the only
command that was needed, or half way to the raw bus: the medium has left normal operation, does not
begin to monitor, and is told to return.  These are all ways (`Registry.Failed`), for subscriptions
and for monitors of both kinds.

## What is left of it

The registry is as it was, no address filter has come or gone, and the switches of the medium stand
where they stood: whatever would have changed them was refused.  Only the way back from half way is
a command that is obeyed after another one.  If it is refused the medium stays out of normal
operation, and nothing can be done about it.  If it is obeyed, the medium is in normal operation
afterwards, *whether it was before or not*.  Where no monitor holds the bus it ought to be; but a
medium that once did not return when the last monitor had gone, or that has been closed, is not, and
is opened by a registration that fails (`Desk.failed_registration_opens_stranded`).

So the main statement, `Registry.failed_registration_changes_nothing`, has an exception.  It does not
occur as long as the driver comes back whenever it is told to
(`Desk.failed_registration_changes_nothing_of_obliging`).
-/

namespace KnxBus

variable {σ : Type}

namespace Registry

variable {verdict : Verdict} {r : Registry σ} {done : Registered σ} {cause : DispatchError}

/-- What a registration of either kind leaves behind. -/
inductive Registers (verdict : Verdict) (r : Registry σ) : Registered σ → Prop where
  /-- Somebody registers for frames. -/
  | frames (s : Subscriber σ) : Registers verdict r (r.subscribe verdict s)
  /-- Somebody registers for captures. -/
  | captures (m : Monitor σ) : Registers verdict r (r.monitor verdict m)

/-! ## How a registration can fail -/

/-- How a registration can fail. -/
inductive Failed (verdict : Verdict) (r : Registry σ) (done : Registered σ) : Prop where
  /-- The medium is not asked. -/
  | unasked (cause : DispatchError) (eq : done = r.refused cause)
  /-- The medium refuses the only command. -/
  | denied (c : Command) (e : LinkError) (verdict_eq : verdict c = .error e) (ne : c ≠ .start)
      (eq : done = ⟨r, [c], .error (.medium e)⟩)
  /-- No monitor holds the bus, the medium leaves normal operation but does not begin to monitor, and
  is told to return. -/
  | halfWay (e : LinkError) (free : r.hasMonitor false = false) (left : verdict .finish = .ok ())
      (verdict_eq : verdict .enterBusmonitor = .error e)
      (eq : done = ⟨r, [.finish, .enterBusmonitor, .start], .error (.medium e)⟩)

theorem failed_subscribe (s : Subscriber σ) (h : (r.subscribe verdict s).result = .error cause) :
    Failed verdict r (r.subscribe verdict s) := by
  cases r.subscribe_cases verdict s with
  | refused cause eq => exact .unasked cause eq
  | denied c e needed verdict_eq eq =>
    refine .denied c e verdict_eq ?_ eq
    rintro rfl
    have hfilter := r.isFilter_of_mem_neededFilter .start (needed ▸ List.mem_singleton_self _)
    cases hfilter
  | added _ _ _ eq =>
    rw [eq] at h
    cases h

theorem failed_monitor (m : Monitor σ) (h : (r.monitor verdict m).result = .error cause) :
    Failed verdict r (r.monitor verdict m) := by
  cases r.monitor_cases verdict m with
  | refused cause eq => exact .unasked cause eq
  | staysWithoutVirtual e verdict_eq eq => exact .denied _ e verdict_eq nofun eq
  | staysNormal e verdict_eq eq => exact .denied _ e verdict_eq nofun eq
  | returnsToNormal e free left verdict_eq eq => exact .halfWay e free left verdict_eq eq
  | joins _ _ eq | opensVirtual _ _ eq | takesBus _ _ _ _ eq =>
    rw [eq] at h
    cases h

theorem Registers.failed (h : r.Registers verdict done) (hfailed : done.result = .error cause) :
    Failed verdict r done := by
  cases h with
  | frames s => exact failed_subscribe s hfailed
  | captures m => exact failed_monitor m hfailed

namespace Failed

theorem registry_eq (h : Failed verdict r done) : done.registry = r := by
  cases h with
  | unasked _ eq =>
    rw [eq]
    rfl
  | denied _ _ _ _ eq | halfWay _ _ _ _ eq => rw [eq]

/-- No filter has been obtained or given up: whatever was said about one was refused. -/
theorem filters_refused (h : Failed verdict r done) :
    ∀ c ∈ done.commands, c.isFilter = true → ∃ e, verdict c = .error e := by
  intro c hc hfilter
  cases h with
  | unasked _ eq =>
    rw [eq] at hc
    exact absurd hc List.not_mem_nil
  | denied c' e verdict_eq _ eq =>
    rw [eq, List.mem_singleton] at hc
    exact ⟨e, hc ▸ verdict_eq⟩
  | halfWay _ _ _ _ eq =>
    rw [eq] at hc
    have hmode : c.isFilter = false := by
      obtain rfl | rfl | rfl : c = .finish ∨ c = .enterBusmonitor ∨ c = .start := by simpa using hc
      all_goals rfl
    rw [hmode] at hfilter
    cases hfilter

/-- Unless it is told to return, the driver is as it was. -/
theorem giveAll_of_not_mem (h : Failed verdict r done) (hstart : .start ∉ done.commands)
    (d : Driver) : d.giveAll verdict done.commands = d := by
  cases h with
  | unasked _ eq =>
    rw [eq]
    rfl
  | denied c e verdict_eq _ eq =>
    rw [eq, Driver.giveAll_cons, Driver.give_of_error verdict_eq, Driver.giveAll_nil]
  | halfWay _ _ _ _ eq => exact absurd (by simp [eq]) hstart

/-- If it is told to return, no monitor holds the bus, and all that is left is whether it obeys. -/
theorem giveAll_of_mem (h : Failed verdict r done) (hstart : .start ∈ done.commands)
    (d : Driver) : r.hasMonitor false = false ∧
      d.giveAll verdict done.commands = (d.obey .finish).give verdict .start := by
  cases h with
  | unasked _ eq =>
    rw [eq] at hstart
    exact absurd hstart List.not_mem_nil
  | denied c _ _ ne eq =>
    rw [eq, List.mem_singleton] at hstart
    exact absurd hstart.symm ne
  | halfWay e free left verdict_eq eq =>
    refine ⟨free, ?_⟩
    rw [eq, Driver.giveAll_cons, Driver.give_of_ok left, Driver.giveAll_cons,
      Driver.give_of_error verdict_eq, Driver.giveAll_cons, Driver.giveAll_nil]

/-- Filters and switches stand where they stood, even if the driver does not return. -/
theorem giveAll_but_isOpen (h : Failed verdict r done) (d : Driver) :
    (d.giveAll verdict done.commands).groups = d.groups ∧
    (d.giveAll verdict done.commands).addresses = d.addresses ∧
    (d.giveAll verdict done.commands).mode = d.mode := by
  by_cases hstart : .start ∈ done.commands
  · rw [(h.giveAll_of_mem hstart d).2]
    unfold Driver.give
    split <;> exact ⟨rfl, rfl, rfl⟩
  · rw [h.giveAll_of_not_mem hstart d]
    exact ⟨rfl, rfl, rfl⟩

/-- A driver that returns is as it was but for being in normal operation. -/
theorem giveAll_eq_or (h : Failed verdict r done)
    (hstart : .start ∈ done.commands → verdict .start = .ok ()) (d : Driver) :
    d.giveAll verdict done.commands = d ∨
      d.isOpen = false ∧ r.hasMonitor false = false ∧ .start ∈ done.commands ∧
        d.giveAll verdict done.commands = { d with isOpen := true } := by
  by_cases hmem : .start ∈ done.commands
  · obtain ⟨hfree, hgiven⟩ := h.giveAll_of_mem hmem d
    rw [Driver.give_of_ok (hstart hmem)] at hgiven
    have hreturned : (d.obey .finish).obey .start = { d with isOpen := true } := rfl
    rw [hreturned] at hgiven
    cases hopen : d.isOpen with
    | true =>
      refine .inl (hgiven.trans ?_)
      rw [← hopen]
    | false => exact .inr ⟨rfl, hfree, hmem, hgiven⟩
  · exact .inl (h.giveAll_of_not_mem hmem d)

end Failed

/-- **A registration that fails changes nothing.**  Whoever is registered, whatever state the driver
is in and whatever it says to each command: the same are registered afterwards, no filter has come
or gone, and the switches stand where they stood.  If the driver obeys in case it is told to return
to normal operation, it is altogether as it was, or it was found outside of normal operation although
no monitor held the bus, and has returned. -/
theorem failed_registration_changes_nothing (h : r.Registers verdict done)
    (hfailed : done.result = .error cause) (d : Driver) :
    done.registry = r ∧
    (∀ c ∈ done.commands, c.isFilter = true → ∃ e, verdict c = .error e) ∧
    (d.giveAll verdict done.commands).groups = d.groups ∧
    (d.giveAll verdict done.commands).addresses = d.addresses ∧
    (d.giveAll verdict done.commands).mode = d.mode ∧
    ((.start ∈ done.commands → verdict .start = .ok ()) →
      d.giveAll verdict done.commands = d ∨
      d.isOpen = false ∧ r.hasMonitor false = false ∧ .start ∈ done.commands ∧
        d.giveAll verdict done.commands = { d with isOpen := true }) := by
  have hfailed := h.failed hfailed
  obtain ⟨hgroups, haddresses, hmode⟩ := hfailed.giveAll_but_isOpen d
  exact ⟨hfailed.registry_eq, hfailed.filters_refused, hgroups, haddresses, hmode,
    fun hstart => hfailed.giveAll_eq_or hstart d⟩

/-- Beside a virtual monitor a second one wants the bus and does not get it. -/
theorem failed_registration_changes_nothing_reluctant :
    let r : Registry Unit := ⟨[], [⟨1, true, ()⟩]⟩
    let d : Driver := ⟨true, ⟨false, true⟩, [], []⟩
    let done := r.monitor Desk.reluctant ⟨2, false, ()⟩
    done.result = .error (.medium .notConnected) ∧
    done.commands = [.finish, .enterBusmonitor, .start] ∧
    done.registry = r ∧ d.giveAll Desk.reluctant done.commands = d := by
  intro r d done
  have hregisters : r.Registers Desk.reluctant done := .captures ⟨2, false, ()⟩
  have hresult : done.result = .error (.medium .notConnected) := rfl
  obtain ⟨hregistry, -, -, -, -, hdriver⟩ :=
    failed_registration_changes_nothing hregisters hresult d
  refine ⟨hresult, rfl, hregistry, (hdriver fun _ => rfl).resolve_right ?_⟩
  rintro ⟨hclosed, -⟩
  cases hclosed

end Registry

/-! ## At a desk -/

namespace Desk

/-- Of all events only registrations can fail. -/
theorem registers_of_failed {verdict : Verdict} {own : IndividualAddress} {d : Dispatcher σ}
    {e : DispatchEvent σ} {cause : DispatchError}
    (h : (d.handle verdict own e).result = .error cause) :
    ∃ done, d.registry.Registers verdict done ∧ done.result = .error cause ∧
      d.handle verdict own e = ⟨d.withRegistry done.registry, done.commands, [], done.result⟩ := by
  cases e with
  | subscribe s => exact ⟨_, .frames s, h, rfl⟩
  | monitor m => exact ⟨_, .captures m, h, rfl⟩
  | unsubscribe _ | heard _ | lost => cases h

/-- A driver that shows which monitors there are is altogether as it was after a registration that
fails, provided that it returns. -/
theorem failed_of_shows {desk : Desk σ} (hshows : desk.driver.Shows desk.registry)
    {verdict : Verdict} {own : IndividualAddress} {h : Handling σ}
    (hnext : desk.next? verdict own = some h) {cause : DispatchError}
    (hfailed : h.done.result = .error cause) (hstart : verdict .start = .ok ()) :
    (desk.serve verdict own).registry = desk.registry ∧
      (desk.serve verdict own).driver = desk.driver := by
  obtain ⟨e, later, -, rfl⟩ := next?_eq_some hnext
  obtain ⟨done, hregisters, hresult, hdone⟩ := registers_of_failed hfailed
  have hserve : desk.serve verdict own = desk.record (desk.handling verdict own e later) := by
    rw [serve, hnext]
  have hregistry : (desk.serve verdict own).registry = done.registry := by
    rw [hserve, handling, hdone]
    rfl
  have hdriver : (desk.serve verdict own).driver =
      desk.driver.giveAll verdict done.commands := by
    rw [hserve, handling, hdone]
    rfl
  have hfailed : Registry.Failed verdict desk.registry done := hregisters.failed hresult
  refine ⟨hregistry.trans hfailed.registry_eq, hdriver.trans ?_⟩
  obtain hsame | ⟨hclosed, hfree, -, -⟩ := hfailed.giveAll_eq_or (fun _ => hstart) desk.driver
  · exact hsame
  · -- with nobody holding the bus, such a driver is open
    rw [hshows.isOpen, hfree] at hclosed
    cases hclosed

/-- As long as the driver is obliging, it shows which monitors there are. -/
theorem run_shows {moves : List (Move σ)} (hmoves : ∀ move ∈ moves, move.Obliging) :
    (run moves start).driver.Shows (run moves start).registry :=
  List.foldlRecOn (motive := fun desk => desk.driver.Shows desk.registry) moves step
    Driver.opened_shows fun _ h move hmove => step_shows h (hmoves move hmove)

/-- **Without exception**: at a desk whose driver has been obliging so far, a registration that fails
leaves the registry and the whole driver as they were, provided that the driver returns. -/
theorem failed_registration_changes_nothing_of_obliging {moves : List (Move σ)}
    (hmoves : ∀ move ∈ moves, move.Obliging) {verdict : Verdict} {own : IndividualAddress}
    {h : Handling σ} (hnext : (run moves start).next? verdict own = some h)
    {cause : DispatchError} (hfailed : h.done.result = .error cause)
    (hstart : verdict .start = .ok ()) :
    ((run moves start).serve verdict own).registry = (run moves start).registry ∧
      ((run moves start).serve verdict own).driver = (run moves start).driver :=
  failed_of_shows (run_shows hmoves) hnext hfailed hstart

/-! ### A driver that did not return -/

/-- A driver that does not return to normal operation. -/
def stranded : Verdict := fun c => if c = .start then .error .notConnected else .ok ()

/-- A monitor gets the bus and leaves it to a driver that does not return; another one is about to
want it. -/
def stranding : List (Move Unit) :=
  [.draw (.captures false ()), .act (.submit 1), .act (.serve (fun _ => .ok ()) .unset),
    .act (.leave 1), .act (.serve stranded .unset), .draw (.captures false ()), .act (.submit 2)]

/-- Nobody is registered and the driver is not open.  The registration fails, as the driver does not
begin to monitor; it obeys when it is told to return, and then it is open. -/
theorem failed_registration_opens_stranded :
    let desk := run stranding start
    let after := desk.serve reluctant .unset
    desk.registry = .empty ∧ desk.driver.isOpen = false ∧
    (∃ h, desk.next? reluctant .unset = some h ∧
      h.done.result = .error (.medium .notConnected) ∧
      h.done.commands = [.finish, .enterBusmonitor, .start]) ∧
    reluctant .start = .ok () ∧
    after.registry = .empty ∧ after.driver.isOpen = true :=
  ⟨rfl, rfl, ⟨_, rfl, rfl, rfl⟩, rfl, rfl, rfl⟩

end Desk
end KnxBus
