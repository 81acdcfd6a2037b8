import KnxBus.Dispatch.Registry
import KnxBus.Station.Line

/-!
# A driver

What the registry tells a medium is told to a driver in the end: some drivers have switches and
address filters of their own, others pretend to have them.  The driver here has them all and nothing
else.  It is open or not, it has the two switches of a medium, and it knows which groups and which
individual addresses it has been told to take.  A command that it refuses leaves it as it was.

Commands are of two kinds, and no command of one kind concerns what those of the other are about.
The media of the library have the switches of a driver and none of its filters: given the same
commands, a line and a driver that had the same switches have them still (`Line.giveAll_mode`).
-/

namespace KnxBus

/-- A driver. -/
structure Driver where
  /-- Whether it is in normal operation. -/
  isOpen : Bool
  /-- Its switches. -/
  mode : MonitorMode
  /-- The groups that it takes. -/
  groups : List GroupAddress
  /-- The individual addresses that it takes. -/
  addresses : List IndividualAddress
  deriving DecidableEq, Repr

/-- Whether a command is about an address filter. -/
def Command.isFilter : Command → Bool
  | .addAddress _ | .removeAddress _ | .addGroup _ | .removeGroup _ => true
  | _ => false

namespace Driver

/-- A driver that has just been opened. -/
def opened : Driver := ⟨true, .off, [], []⟩

/-- What a command that is obeyed does. -/
def obey (d : Driver) : Command → Driver
  | .start => { d with isOpen := true }
  | .finish => { d with isOpen := false }
  | .enterBusmonitor => { d with mode := { d.mode with busmonitor := true } }
  | .leaveBusmonitor => { d with mode := { d.mode with busmonitor := false } }
  | .openVirtualMonitor => { d with mode := { d.mode with virtualMonitor := true } }
  | .closeVirtualMonitor => { d with mode := { d.mode with virtualMonitor := false } }
  | .addAddress a => { d with addresses := a :: d.addresses }
  | .removeAddress a => { d with addresses := d.addresses.filter (· ≠ a) }
  | .addGroup g => { d with groups := g :: d.groups }
  | .removeGroup g => { d with groups := d.groups.filter (· ≠ g) }

/-- Gives a command. -/
def give (verdict : Verdict) (d : Driver) (c : Command) : Driver :=
  match verdict c with
  | .ok () => d.obey c
  | .error _ => d

/-- Gives commands one after the other. -/
def giveAll (verdict : Verdict) (d : Driver) (cs : List Command) : Driver :=
  cs.foldl (give verdict) d

variable {verdict : Verdict} {d : Driver} {c : Command}

theorem give_of_ok (h : verdict c = .ok ()) : d.give verdict c = d.obey c := by
  rw [give, h]

theorem give_of_error {e : LinkError} (h : verdict c = .error e) : d.give verdict c = d := by
  rw [give, h]

@[simp]
theorem giveAll_nil : d.giveAll verdict [] = d := rfl

@[simp]
theorem giveAll_cons {later : List Command} :
    d.giveAll verdict (c :: later) = (d.give verdict c).giveAll verdict later := rfl

/-- A part of the driver that no command of a list concerns stays as it is. -/
theorem giveAll_keeps {α : Type} (part : Driver → α) {cs : List Command}
    (h : ∀ c ∈ cs, ∀ d : Driver, part (d.obey c) = part d) :
    part (d.giveAll verdict cs) = part d := by
  refine List.foldlRecOn cs (give verdict) (motive := fun d' => part d' = part d) rfl ?_
  intro d' ih c hc
  unfold give
  split
  · rw [h c hc, ih]
  · exact ih

/-- Commands about filters leave the switches alone. -/
theorem giveAll_mode (d : Driver) (verdict : Verdict) {cs : List Command} (h : ∀ c ∈ cs, c.isFilter = true) :
    (d.giveAll verdict cs).mode = d.mode ∧ (d.giveAll verdict cs).isOpen = d.isOpen := by
  constructor <;> refine giveAll_keeps _ fun c hc d' => ?_
  all_goals
    have hfilter := h c hc
    cases c <;> first | rfl | cases hfilter

/-- All other commands leave the filters alone. -/
theorem giveAll_filters (d : Driver) (verdict : Verdict) {cs : List Command} (h : ∀ c ∈ cs, c.isFilter = false) :
    (d.giveAll verdict cs).groups = d.groups ∧
      (d.giveAll verdict cs).addresses = d.addresses := by
  constructor <;> refine giveAll_keeps _ fun c hc d' => ?_
  all_goals
    have hmode := h c hc
    cases c <;> first | rfl | cases hmode

end Driver

/-! ## Media as drivers -/

/-- The switches of a medium. -/
def Medium.mode : Medium → MonitorMode
  | loopback m => m.mode
  | router m => m.mode
  | tunnel m => m.mode

theorem Medium.mapMode_mode (f : MonitorMode → MonitorMode) (m : Medium) :
    (m.mapMode f).mode = f m.mode := by
  cases m <;> rfl

/-- A command that is obeyed has the same effect on the switches of a medium as on a driver. -/
theorem Medium.obey_mode {m : Medium} {d : Driver} (h : d.mode = m.mode) (c : Command) :
    (d.obey c).mode = (m.obey c).mode := by
  cases c <;> simp only [Medium.obey, Driver.obey, Medium.mapMode_mode, h]

/-- Tunnels say the same to all commands. -/
theorem Medium.verdict_tunnel (t t' : Tunnel) : (tunnel t).verdict = (tunnel t').verdict := by
  funext c
  cases c <;> rfl

/-- No command changes what a medium says to others. -/
theorem Medium.obey_verdict (m : Medium) (c : Command) : (m.obey c).verdict = m.verdict := by
  cases m with
  | tunnel t => cases c <;> exact verdict_tunnel _ _
  | loopback l => cases c <;> rfl
  | router r => cases c <;> rfl

namespace Line

theorem give_verdict (l : Line) (c : Command) : (l.give c).verdict = l.verdict := by
  funext c'
  unfold give verdict
  split
  · simp only [Medium.obey_verdict]
  · rfl

theorem give_mode {l : Line} {d : Driver} (h : d.mode = l.medium.mode) (c : Command) :
    (d.give l.verdict c).mode = (l.give c).medium.mode := by
  unfold Driver.give give
  cases l.verdict c with
  | ok _ => exact Medium.obey_mode h c
  | error e => exact h

/-- **A line is a driver as far as its switches go**: commands that are given to it one after the
other move the switches of its medium as they move those of a driver that says the same to each. -/
theorem giveAll_mode {l : Line} {d : Driver} (h : d.mode = l.medium.mode) (cs : List Command) :
    (d.giveAll l.verdict cs).mode = (l.giveAll cs).medium.mode := by
  induction cs generalizing l d with
  | nil => exact h
  | cons c later ih =>
    rw [Driver.giveAll_cons, ← l.give_verdict c]
    have hgiven : (d.give (l.give c).verdict c).mode = (l.give c).medium.mode := by
      rw [l.give_verdict c]
      exact give_mode h c
    exact ih hgiven

end Line
end KnxBus
