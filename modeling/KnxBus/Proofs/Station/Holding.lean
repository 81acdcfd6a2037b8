import KnxBus.Proofs.Connection.Parts
import KnxBus.Proofs.Gateway.Sending
import KnxBus.Proofs.GroupCache.ReadingRoom
import KnxBus.Station

/-!
# What the parts of a station hold

A part holds subscriptions, each under a number and for a route.  Which ones is a matter of the part
alone and can be read off it: a socket and a group cache have one while they know its number, a
connection has one until it has closed, a gateway has its three or none.  A bare registration is
different.  Nobody can tell from its number what it was made for, and nothing is counted for it.

## Who lets go

Almost nothing that happens to a part touches what it holds.  Frames that are handed to it, arrivals
at its socket and turns leave it alone, with one exception: a connection that closes in its turn has
nothing afterwards, and gives up its number in the same turn (`Part.turn_stance`).  The other way to
let go is the end of the part, which gives up everything (`Part.leavesOf_close`).  That numbers are
given up exactly when the part does not hold them any more is the reason why none is forgotten.
-/

namespace KnxBus

/-- The registration that an effect gives up. -/
def Effect.leaver? : Effect → Option Nat
  | .leave registration => some registration
  | _ => none

/-- The registrations that effects give up, in order. -/
def leavesOf (effects : List Effect) : List Nat := effects.filterMap Effect.leaver?

@[simp]
theorem leavesOf_append (a b : List Effect) : leavesOf (a ++ b) = leavesOf a ++ leavesOf b :=
  List.filterMap_append

@[simp]
theorem leavesOf_leaves (ids : List Nat) : leavesOf (ids.map .leave) = ids := by
  induction ids with
  | nil => rfl
  | cons id later ih =>
    exact congrArg (id :: ·) ih

/-- Effects among which nobody leaves. -/
theorem leavesOf_eq_nil {effects : List Effect} (h : ∀ e ∈ effects, e.leaver? = none) :
    leavesOf effects = [] :=
  List.filterMap_eq_nil_iff.2 h

/-- Whether a socket is there to be read.  What it has received is then kept for its reader, up to a
limit. -/
def Socket.isReadable (s : Socket) : Bool := s.queue.capacity.isSome

namespace Part

/-- The subscriptions of a part: the number and the route of each. -/
def holds : Part → List (Nat × Route)
  | listener _ => []
  | socket s => s.registration.toList.map fun id => (id, s.kind.route)
  | connection c => if c.isClosed then [] else [(c.registration, Connection.route c.peer)]
  | cache c => c.registration.toList.map fun id => (id, GroupCache.route)
  | gateway g => g.registrations.zip Gateway.routes

/-- The number of a bare registration. -/
def listener? : Part → Option Nat
  | listener registration => some registration
  | _ => none

/-- A part has all the subscriptions that it needs: a socket one if it is there to be read, a
gateway three if it takes part in the bus.  And a gateway goes on. -/
def isSound : Part → Bool
  | socket s => s.registration.isSome == s.isReadable
  | gateway g =>
    !g.stopping && !g.isEnded &&
      g.registrations.length == if g.config.usesBus then Gateway.routes.length else 0
  | _ => true

/-- All that matters of a part to those who keep account of subscriptions. -/
structure Stance where
  /-- Its subscriptions. -/
  holds : List (Nat × Route)
  /-- Its number, if it is a bare registration. -/
  listener? : Option Nat
  /-- Whether it goes on with all that it needs. -/
  isSound : Bool
  deriving DecidableEq, Repr

/-- The stance of a part. -/
def stance (p : Part) : Stance := ⟨p.holds, p.listener?, p.isSound⟩

variable {p : Part} (now : Nat)

theorem isSound_socket {s : Socket} (h : (socket s).isSound = true) :
    s.registration.isSome = s.isReadable :=
  beq_iff_eq.1 h

theorem isSound_gateway {g : Gateway} (h : (gateway g).isSound = true) :
    g.stopping = false ∧ g.isEnded = false ∧
      g.registrations.length = if g.config.usesBus then Gateway.routes.length else 0 := by
  simpa [isSound, and_assoc] using h

/-! ## What comes to a part -/

theorem deliver_stance (frame : Frame) (p : Part) : (p.deliver now frame).stance = p.stance := by
  cases p with
  | listener r => rfl
  | socket s =>
    show (socket (s.deliver frame)).stance = _
    unfold Socket.deliver
    split <;> rfl
  | connection c => rfl
  | cache c =>
    show (cache (c.deliver now frame)).stance = _
    unfold GroupCache.deliver
    split <;> rfl
  | gateway g => rfl

theorem arrive_stance (a : Arrival) (p : Part) : (p.arrive a).stance = p.stance := by
  cases p <;> rfl

theorem pump_stance (p : Part) : (p.pump now).stance = p.stance := by
  cases p <;> rfl

end Part

/-! ## Turns -/

namespace Connection

variable {c : Connection} (accepts : Frame → Bool) (now : Nat)

/-- What both parts of a turn keep, the two together keep. -/
theorem andThen_samePeer {p : Progress} {next : Connection → Progress}
    (h : c.SamePeer p.connection) (hnext : ∀ c' : Connection, c'.SamePeer (next c').connection) :
    c.SamePeer (p.andThen next).connection := by
  unfold Progress.andThen
  split
  · exact h.trans (hnext p.connection)
  · exact h

theorem onFrames_samePeer (frames : List Frame) (c : Connection) :
    c.SamePeer (onFrames accepts now frames c).connection := by
  induction frames generalizing c with
  | nil => exact ⟨rfl, rfl⟩
  | cons f later ih => exact andThen_samePeer (onFrame_samePeer accepts now f c) ih

/-- A connection never changes its peer, nor the number under which it holds it. -/
theorem turn_samePeer (c : Connection) : c.SamePeer (c.turn accepts now).1 := by
  obtain ⟨worked, hworked, hturn⟩ : ∃ worked : Progress, c.SamePeer worked.connection ∧
      c.turn accepts now = worked.settle := by
    refine ⟨if c.stopping then c.giveUp
      else (onFrames accepts now c.incoming { c with incoming := [] }).andThen
        (proceed accepts now), ?_, rfl⟩
    split
    · exact ⟨rfl, rfl⟩
    · refine andThen_samePeer ?_ (proceed_samePeer accepts now)
      exact onFrames_samePeer accepts now c.incoming { c with incoming := [] }
  rw [hturn]
  exact settle_samePeer hworked

end Connection

namespace GroupCache

variable (now : Nat)

theorem handleAll_registration (events : List CacheEvent) (c : GroupCache) :
    (handleAll now events c).1.registration = c.registration := by
  induction events generalizing c with
  | nil => rfl
  | cons e later ih => exact (ih (c.handle now e).1).trans (c.handle_registration now e)

/-- A cache is enabled and disabled from outside only. -/
theorem turn_registration (c : GroupCache) : (c.turn now).1.registration = c.registration :=
  handleAll_registration now c.events { c with events := [] }

end GroupCache

namespace Part

variable {p : Part} (now : Nat)

theorem leavesOf_transmitAll (frames : List Frame) : leavesOf (transmitAll frames) = [] := by
  refine leavesOf_eq_nil fun e he => ?_
  obtain ⟨f, -, rfl⟩ := List.mem_map.1 he
  rfl

theorem leavesOf_cacheActions (actions : List CacheAction) :
    leavesOf (actions.flatMap ofCacheAction) = [] := by
  refine leavesOf_eq_nil fun e he => ?_
  obtain ⟨a, -, ha⟩ := List.mem_flatMap.1 he
  cases a with
  | ask g =>
    unfold ofCacheAction at ha
    simp only at ha
    split at ha
    · rw [List.mem_singleton.1 ha]
      rfl
    · exact absurd ha List.not_mem_nil
  | answer reader entry =>
    rw [List.mem_singleton.1 ha]
    rfl
  | list reader entries =>
    rw [List.mem_singleton.1 ha]
    rfl

theorem leavesOf_gatewayActions (actions : List GatewayAction) :
    leavesOf (actions.map ofGatewayAction) = [] := by
  refine leavesOf_eq_nil fun e he => ?_
  obtain ⟨a, -, rfl⟩ := List.mem_map.1 he
  cases a <;> rfl

theorem leavesOf_datagrams (out : List Outgoing) : leavesOf (out.map .datagram) = [] := by
  refine leavesOf_eq_nil fun e he => ?_
  obtain ⟨o, -, rfl⟩ := List.mem_map.1 he
  rfl

/-- **A turn lets go of nothing or of everything.**  In the first case it gives up no number; in the
second, which is that of a connection that closes, it gives up all that it has let go of. -/
theorem turn_stance (accepts : Frame → Bool) (hdue : p.isDue now = true)
    (hsound : p.isSound = true) :
    ((p.turn accepts now).1.stance = p.stance ∧ leavesOf (p.turn accepts now).2 = []) ∨
      ((p.turn accepts now).1.stance = { p.stance with holds := [] } ∧
        leavesOf (p.turn accepts now).2 = p.holds.map Prod.fst) := by
  cases p with
  | listener r => cases hdue
  | socket s => cases hdue
  | connection c =>
    have hopen : c.isClosed = false := by
      have hboth : (!c.isClosed && (c.hasWork || decide (c.nextDeadline ≤ now))) = true := hdue
      rw [Bool.and_eq_true, Bool.not_eq_true'] at hboth
      exact hboth.1
    obtain ⟨hregistration, hpeer⟩ := c.turn_samePeer accepts now
    have heffects : ((connection c).turn accepts now).2 =
        transmitAll (c.turn accepts now).2 ++
          if (c.turn accepts now).1.isClosed then [.leave c.registration] else [] := rfl
    have hstance : ((connection c).turn accepts now).1.stance =
        ⟨if (c.turn accepts now).1.isClosed then []
          else [((c.turn accepts now).1.registration,
            Connection.route (c.turn accepts now).1.peer)], none, true⟩ := rfl
    have hholds : (connection c).holds = [(c.registration, Connection.route c.peer)] := by
      rw [holds, hopen]
      rfl
    have hbefore : (connection c).stance =
        ⟨[(c.registration, Connection.route c.peer)], none, true⟩ := by
      rw [stance, hholds]
      rfl
    rw [hstance, heffects, hbefore, hholds, leavesOf_append, leavesOf_transmitAll, hregistration,
      hpeer]
    cases (c.turn accepts now).1.isClosed with
    | true => exact Or.inr ⟨rfl, rfl⟩
    | false => exact Or.inl ⟨rfl, rfl⟩
  | cache c =>
    refine Or.inl ⟨?_, leavesOf_cacheActions _⟩
    have hstance : ((cache c).turn accepts now).1.stance =
        ⟨(c.turn now).1.registration.toList.map fun id => (id, GroupCache.route), none, true⟩ := rfl
    rw [hstance, c.turn_registration now]
    rfl
  | gateway g =>
    refine Or.inl ⟨?_, leavesOf_gatewayActions _⟩
    obtain ⟨hgoing, -, -⟩ := isSound_gateway hsound
    obtain ⟨hsetup, hended⟩ := g.turn_setup now
    rw [hgoing, Bool.or_false] at hended
    have hstance : ((gateway g).turn accepts now).1.stance =
        ⟨(g.turn now).1.registrations.zip Gateway.routes, none,
          !(g.turn now).1.stopping && !(g.turn now).1.isEnded &&
            (g.turn now).1.registrations.length ==
              if (g.turn now).1.config.usesBus then Gateway.routes.length else 0⟩ := rfl
    rw [hstance, hsetup.registrations_eq, hsetup.stopping_eq, hended, hsetup.config_eq]
    rfl

/-! ## The end of a part -/

/-- The numbers of a gateway are those of its subscriptions. -/
theorem holds_gateway {g : Gateway} (h : (gateway g).isSound = true) :
    (gateway g).holds.map Prod.fst = g.registrations := by
  obtain ⟨-, -, hlength⟩ := isSound_gateway h
  refine List.map_fst_zip ?_
  rw [hlength]
  split
  · exact Nat.le_refl _
  · exact Nat.zero_le _

/-- **The end of a part gives up everything that it holds**, and nothing else. -/
theorem leavesOf_close (hsound : p.isSound = true) :
    leavesOf (p.close now) = p.holds.map Prod.fst ++ p.listener?.toList := by
  cases p with
  | listener r => rfl
  | socket s =>
    show leavesOf (s.registration.toList.map .leave) = _
    rw [leavesOf_leaves]
    simp [holds, listener?, Function.comp_def]
  | connection c =>
    show leavesOf (if c.isClosed then [] else transmitAll c.finish.2 ++ [.leave c.registration]) = _
    cases hclosed : c.isClosed with
    | true => simp [holds, listener?, hclosed, leavesOf]
    | false =>
      rw [if_neg (by decide), leavesOf_append, leavesOf_transmitAll]
      simp [holds, listener?, hclosed, leavesOf, Effect.leaver?]
  | cache c =>
    show leavesOf (c.registration.toList.map .leave ++ (c.finish now).flatMap ofCacheAction) = _
    rw [leavesOf_append, leavesOf_leaves, leavesOf_cacheActions]
    simp [holds, listener?, Function.comp_def]
  | gateway g =>
    show leavesOf (g.registrations.map .leave ++
      if g.isEnded then [] else g.finish.2.map .datagram) = _
    obtain ⟨-, hended, -⟩ := isSound_gateway hsound
    rw [hended, if_neg (by decide), leavesOf_append, leavesOf_leaves, leavesOf_datagrams,
      holds_gateway hsound]
    rfl

end Part
end KnxBus
