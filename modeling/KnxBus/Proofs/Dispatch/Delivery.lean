import KnxBus.Proofs.Dispatch.Hearing
import KnxBus.Proofs.Dispatch.Listening
import KnxBus.Proofs.Socket

/-!
# Delivery to sockets

A hall is a desk with the sockets that receive through it.  A socket is opened by drawing a number
for the frames of its kind; from then on whatever the desk hands out under that number goes to the
socket, and its reader takes items whenever it likes.  Others register at the same desk, for whatever
they like, and what is handed to them is nobody's business here.

The main statement is `Hall.sockets_get_their_frames`.  It says of each socket, from the events that
the desk has handled, which items were pushed: those of the frames that were handled while its
subscription was there, as far as they are for the socket and it makes something of them, in that
order and once each.  All of them are still queued, or were given to the reader in that order, or
were the oldest unread one when something was pushed into a full queue.

Which frames are for a socket of a kind, and what it makes of them, is said in `SocketKind.Hears`;
nothing else is ever pushed (`Served.mem_pushed_iff`).

## Why nobody else matters

Everything that is handed out carries the sink of a subscription.  A sink that leads to a socket was
named when the number of that socket was drawn, and the desk knows of no other subscription with that
sink or that number (`Served.bound`).  As no two subscriptions have the same number, a frame reaches
the socket once or not at all, and which of the two depends on nothing but the route of the socket
and on whether its subscription is there.
-/

namespace KnxBus

variable {σ τ : Type}

/-- Where the frames of a subscription go. -/
inductive Outlet (τ : Type) where
  /-- To the socket that was opened under a number. -/
  | socket (number : Nat)
  /-- Anywhere else. -/
  | other (sink : τ)
  deriving DecidableEq, Repr

/-- A request with another sink. -/
def Request.map (f : σ → τ) : Request σ → Request τ
  | .frames route sink => .frames route (f sink)
  | .captures isVirtual sink => .captures isVirtual (f sink)

/-! ## Handing out -/

/-- What is handed to subscribers when a frame is seen. -/
def Registry.handouts (seen : Frame) (subscribers : List (Subscriber σ)) :
    List (σ × Registry.Handed) :=
  (subscribers.filter fun s => s.route.accepts seen).map fun s => (s.sink, .frame seen)

theorem Registry.handouts_split (seen : Frame) (before after : List (Subscriber σ))
    (s : Subscriber σ) :
    handouts seen (before ++ s :: after) =
      handouts seen before ++ (if s.route.accepts seen then [(s.sink, .frame seen)] else []) ++
        handouts seen after := by
  unfold handouts
  by_cases hroute : s.route.accepts seen = true <;> simp [hroute]

namespace SocketRecord

/-- The medium is lost. -/
def lose (r : SocketRecord) : SocketRecord := { r with socket := r.socket.lose }

/-- Something is handed out. -/
def hand (r : SocketRecord) : Outlet τ × Registry.Handed → SocketRecord
  | (.socket n, .frame frame) => if n = r.number then r.deliver frame else r
  | (.socket n, .lost) => if n = r.number then r.lose else r
  | _ => r

theorem hand_of_ne {r : SocketRecord} {x : Outlet τ × Registry.Handed}
    (h : x.1 ≠ .socket r.number) : r.hand x = r := by
  unfold hand
  split
  · exact if_neg fun heq => h (congrArg Outlet.socket heq)
  · exact if_neg fun heq => h (congrArg Outlet.socket heq)
  · rfl

/-- What goes elsewhere does not concern a socket. -/
theorem foldl_hand_of_ne {r : SocketRecord} {handed : List (Outlet τ × Registry.Handed)}
    (h : ∀ x ∈ handed, x.1 ≠ .socket r.number) : handed.foldl hand r = r := by
  induction handed with
  | nil => rfl
  | cons x later ih =>
    rw [List.foldl_cons, hand_of_ne (h x List.mem_cons_self)]
    exact ih fun y hy => h y (List.mem_cons_of_mem x hy)

/-- As long as no frame is handed out, a socket only learns that it is to end. -/
theorem foldl_hand_of_no_frame {handed : List (Outlet τ × Registry.Handed)}
    (h : ∀ x ∈ handed, ∀ frame, x.2 ≠ .frame frame) (r : SocketRecord) :
    ∃ flags, handed.foldl hand r = r.withFlags flags := by
  refine List.foldlRecOn (motive := fun r' => ∃ flags, r' = r.withFlags flags) handed hand
    ⟨r.socket.flags, rfl⟩ ?_
  rintro r' ⟨flags, rfl⟩ x hx
  unfold hand
  split
  · exact absurd rfl (h _ hx _)
  · split
    · exact ⟨flags.raise .stop, rfl⟩
    · exact ⟨flags, rfl⟩
  · exact ⟨flags, rfl⟩

section
variable {r : SocketRecord} {subscribers : List (Subscriber (Outlet τ))}

/-- A frame does not reach a socket through the subscriptions of others. -/
theorem foldl_hand_others {seen : Frame} (hbound : ∀ s ∈ subscribers, s.sink = .socket r.number →
      s.id = r.number) (hothers : ∀ s ∈ subscribers, s.id ≠ r.number) :
    (Registry.handouts seen subscribers).foldl hand r = r := by
  refine foldl_hand_of_ne fun x hx hsink => ?_
  obtain ⟨s, hs, rfl⟩ := List.mem_map.1 hx
  have hs' : s ∈ subscribers := (List.mem_filter.1 hs).1
  exact hothers s hs' (hbound s hs' hsink)

/-- Of all subscriptions to which a frame is handed, only its own concerns a socket. -/
theorem foldl_hand_frame (hids : (subscribers.map (·.id)).Nodup)
    (hbound : ∀ s ∈ subscribers, s.id = r.number ∨ s.sink = .socket r.number →
      s = ⟨r.number, r.socket.kind.route, .socket r.number⟩) (seen : Frame) :
    (Registry.handouts seen subscribers).foldl hand r =
      if (∃ s ∈ subscribers, s.id = r.number) ∧ r.socket.kind.route.accepts seen = true then
        r.deliver seen
      else r := by
  have hsinks : ∀ s ∈ subscribers, s.sink = .socket r.number → s.id = r.number :=
    fun s hs hsink => by rw [hbound s hs (.inr hsink)]
  by_cases hthere : ∃ s ∈ subscribers, s.id = r.number
  · obtain ⟨own, hown, hid⟩ := hthere
    have hself := hbound own hown (.inl hid)
    have hroute : own.route = r.socket.kind.route := by rw [hself]
    have hsink : own.sink = .socket r.number := by rw [hself]
    have hthere : ∃ s ∈ subscribers, s.id = r.number := ⟨own, hown, hid⟩
    obtain ⟨before, after, rfl⟩ := List.append_of_mem hown
    have hothers : ∀ s ∈ before ++ after, s.id ≠ r.number := fun s hs =>
      hid ▸ Subscriber.id_ne_of_nodup hids s hs
    have hbefore : (Registry.handouts seen before).foldl hand r = r :=
      foldl_hand_others (fun s hs => hsinks s (List.mem_append_left _ hs))
        fun s hs => hothers s (List.mem_append_left after hs)
    -- what is handed out behind its own subscription finds the socket with the frame delivered
    have hafter (r' : SocketRecord) (hnumber : r'.number = r.number) :
        (Registry.handouts seen after).foldl hand r' = r' := by
      refine foldl_hand_others (fun s hs => ?_) fun s hs => ?_
      · rw [hnumber]
        exact hsinks s (List.mem_append_right before (List.mem_cons_of_mem own hs))
      · rw [hnumber]
        exact hothers s (List.mem_append_right before hs)
    rw [Registry.handouts_split, List.foldl_append, List.foldl_append, hbefore, hroute, hsink]
    by_cases hwanted : r.socket.kind.route.accepts seen = true
    · rw [if_pos hwanted, if_pos (And.intro hthere hwanted), List.foldl_cons, List.foldl_nil, hand,
        if_pos rfl]
      exact hafter _ (r.deliver_number seen)
    · rw [if_neg hwanted, if_neg fun h => hwanted h.2]
      exact hafter r rfl
  · rw [if_neg fun h => hthere h.1]
    exact foldl_hand_others hsinks fun s hs hid => hthere ⟨s, hs, hid⟩

end

end SocketRecord

namespace Desk

/-- What a desk hands out in a move. -/
def handedOut (desk : Desk σ) : Act → List (σ × Registry.Handed)
  | .serve verdict own => (desk.next? verdict own).toList.flatMap (·.done.handed)
  | _ => []

/-- Frames are handed out for an event that brings one, and for no other. -/
theorem not_frame_of_handle (verdict : Verdict) (own : IndividualAddress) (d : Dispatcher σ)
    {e : DispatchEvent σ} (h : e.frame? = none) :
    ∀ x ∈ (d.handle verdict own e).handed, ∀ frame, x.2 ≠ .frame frame := by
  cases e with
  | subscribe s => exact fun _ hx => absurd hx List.not_mem_nil
  | monitor m => exact fun _ hx => absurd hx List.not_mem_nil
  | unsubscribe id => exact fun _ hx => absurd hx List.not_mem_nil
  | heard heard =>
    cases heard with
    | data frame => cases h
    | capture raw =>
      intro x hx frame
      obtain ⟨m, -, rfl⟩ := List.mem_map.1 hx
      exact fun heq => nomatch heq
    | _ => exact fun _ hx => absurd hx List.not_mem_nil
  | lost =>
    intro x hx frame
    obtain hx | hx := List.mem_append.1 hx
    · obtain ⟨s, -, rfl⟩ := List.mem_map.1 hx
      exact fun heq => nomatch heq
    · obtain ⟨m, -, rfl⟩ := List.mem_map.1 hx
      exact fun heq => nomatch heq

end Desk

/-! ## One socket at a desk -/

/-- What holds of a socket at a desk. -/
structure Served (desk : Desk (Outlet τ)) (r : SocketRecord) : Prop where
  /-- Its number has been drawn. -/
  number_lt : r.number < desk.dispatcher.nextId
  /-- The desk knows of one subscription at most that has its number or leads to it, and that is its
  own. -/
  bound : ∀ s, desk.Knows s → s.id = r.number ∨ s.sink = .socket r.number →
    s = ⟨r.number, r.socket.kind.route, .socket r.number⟩
  /-- Nothing is lost in its queue but what is dropped. -/
  kept : r.Kept
  /-- Pushed was what it makes of the frames that it was there to hear. -/
  pushed_eq : r.pushed = (desk.hearing r.number).frames.filterMap fun heard =>
    r.socket.kind.heard? heard.1 heard.2

section
variable {desk after : Desk (Outlet τ)} {r : SocketRecord}

/-- Pushed are the items that a socket of its kind is meant to make of these frames. -/
theorem Served.mem_pushed_iff (h : Served desk r) {item : SocketItem} :
    item ∈ r.pushed ↔ ∃ own frame, (own, frame) ∈ (desk.hearing r.number).frames ∧
      r.socket.kind.Hears own frame item := by
  rw [h.pushed_eq, List.mem_filterMap]
  simp only [SocketKind.heard?_eq_some_iff, Prod.exists]

/-- A move that handles nothing and adds no subscription of the socket. -/
theorem Served.of_desk (h : Served desk r)
    (hnext : desk.dispatcher.nextId ≤ after.dispatcher.nextId)
    (hknows : ∀ s, after.Knows s → s.id = r.number ∨ s.sink = .socket r.number → desk.Knows s)
    (hlog : after.log = desk.log) : Served after r where
  number_lt := Nat.lt_of_lt_of_le h.number_lt hnext
  bound s hs hr := h.bound s (hknows s hs hr) hr
  kept := h.kept
  pushed_eq := by
    rw [Desk.hearing, hlog]
    exact h.pushed_eq

theorem Served.withFlags (h : Served desk r) (flags : Flags) : Served desk (r.withFlags flags) :=
  ⟨h.number_lt, h.bound, h.kept.withFlags flags, h.pushed_eq⟩

theorem Served.take (h : Served desk r) : Served desk r.take :=
  ⟨h.number_lt, h.bound, h.kept.take, h.pushed_eq⟩

/-- What a frame that is handled adds to what the socket was there to hear. -/
theorem heard_frame (hreach : desk.Reachable) (kind : SocketKind) (number : Nat) (verdict : Verdict)
    (own : IndividualAddress) (frame : Frame) (later : List (DispatchEvent (Outlet τ))) :
    (((desk.record (desk.handling verdict own (.heard (.data frame)) later)).hearing
        number).frames.filterMap fun heard => kind.heard? heard.1 heard.2) =
      ((desk.hearing number).frames.filterMap fun heard => kind.heard? heard.1 heard.2) ++
        if desk.registry.HasSubscriber number ∧ kind.route.accepts (frame.seenFrom own) = true then
          (kind.image? (frame.seenFrom own)).toList
        else [] := by
  have hpresent := hreach.present_iff number
  have hnote : ((desk.hearing number).note number
      (desk.handling verdict own (.heard (.data frame)) later)).frames =
        if (desk.hearing number).present = true then
          (desk.hearing number).frames ++ [(own, frame)]
        else (desk.hearing number).frames := by
    show Hearing.frames (if _ then _ else _) = _
    split <;> rfl
  rw [Desk.hearing_record, hnote]
  by_cases hthere : desk.registry.HasSubscriber number
  · rw [if_pos (hpresent.2 hthere), List.filterMap_append]
    by_cases hwanted : kind.route.accepts (frame.seenFrom own) = true
    · rw [if_pos (And.intro hthere hwanted)]
      cases himage : kind.image? (frame.seenFrom own) <;>
        simp [SocketKind.heard?, hwanted, himage]
    · rw [if_neg fun h => hwanted h.2]
      simp [SocketKind.heard?, hwanted]
  · rw [if_neg fun h => hthere (hpresent.1 h), if_neg fun h => hthere h.1, List.append_nil]

/-- Handling the oldest event. -/
theorem Served.record (h : Served desk r) (hreach : desk.Reachable) {verdict : Verdict}
    {own : IndividualAddress} {e : DispatchEvent (Outlet τ)}
    {later : List (DispatchEvent (Outlet τ))}
    (hafter : after = desk.record (desk.handling verdict own e later))
    (hnext : after.dispatcher.nextId = desk.dispatcher.nextId)
    (hknows : ∀ s, after.Knows s → desk.Knows s) :
    Served after ((desk.handling verdict own e later).done.handed.foldl .hand r) := by
  have hlt : r.number < after.dispatcher.nextId := hnext ▸ h.number_lt
  have hbound (s : Subscriber (Outlet τ)) (hs : after.Knows s) := h.bound s (hknows s hs)
  cases hframe : e.frame? with
  | none =>
    obtain ⟨flags, hflags⟩ := SocketRecord.foldl_hand_of_no_frame
      (Desk.not_frame_of_handle verdict own (desk.dispatcher.withEvents later) hframe) r
    have hquiet : (after.hearing r.number).frames = (desk.hearing r.number).frames := by
      rw [hafter, Desk.hearing_record, Hearing.note_frames_of_none hframe]
    have hserved : Served after r := ⟨hlt, hbound, h.kept, by rw [hquiet, h.pushed_eq]⟩
    exact hflags ▸ hserved.withFlags flags
  | some frame =>
    obtain rfl := DispatchEvent.eq_of_frame? hframe
    have hids : (desk.registry.subscribers.map (·.id)).Nodup :=
      (List.nodup_append.1 hreach.fresh.numbers_nodup).1
    have hheard := heard_frame hreach r.socket.kind r.number verdict own frame later
    have hhanded : (desk.handling verdict own (.heard (.data frame)) later).done.handed.foldl .hand r =
        if desk.registry.HasSubscriber r.number ∧
            r.socket.kind.route.accepts (frame.seenFrom own) = true then
          r.deliver (frame.seenFrom own)
        else r :=
      SocketRecord.foldl_hand_frame hids (fun s hs => h.bound s (.inl hs)) (frame.seenFrom own)
    rw [hhanded]
    rw [← hafter] at hheard
    split at hheard
    · rename_i hwanted
      rw [if_pos hwanted]
      refine ⟨?_, ?_, h.kept.deliver _, ?_⟩
      · rw [SocketRecord.deliver_number]
        exact hlt
      · rw [SocketRecord.deliver_number, SocketRecord.deliver_kind]
        exact hbound
      · rw [SocketRecord.deliver_pushed, SocketRecord.deliver_number, SocketRecord.deliver_kind,
          hheard, h.pushed_eq]
    · rename_i hunwanted
      rw [if_neg hunwanted]
      exact ⟨hlt, hbound, h.kept, by rw [hheard, List.append_nil, h.pushed_eq]⟩

/-- Whatever happens at the desk, the socket gets what it is handed. -/
theorem Served.act (h : Served desk r) (hreach : desk.Reachable) (a : Desk.Act) :
    Served (desk.act a) ((desk.handedOut a).foldl .hand r) := by
  have hnext := desk.act_nextId a
  have hknows (s : Subscriber (Outlet τ)) (hs : (desk.act a).Knows s) : desk.Knows s := hs.of_act
  have hquiet (hlog : (desk.act a).log = desk.log) : Served (desk.act a) r :=
    h.of_desk (Nat.le_of_eq hnext.symm) (fun s hs _ => hknows s hs) hlog
  cases a with
  | serve verdict own =>
    have hact : desk.act (.serve verdict own) = desk.serve verdict own := rfl
    rw [Desk.handedOut]
    cases hoccasion : desk.next? verdict own with
    | none =>
      refine hquiet ?_
      rw [hact, Desk.serve, hoccasion]
    | some handled =>
      obtain ⟨e, later, -, rfl⟩ := Desk.next?_eq_some hoccasion
      rw [Option.toList_some, List.flatMap_cons, List.flatMap_nil, List.append_nil]
      exact h.record hreach (by rw [hact, Desk.serve, hoccasion]) hnext hknows
  | submit id =>
    refine hquiet ?_
    show (desk.submit id).log = desk.log
    unfold Desk.submit
    split <;> rfl
  | leave id => exact hquiet rfl
  | hear heard => exact hquiet rfl
  | lose => exact hquiet rfl
  | halt verdict => exact hquiet rfl

end

/-! ## The hall -/

/-- A desk with sockets. -/
structure Hall (τ : Type) where
  /-- The desk. -/
  desk : Desk (Outlet τ)
  /-- The sockets that have been opened, oldest first. -/
  sockets : List SocketRecord

namespace Hall

/-- What can happen in a hall. -/
inductive Move (τ : Type) where
  /-- A socket is opened for reading. -/
  | opens (kind : SocketKind)
  /-- Somebody else wants to register. -/
  | asks (request : Request τ)
  /-- Something happens at the desk. -/
  | act (a : Desk.Act)
  /-- The reader of the socket of a number takes an item. -/
  | reads (number : Nat)

/-- A hall that has just been opened. -/
def start : Hall τ := ⟨.start, []⟩

/-- Opens a socket for reading, as long as the desk works. -/
def opens (hall : Hall τ) (kind : SocketKind) : Hall τ :=
  if hall.desk.dispatcher.running then
    let number := hall.desk.dispatcher.nextId
    { desk := hall.desk.draw (.frames kind.route (.socket number))
      sockets := hall.sockets ++ [.opened kind number] }
  else hall

/-- Something happens. -/
def step (hall : Hall τ) : Move τ → Hall τ
  | .opens kind => hall.opens kind
  | .asks request => { hall with desk := hall.desk.draw (request.map .other) }
  | .act a =>
    { desk := hall.desk.act a
      sockets := hall.sockets.map fun r => (hall.desk.handedOut a).foldl .hand r }
  | .reads number =>
    { hall with
      sockets := hall.sockets.map fun r => if r.number = number then r.take else r }

/-- One thing after the other happens. -/
def run (moves : List (Move τ)) (hall : Hall τ) : Hall τ := moves.foldl step hall

/-- What holds of a hall. -/
structure Sound (hall : Hall τ) : Prop where
  /-- Its desk is one at which things happen as at every other. -/
  reachable : hall.desk.Reachable
  /-- Sinks lead to sockets only whose numbers have been drawn. -/
  sinks_lt : ∀ s, hall.desk.Knows s → ∀ n, s.sink = .socket n → n < hall.desk.dispatcher.nextId
  /-- All sockets get their frames. -/
  served : ∀ r ∈ hall.sockets, Served hall.desk r

theorem start_sound : (start : Hall τ).Sound where
  reachable := ⟨[], rfl⟩
  sinks_lt s hs := by
    obtain h | h | h := hs <;> exact absurd h List.not_mem_nil
  served _ hr := absurd hr List.not_mem_nil

/-- If a request leads to a socket, then to one of the number that is drawn for it. -/
def NamesNext (hall : Hall τ) (request : Request (Outlet τ)) : Prop :=
  ∀ route n, request = .frames route (.socket n) → n = hall.desk.dispatcher.nextId

/-- Drawing a number for somebody else does not concern the sockets that there are. -/
theorem Sound.served_draw {hall : Hall τ} (h : hall.Sound) {request : Request (Outlet τ)}
    (hrequest : hall.NamesNext request) :
    ∀ r ∈ hall.sockets, Served (hall.desk.draw request) r := by
  intro r hr
  have hserved := h.served r hr
  refine hserved.of_desk (hall.desk.draw_nextId_le request) (fun s hs hown => ?_)
    (hall.desk.draw_log request)
  obtain hold | ⟨hid, hnew⟩ := hs.of_draw
  · exact hold
  · have hlt := hserved.number_lt
    obtain hnumber | hsink := hown
    · omega
    · rw [hsink] at hnew
      have hdrawn := hrequest s.route r.number hnew
      omega

theorem Sound.sinks_lt_draw {hall : Hall τ} (h : hall.Sound) {request : Request (Outlet τ)}
    (hrequest : hall.NamesNext request) :
    ∀ s, (hall.desk.draw request).Knows s → ∀ n, s.sink = .socket n →
      n < (hall.desk.draw request).dispatcher.nextId := by
  intro s hs n hsink
  obtain hold | ⟨hid, hnew⟩ := hs.of_draw
  · exact Nat.lt_of_lt_of_le (h.sinks_lt s hold n hsink) (hall.desk.draw_nextId_le request)
  · rw [hsink] at hnew
    rw [hrequest s.route n hnew, ← hid]
    exact hs.id_lt (h.reachable.fresh.draw request)

theorem Sound.asks {hall : Hall τ} (h : hall.Sound) (request : Request τ) :
    (hall.step (.asks request)).Sound := by
  have hrequest : hall.NamesNext (request.map Outlet.other) := by
    intro route n heq
    cases request <;> cases heq
  exact ⟨h.reachable.step (.draw _), h.sinks_lt_draw hrequest, h.served_draw hrequest⟩

/-- A socket that has just been opened was not there to hear anything. -/
theorem Sound.served_opened {hall : Hall τ} (h : hall.Sound)
    (hrunning : hall.desk.dispatcher.running = true) (kind : SocketKind) :
    Served (hall.desk.draw (.frames kind.route (.socket hall.desk.dispatcher.nextId)))
      (.opened kind hall.desk.dispatcher.nextId) where
  number_lt := by
    unfold Desk.draw
    rw [if_pos hrunning]
    exact Nat.lt_succ_self _
  bound s hs hown := by
    obtain hold | ⟨hid, hnew⟩ := hs.of_draw
    · obtain hnumber | hsink := hown
      · exact absurd hnumber (Nat.ne_of_lt (hold.id_lt h.reachable.fresh))
      · exact absurd (h.sinks_lt s hold _ hsink) (Nat.lt_irrefl _)
    · obtain ⟨id, route, sink⟩ := s
      cases hid
      cases hnew
      rfl
  kept := SocketRecord.opened_kept kind _
  pushed_eq := by
    have hquiet := h.reachable.hearing_frames (Nat.le_refl _)
    rw [Desk.hearing, Desk.draw_log]
    exact (congrArg (List.filterMap _) hquiet).symm

theorem Sound.opens {hall : Hall τ} (h : hall.Sound) (kind : SocketKind) :
    (hall.opens kind).Sound := by
  unfold Hall.opens
  split
  · rename_i hrunning
    have hrequest : hall.NamesNext (.frames kind.route (.socket hall.desk.dispatcher.nextId)) := by
      intro route n heq
      cases heq
      rfl
    refine ⟨h.reachable.step (.draw _), h.sinks_lt_draw hrequest, fun r hr => ?_⟩
    obtain hold | hnew := List.mem_append.1 hr
    · exact h.served_draw hrequest r hold
    · rw [List.mem_singleton.1 hnew]
      exact h.served_opened hrunning kind
  · exact h

theorem Sound.act {hall : Hall τ} (h : hall.Sound) (a : Desk.Act) : (hall.step (.act a)).Sound := by
  refine ⟨h.reachable.step (.act a), fun s hs n hsink => ?_, fun r hr => ?_⟩
  · show n < (hall.desk.act a).dispatcher.nextId
    rw [Desk.act_nextId]
    exact h.sinks_lt s hs.of_act n hsink
  · obtain ⟨before, hbefore, rfl⟩ := List.mem_map.1 hr
    exact (h.served before hbefore).act h.reachable a

theorem Sound.reads {hall : Hall τ} (h : hall.Sound) (number : Nat) :
    (hall.step (.reads number)).Sound := by
  refine ⟨h.reachable, h.sinks_lt, fun r hr => ?_⟩
  obtain ⟨before, hbefore, rfl⟩ := List.mem_map.1 hr
  split
  · exact (h.served before hbefore).take
  · exact h.served before hbefore

theorem Sound.step {hall : Hall τ} (h : hall.Sound) (move : Move τ) : (hall.step move).Sound := by
  cases move with
  | opens kind => exact h.opens kind
  | asks request => exact h.asks request
  | act a => exact h.act a
  | reads number => exact h.reads number

/-- **Sockets get their frames.**  Whatever happens in a hall, of each socket the following holds.
Pushed into its queue was what it makes of the frames that were handled while its subscription was
there: of those that its route accepts, seen from the address that this device had, and in the order
in which they were handled.  What was pushed has left at the front of the queue or is still there.
What has left was given to the reader, or was dropped; and as many were dropped as there were pushes
while the queue was full. -/
theorem sockets_get_their_frames (moves : List (Move τ)) :
    let hall := run moves (start : Hall τ)
    ∀ r ∈ hall.sockets,
      (r.pushed = (hall.desk.hearing r.number).frames.filterMap fun (own, frame) =>
        let seen := frame.seenFrom own
        if r.socket.kind.route.accepts seen then r.socket.kind.image? seen else none) ∧
      r.gone.map Prod.fst ++ r.unread = r.pushed ∧
      Departure.read.items r.gone = r.given ∧
      (Departure.dropped.items r.gone).length = r.overfull := by
  intro hall r hr
  have hsound : hall.Sound := List.foldlRecOn moves step start_sound fun _ h move _ => h.step move
  have hserved := hsound.served r hr
  exact ⟨hserved.pushed_eq, hserved.kept.pushed_eq, hserved.kept.given_eq, hserved.kept.dropped_eq⟩

/-- A question to a group. -/
def question (sub : UInt16) : Frame := .addressed (.group ⟨2304 + sub⟩) [0, 0]

/-- A socket for a group is there while two frames are handled, one of them for its group, and has
left when a third one comes. -/
def visit : List (Move Unit) :=
  [.opens (.group ⟨2305⟩), .act (.submit 1), .act (.hear (.data (question 1))),
    .act (.hear (.data (question 2))), .act (.leave 1), .act (.hear (.data (question 1))),
    .act (.serve (fun _ => .ok ()) .unset), .act (.serve (fun _ => .ok ()) .unset), .reads 1,
    .act (.serve (fun _ => .ok ()) .unset), .act (.serve (fun _ => .ok ()) .unset),
    .act (.serve (fun _ => .ok ()) .unset)]

theorem sockets_get_their_frames_visit :
    ∃ r ∈ (run visit start).sockets,
      r.pushed = [⟨[0, 0], .unset, .group ⟨2305⟩⟩] ∧
      r.given = [⟨[0, 0], .unset, .group ⟨2305⟩⟩] ∧ r.overfull = 0 := by
  have hopened : (run visit start).sockets ≠ [] := List.cons_ne_nil _ _
  have hr := List.head_mem hopened
  obtain ⟨hpushed, -, hgiven, hdropped⟩ := sockets_get_their_frames visit _ hr
  exact ⟨_, hr, hpushed.trans rfl, hgiven.symm.trans rfl, hdropped.symm.trans rfl⟩

end Hall
end KnxBus
