import SessionBus.Proofs.Frame.Set
import SessionBus.Proofs.Keyed
import SessionBus.Registry.Exchange

/-!
# What waits in the inboxes of an exchange

An exchange holds some packets for frames when its inboxes are open for the registered frames and
have just these packets in them.  A packet that is delivered is held for the registered frames on
its route, and a frame that collects its packets takes what is held for it and nothing else.
-/

namespace SessionBus

/-- The packets that have come for frames and are not collected yet. -/
abbrev Pending := FrameId → List Packet

namespace Pending

def nothing : Pending :=
  fun _ => []

/-- The packets of one frame are collected. -/
def without (pending : Pending) (frame : FrameId) : Pending :=
  fun other => if other = frame then [] else pending other

/-- A packet has come for the registered frames on its route. -/
def ofPacket (board : Switchboard) (route : Route) (packet : Packet) : Pending :=
  fun frame =>
    if frame ∈ board.frames.toList ∧ route.includes frame packet.sender = true then [packet]
    else []

end Pending

namespace Exchange

/-- The exchange serves the switchboard and has the packets in its inboxes. -/
structure Holds (exchange : Exchange) (board : Switchboard) (pending : Pending) : Prop where
  running : exchange.board = some board
  apart : (exchange.inboxes.map (·.frame)).Nodup
  opened :
    ∀ frame ∈ board.frames.toList,
      ∃ inbox ∈ exchange.inboxes, inbox.frame = frame ∧ inbox.closed = false
  packets : ∀ inbox ∈ exchange.inboxes, inbox.packets = pending inbox.frame
  absent : ∀ frame, frame ∉ exchange.inboxes.map (·.frame) → pending frame = []

variable {exchange : Exchange} {board : Switchboard} {pending : Pending}

theorem holds_start (limits : Limits) : (start limits).Holds (.empty limits) .nothing where
  running := rfl
  apart := List.nodup_nil
  opened := by simp [Switchboard.empty, FrameSet.empty]
  packets := by simp [start]
  absent := fun _ _ => rfl

/-- The frames of inboxes do not change when each inbox keeps its own. -/
theorem map_frame_map {change : Inbox → Inbox} (kept : ∀ inbox, (change inbox).frame = inbox.frame)
    (inboxes : List Inbox) : (inboxes.map change).map (·.frame) = inboxes.map (·.frame) := by
  simp [Function.comp_def, kept]

/-! ## Collecting -/

/-- A frame takes what is held for it, and the packets of the others stay. -/
theorem Holds.collect (holds : exchange.Holds board pending) (frame : FrameId) :
    (exchange.collect frame).1 = pending frame ∧
      (exchange.collect frame).2.Holds board (pending.without frame) := by
  constructor
  · unfold Exchange.collect inbox?
    by_cases known : frame ∈ exchange.inboxes.map (·.frame)
    · rcases List.mem_map.mp known with ⟨inbox, inside, rfl⟩
      simp [Keyed.find?_of_mem holds.apart inside, holds.packets inbox inside]
    · simp [Keyed.find?_eq_none known, holds.absent frame known]
  · let emptied := fun inbox : Inbox =>
      if inbox.frame = frame then { inbox with packets := [] } else inbox
    have frames : ∀ inbox, (emptied inbox).frame = inbox.frame := by
      intro inbox
      simp only [emptied]
      split <;> rfl
    constructor
    · exact holds.running
    · exact (map_frame_map frames exchange.inboxes).symm ▸ holds.apart
    · intro other registered
      rcases holds.opened other registered with ⟨inbox, inside, same, isOpen⟩
      refine ⟨emptied inbox, List.mem_map_of_mem inside, (frames inbox).trans same, ?_⟩
      simp only [emptied]
      split <;> exact isOpen
    · simp only [Exchange.collect, List.forall_mem_map]
      intro inbox inside
      have before := holds.packets inbox inside
      by_cases here : inbox.frame = frame <;> simp [Pending.without, here, before]
    · intro other unknown
      have unknownBefore : other ∉ exchange.inboxes.map (·.frame) :=
        (map_frame_map frames exchange.inboxes) ▸ unknown
      simp [Pending.without, holds.absent other unknownBefore]

/-! ## Turns of the switchboard -/

/-- A turn that neither delivers packets nor lets frames come or go. -/
theorem Holds.quiet
    (holds : exchange.Holds board pending) {α : Type} {turn : Turn α}
    (frames : turn.board.frames = board.frames) (undelivered : turn.deliveries = [])
    (events : turn.events.foldl follow exchange.inboxes = exchange.inboxes) :
    (exchange.settle turn).Holds turn.board pending := by
  have inboxes : (exchange.settle turn).inboxes = exchange.inboxes := by
    simp [settle, undelivered, events]
  constructor
  · rfl
  · rw [inboxes]
    exact holds.apart
  · rw [inboxes, frames]
    exact holds.opened
  · rw [inboxes]
    exact holds.packets
  · rw [inboxes]
    exact holds.absent

/-- The inbox of a frame that comes is empty. -/
theorem Holds.register
    (holds : exchange.Holds board .nothing) :
    exchange.register.1 = board.register.reply ∧
      exchange.register.2.Holds board.register.board .nothing := by
  have asked : exchange.register = (board.register.reply, exchange.settle board.register) := by
    simp [Exchange.register, request, holds.running]
  rw [asked]
  refine ⟨rfl, ?_⟩
  by_cases full : board.maxFrames ≤ board.frames.size
  · apply holds.quiet
    all_goals simp [Switchboard.register, full]
  · have inboxes : (exchange.settle board.register).inboxes =
        exchange.inboxes.filter (fun inbox => inbox.frame != ⟨board.nextFrame⟩) ++
          [⟨⟨board.nextFrame⟩, [], false⟩] := by
      simp [settle, Switchboard.register, full, follow]
    have frames : board.register.board.frames = board.frames.insert ⟨board.nextFrame⟩ := by
      simp [Switchboard.register, full]
    constructor
    · rfl
    · rw [inboxes, Keyed.apart_append]
      constructor
      · exact List.Nodup.sublist (List.filter_sublist.map _) holds.apart
      · intro inbox kept same
        have different := (List.mem_filter.mp kept).2
        simp [same] at different
    · rw [inboxes, frames]
      intro frame registered
      by_cases new : frame = ⟨board.nextFrame⟩
      · exact ⟨⟨frame, [], false⟩, by simp [new], rfl, rfl⟩
      · have old : frame ∈ board.frames.toList := by
          simpa [new] using FrameSet.mem_insert.mp registered
        rcases holds.opened frame old with ⟨inbox, inside, rfl, isOpen⟩
        exact ⟨inbox, by simp [inside, new], rfl, isOpen⟩
    · rw [inboxes]
      intro inbox inside
      rcases List.mem_append.mp inside with old | new
      · exact holds.packets inbox ((List.mem_filter.mp old).1)
      · rw [List.mem_singleton.mp new]
        rfl
    · intro frame _
      rfl

/-- The inbox of a frame that goes is closed. -/
theorem Holds.unregister (holds : exchange.Holds board pending) (frame : FrameId) :
    (exchange.unregister frame).Holds (board.unregister frame).board pending := by
  have asked : exchange.unregister frame = exchange.settle (board.unregister frame) := by
    simp [Exchange.unregister, request, holds.running]
  rw [asked]
  by_cases registered : frame ∈ board.frames.toList
  · let ended := fun inbox : Inbox =>
      if inbox.frame = frame then { inbox with closed := true } else inbox
    have inboxes : (exchange.settle (board.unregister frame)).inboxes =
        exchange.inboxes.map ended := by
      simp [settle, Switchboard.unregister, registered, follow, ended]
    have frames : (board.unregister frame).board.frames = board.frames.erase frame := by
      simp [Switchboard.unregister, registered]
    have keptFrame : ∀ inbox, (ended inbox).frame = inbox.frame := by
      intro inbox
      simp only [ended]
      split <;> rfl
    have keptPackets : ∀ inbox, (ended inbox).packets = inbox.packets := by
      intro inbox
      simp only [ended]
      split <;> rfl
    constructor
    · rfl
    · rw [inboxes, map_frame_map keptFrame]
      exact holds.apart
    · rw [inboxes, frames]
      intro other stays
      rw [FrameSet.mem_erase] at stays
      rcases holds.opened other stays.1 with ⟨inbox, inside, rfl, isOpen⟩
      refine ⟨ended inbox, List.mem_map_of_mem inside, keptFrame inbox, ?_⟩
      simp [ended, stays.2, isOpen]
    · rw [inboxes]
      simp only [List.forall_mem_map, keptFrame, keptPackets]
      exact holds.packets
    · rw [inboxes, map_frame_map keptFrame]
      exact holds.absent
  · apply holds.quiet
    all_goals simp [Switchboard.unregister, registered]

theorem Holds.claim
    (holds : exchange.Holds board pending) (frame : FrameId) (session : SessionId)
    (now : Instant) :
    (exchange.claim frame session now).1 = (board.claim frame session now).reply ∧
      (exchange.claim frame session now).2.Holds (board.claim frame session now).board
        pending := by
  have asked : exchange.claim frame session now =
      ((board.claim frame session now).reply,
        exchange.settle (board.claim frame session now)) := by
    simp [Exchange.claim, request, holds.running]
  rw [asked]
  refine ⟨rfl, ?_⟩
  cases claimed : board.table.claim frame session now with
  | error error =>
      apply holds.quiet
      all_goals simp [Switchboard.claim, claimed]
  | ok result =>
      rcases result with ⟨outcome, table⟩
      apply holds.quiet
      · simp [Switchboard.claim, claimed]
      · simp [Switchboard.claim, claimed]
      · simp only [Switchboard.claim, claimed]
        split <;> rfl

theorem Holds.join
    (holds : exchange.Holds board pending) (frame : FrameId) (session : SessionId)
    (displayName : String) (now : Instant) :
    (exchange.join frame session displayName now).1 =
        .ok (board.join frame session displayName now).reply ∧
      (exchange.join frame session displayName now).2.Holds
        (board.join frame session displayName now).board pending := by
  let turn : Turn (Except SwitchboardError Bool) :=
    (board.join frame session displayName now).map .ok
  have asked : exchange.join frame session displayName now =
      (turn.reply, exchange.settle turn) := by
    simp [Exchange.join, request, holds.running, turn]
  rw [asked]
  refine ⟨rfl, ?_⟩
  have kept : (exchange.settle turn).Holds turn.board pending := by
    apply holds.quiet
    · rfl
    · rfl
    · simp only [turn, Switchboard.join, Turn.map]
      split <;> rfl
  exact kept

theorem Holds.describe (holds : exchange.Holds board pending) (session : SessionId) :
    exchange.describe session = board.table.describe session := by
  simp [Exchange.describe, holds.running]

/-! ## Delivering -/

/-- Packets are put into the open inboxes of distinct frames. -/
theorem foldl_push
    {frames : List FrameId} (distinct : frames.Nodup) (packet : Packet) (inboxes : List Inbox) :
    (frames.map fun frame => (frame, packet)).foldl
        (fun inboxes (frame, packet) => push inboxes frame packet) inboxes =
      inboxes.map fun inbox =>
        if inbox.frame ∈ frames ∧ inbox.closed = false then
          { inbox with packets := inbox.packets ++ [packet] }
        else inbox := by
  induction frames generalizing inboxes with
  | nil =>
      simp
  | cons frame rest ih =>
      rw [List.nodup_cons] at distinct
      rw [List.map_cons, List.foldl_cons, ih distinct.2]
      simp only [push, List.map_map]
      apply List.map_congr_left
      intro inbox _
      by_cases here : inbox.frame = frame
      · by_cases isOpen : inbox.closed = false <;> simp [here, isOpen, distinct.1]
      · simp [here]

/-- A packet that is delivered is held for the registered frames on its route. -/
theorem Holds.deliver
    (holds : exchange.Holds board .nothing) (route : Route) (packet : Packet) :
    (exchange.deliver route packet).Holds board (.ofPacket board route packet) := by
  -- The exchange pushes the packet to one frame after the other; at once it fills these inboxes.
  let onRoute := board.frames.toList.filter fun frame => route.includes frame packet.sender
  let filled := fun inbox : Inbox =>
    if inbox.frame ∈ onRoute ∧ inbox.closed = false then
      { inbox with packets := inbox.packets ++ [packet] }
    else inbox
  have distinct : onRoute.Nodup := board.frames.nodup.sublist List.filter_sublist
  have inboxes : (exchange.deliver route packet).inboxes = exchange.inboxes.map filled := by
    simp only [Exchange.deliver, request, holds.running, settle, Switchboard.deliver,
      List.foldl_nil]
    exact foldl_push distinct packet exchange.inboxes
  have running : (exchange.deliver route packet).board = some board := by
    simp [Exchange.deliver, request, holds.running, settle, Switchboard.deliver]
  have keptFrame : ∀ inbox, (filled inbox).frame = inbox.frame := by
    intro inbox
    simp only [filled]
    split <;> rfl
  have keptOpen : ∀ inbox, (filled inbox).closed = inbox.closed := by
    intro inbox
    simp only [filled]
    split <;> rfl
  constructor
  · exact running
  · rw [inboxes, map_frame_map keptFrame]
    exact holds.apart
  · rw [inboxes]
    intro frame registered
    rcases holds.opened frame registered with ⟨inbox, inside, rfl, isOpen⟩
    exact ⟨filled inbox, List.mem_map_of_mem inside, keptFrame inbox,
      (keptOpen inbox).trans isOpen⟩
  · rw [inboxes]
    simp only [List.forall_mem_map, keptFrame]
    intro inbox inside
    have none : inbox.packets = [] := holds.packets inbox inside
    by_cases on : inbox.frame ∈ onRoute
    · have registered := (List.mem_filter.mp on).1
      rcases holds.opened inbox.frame registered with ⟨other, otherInside, same, isOpen⟩
      rcases Keyed.eq_of_mem holds.apart otherInside inside same with rfl
      have included := (List.mem_filter.mp on).2
      simp [filled, on, isOpen, none, Pending.ofPacket, registered, included]
    · have missed : ¬ (inbox.frame ∈ board.frames.toList ∧
          route.includes inbox.frame packet.sender = true) := by
        simpa [onRoute] using on
      simp only [filled, on, false_and, if_false, none, Pending.ofPacket, missed]
  · rw [inboxes, map_frame_map keptFrame]
    intro frame unknown
    have unregistered : frame ∉ board.frames.toList := by
      intro registered
      rcases holds.opened frame registered with ⟨inbox, inside, rfl, _⟩
      exact unknown (List.mem_map_of_mem inside)
    simp [Pending.ofPacket, unregistered]

end Exchange

end SessionBus
