import SessionBus.Proofs.Bus.Inboxes
import SessionBus.Proofs.Registry.Identity

/-!
# The switchboard delivers exactly its routes

A registered frame is handed the packets whose route includes it, one for each command and in the
order of the commands, from its registration until it goes.  Identities are given out once, so there
is one such time for each frame, and nothing else that happens at the switchboard has a part in it.

What is handed to a frame comes into its inbox.  There the frame finds it, at whatever times it
looks and whichever other frames have thrown their inboxes away.
-/

namespace SessionBus

/-! ## Commands and steps -/

/-- The packet that a command routes to a frame. -/
def Command.routed? (command : Command) (frame : FrameId) : Option Packet :=
  match command with
  | .deliver route packet => if route.includes frame packet.sender then some packet else none
  | _ => none

namespace Step

/-- The packets that a step hands to a frame. -/
def handed (step : Step) (frame : FrameId) : List Packet :=
  step.turn.deliveries.filterMap fun (other, packet) =>
    if other = frame then some packet else none

/-- The packets that some steps hand to a frame, in order. -/
def allHanded (steps : List Step) (frame : FrameId) : List Packet :=
  steps.flatMap (·.handed frame)

theorem allHanded_cons (step : Step) (rest : List Step) (frame : FrameId) :
    allHanded (step :: rest) frame = step.handed frame ++ allHanded rest frame :=
  List.flatMap_cons

theorem allHanded_append (past future : List Step) (frame : FrameId) :
    allHanded (past ++ future) frame = allHanded past frame ++ allHanded future frame :=
  List.flatMap_append

/-- The packets that some steps route to a frame, until it goes. -/
def routedUntilGone (steps : List Step) (frame : FrameId) : List Packet :=
  (steps.takeWhile (·.command != .unregister frame)).filterMap (·.command.routed? frame)

variable {step : Step} {frame : FrameId}

/-- Only a delivery hands packets over. -/
theorem deliveries_eq_nil
    (other : ∀ route packet, step.command ≠ .deliver route packet) :
    step.turn.deliveries = [] := by
  rcases step with ⟨board, now, command⟩
  cases command with
  | register =>
      simp only [turn, Switchboard.handle, Turn.map, Switchboard.register]
      split <;> rfl
  | unregister frame =>
      simp only [turn, Switchboard.handle, Turn.map, Switchboard.unregister]
      split <;> rfl
  | claim frame session =>
      simp only [turn, Switchboard.handle, Turn.map, Switchboard.claim]
      split <;> rfl
  | join | describe | list | count =>
      rfl
  | deliver route packet =>
      exact absurd rfl (other route packet)

/-- A packet for distinct frames is one packet for each of them. -/
theorem filterMap_of_nodup
    {frames : List FrameId} (distinct : frames.Nodup) (packet : Packet) (frame : FrameId) :
    (frames.map fun other => (other, packet)).filterMap
        (fun (other, packet) => if other = frame then some packet else none) =
      if frame ∈ frames then [packet] else [] := by
  induction frames with
  | nil =>
      rfl
  | cons first rest ih =>
      rw [List.nodup_cons] at distinct
      rw [List.map_cons, List.filterMap_cons, ih distinct.2]
      by_cases here : first = frame
      · subst here
        simp [distinct.1]
      · simp [here, Ne.symm here]

/-- A registered frame is handed what is routed to it, and nobody else is handed anything. -/
theorem handed_eq :
    step.handed frame =
      if frame ∈ step.before.frames.toList then (step.command.routed? frame).toList else [] := by
  rcases step with ⟨board, now, command⟩
  by_cases delivers : ∃ route packet, command = .deliver route packet
  · rcases delivers with ⟨route, packet, rfl⟩
    have distinct : (board.frames.toList.filter
        fun frame => route.includes frame packet.sender).Nodup :=
      board.frames.nodup.sublist List.filter_sublist
    simp only [handed, turn, Switchboard.handle, Turn.map, Switchboard.deliver,
      filterMap_of_nodup distinct, List.mem_filter, Command.routed?]
    by_cases registered : frame ∈ board.frames.toList
    · by_cases included : route.includes frame packet.sender <;> simp [registered, included]
    · simp [registered]
  · have none : command.routed? frame = none := by
      cases command with
      | deliver route packet =>
          exact absurd ⟨route, packet, rfl⟩ delivers
      | register | unregister | claim | join | describe | list | count =>
          rfl
    have quiet : (Step.mk board now command).turn.deliveries = [] :=
      deliveries_eq_nil fun route packet same => delivers ⟨route, packet, same⟩
    simp [handed, quiet, none]

/-- The registered frames after a step: who was there and does not go, and who is taken in. -/
theorem mem_frames_after :
    frame ∈ step.after.frames.toList ↔
      frame ∈ step.before.frames.toList ∧ step.command ≠ .unregister frame ∨
        step.admitted? = some frame := by
  by_cases comes : step.command = .register
  · rw [after_of_register comes, admitted?_of_register comes, comes]
    by_cases full : step.before.maxFrames ≤ step.before.frames.size
    · simp [Switchboard.register_of_full _ full, full]
    · simp [Switchboard.register_of_room _ full, full, or_comm, eq_comm]
  · rw [admitted?_eq_none comes]
    by_cases goes : ∃ other, step.command = .unregister other
    · rcases goes with ⟨other, asked⟩
      have after : step.after = (step.before.unregister other).board := by
        rw [Step.after, turn, asked]
        rfl
      rw [after, Switchboard.frames_unregister, asked]
      simp [eq_comm]
    · have steady := step.before.steady_handle step.now comes
        fun other asked => goes ⟨other, asked⟩
      have frames : step.after.frames = step.before.frames := steady.frames
      have stays : step.command ≠ .unregister frame := fun asked => goes ⟨frame, asked⟩
      simp [frames, stays]

end Step

/-! ## Runs -/

namespace Switchboard

variable {board : Switchboard} {commands : List (Instant × Command)} {past future : List Step}
  {frame : FrameId}

/-- A frame is handed nothing before it is taken in. -/
theorem allHanded_of_stranger
    (absent : frame ∉ board.frames.toList) (split : board.run commands = past ++ future)
    (never : frame ∉ Step.admitted past) :
    Step.allHanded past frame = [] := by
  induction past generalizing board commands with
  | nil =>
      rfl
  | cons step past ih =>
      rcases before_of_run_eq_cons split with ⟨rfl, rest, continues⟩
      rw [Step.admitted_cons, List.mem_append, Option.mem_toList, not_or] at never
      have still : frame ∉ step.after.frames.toList := by
        rw [Step.mem_frames_after]
        rintro (⟨there, _⟩ | admitted)
        · exact absent there
        · exact never.1 admitted
      rw [Step.allHanded_cons, Step.handed_eq, if_neg absent, ih still continues.symm never.2]
      rfl

/-- A registered frame is handed what is routed to it until it goes. -/
theorem allHanded_of_registered
    (registered : frame ∈ board.frames.toList)
    (never : frame ∉ Step.admitted (board.run commands)) :
    Step.allHanded (board.run commands) frame =
      Step.routedUntilGone (board.run commands) frame := by
  induction commands generalizing board with
  | nil =>
      rfl
  | cons timed rest ih =>
      let step : Step := ⟨board, timed.1, timed.2⟩
      have run : board.run (timed :: rest) = step :: step.after.run rest := rfl
      have here : frame ∈ step.before.frames.toList := registered
      rw [run] at never ⊢
      rw [Step.admitted_cons, List.mem_append, Option.mem_toList, not_or] at never
      rw [Step.allHanded_cons, Step.handed_eq, if_pos here]
      by_cases goes : step.command = .unregister frame
      · have gone : frame ∉ step.after.frames.toList := by
          rw [Step.mem_frames_after]
          rintro (⟨_, stays⟩ | admitted)
          · exact stays goes
          · exact never.1 admitted
        have whole : step.after.run rest = step.after.run rest ++ [] := by simp
        rw [allHanded_of_stranger gone whole never.2, Step.routedUntilGone]
        simp [goes, Command.routed?]
      · have stays : frame ∈ step.after.frames.toList :=
          Step.mem_frames_after.mpr (.inl ⟨here, goes⟩)
        rw [ih stays never.2, Step.routedUntilGone, Step.routedUntilGone,
          List.takeWhile_cons_of_pos (by simpa using goes), List.filterMap_cons]
        cases step.command.routed? frame <;> rfl

/-- A frame is taken in once. -/
theorem nodup_admitted {limits : Limits}
    (few : (Step.admitted ((empty limits).run commands)).length < UInt64.size) :
    (Step.admitted ((empty limits).run commands)).Nodup := by
  have numbered := toNat_admitted_run few
  have apart : ((Step.admitted ((empty limits).run commands)).map (·.value.toNat)).Nodup :=
    numbered ▸ List.nodup_range'
  exact List.Pairwise.of_map (·.value.toNat) (fun _ _ other same => other (same ▸ rfl)) apart

/-- A frame is handed what is routed to it from its registration until it goes. -/
theorem allHanded_of_admitted?
    {limits : Limits} {step : Step}
    (few : (Step.admitted ((empty limits).run commands)).length < UInt64.size)
    (split : (empty limits).run commands = past ++ step :: future)
    (admitted : step.admitted? = some frame) :
    Step.allHanded ((empty limits).run commands) frame = Step.routedUntilGone future frame := by
  have once := nodup_admitted few
  rw [split, Step.admitted_append, Step.admitted_cons, admitted, Option.toList_some,
    List.singleton_append, List.nodup_append, List.nodup_cons] at once
  rcases once with ⟨_, ⟨notLater, _⟩, apart⟩
  have notBefore : frame ∉ Step.admitted past :=
    fun inside => apart frame inside frame List.mem_cons_self rfl
  have stranger : frame ∉ (empty limits).frames.toList := List.not_mem_nil
  have asked : step.command = .register := by
    by_cases comes : step.command = .register
    · exact comes
    · simp [Step.admitted?_eq_none comes] at admitted
  have nothing : (step.command.routed? frame).toList = [] := by
    rw [asked]
    rfl
  have present : frame ∈ step.after.frames.toList :=
    Step.mem_frames_after.mpr (.inr admitted)
  rcases run_eq_append split with ⟨rest, here⟩
  rcases before_of_run_eq_cons here.symm with ⟨_, remaining, continues⟩
  rw [split, Step.allHanded_append, allHanded_of_stranger stranger split notBefore,
    Step.allHanded_cons, Step.handed_eq, nothing, ite_self, continues,
    allHanded_of_registered present (continues ▸ notLater)]
  rfl

end Switchboard

/-! ## Inboxes -/

namespace Exchange

/-- What is done to an exchange: its switchboard is asked, or a frame collects the packets in its
inbox, or throws its inbox away. -/
inductive Use where
  | ask (now : Instant) (command : Command)
  | collect (frame : FrameId)
  | discard (frame : FrameId)
deriving DecidableEq

/-- What the switchboard is asked meanwhile. -/
def Use.commands (uses : List Use) : List (Instant × Command) :=
  uses.filterMap fun
    | .ask now command => some (now, command)
    | _ => none

def afterUse (exchange : Exchange) : Use → Exchange
  | .ask now command => (exchange.request .nothing (·.handle now command)).2
  | .collect frame => (exchange.collect frame).2
  | .discard frame => exchange.discard frame

/-- The packets that a frame collects, if this is what is done. -/
def collected (exchange : Exchange) (frame : FrameId) (use : Use) : List Packet :=
  if use = .collect frame then (exchange.collect frame).1 else []

/-- The packets that a frame collects while an exchange is used, and afterwards. -/
def received (exchange : Exchange) (frame : FrameId) : List Use → List Packet
  | [] => (exchange.collect frame).1
  | use :: rest =>
      exchange.collected frame use ++ (exchange.afterUse use).received frame rest

/-- The inboxes that are called those of a frame. -/
def inboxesOf (exchange : Exchange) (frame : FrameId) : List Inbox :=
  exchange.inboxes.filter (·.frame == frame)

theorem inbox?_eq_head? (exchange : Exchange) (frame : FrameId) :
    exchange.inbox? frame = (exchange.inboxesOf frame).head? :=
  List.head?_filter.symm

/-- The exchange serves the switchboard and has these packets for a frame, in an inbox that is open
while the frame is registered. -/
structure Keeps (exchange : Exchange) (board : Switchboard) (frame : FrameId)
    (packets : List Packet) : Prop where
  running : exchange.board = some board
  opened : frame ∈ board.frames.toList → exchange.inboxesOf frame = [⟨frame, packets, false⟩]
  ended :
    frame ∉ board.frames.toList →
      exchange.inboxesOf frame = [⟨frame, packets, true⟩] ∨
        exchange.inboxesOf frame = [] ∧ packets = []

variable {exchange : Exchange} {board : Switchboard} {frame : FrameId} {packets : List Packet}

theorem keeps_start (limits : Limits) (frame : FrameId) :
    (start limits).Keeps (.empty limits) frame [] where
  running := rfl
  opened := nofun
  ended := fun _ => .inr ⟨rfl, rfl⟩

/-- Nothing changes for a frame whose registration and inbox stay as they are. -/
theorem Keeps.stay
    (keeps : exchange.Keeps board frame packets) {after : Exchange} {next : Switchboard}
    (running : after.board = some next)
    (registered : frame ∈ next.frames.toList ↔ frame ∈ board.frames.toList)
    (own : after.inboxesOf frame = exchange.inboxesOf frame) :
    after.Keeps next frame packets where
  running := running
  opened := fun present => own.trans (keeps.opened (registered.mp present))
  ended := fun absent => own ▸ keeps.ended fun present => absent (registered.mpr present)

/-- A frame that looks into its inbox finds its packets. -/
theorem Keeps.collect (keeps : exchange.Keeps board frame packets) :
    (exchange.collect frame).1 = packets := by
  unfold Exchange.collect
  rw [inbox?_eq_head?]
  by_cases registered : frame ∈ board.frames.toList
  · rw [keeps.opened registered]
    rfl
  · rcases keeps.ended registered with closed | ⟨none, rfl⟩
    · rw [closed]
      rfl
    · rw [none]
      rfl

/-! ### What becomes of the inbox of one frame -/

/-- A change to each inbox by itself is one to the inboxes of a frame. -/
theorem filter_map_inboxes
    {change : Inbox → Inbox} (kept : ∀ inbox, (change inbox).frame = inbox.frame)
    (inboxes : List Inbox) (frame : FrameId) :
    (inboxes.map change).filter (·.frame == frame) =
      (inboxes.filter (·.frame == frame)).map change := by
  rw [List.filter_map]
  congr 2
  funext inbox
  exact congrArg (· == frame) (kept inbox)

/-- Packets are added to an inbox that is open. -/
def filled (packets : List Packet) (inbox : Inbox) : Inbox :=
  if inbox.closed = false then { inbox with packets := inbox.packets ++ packets } else inbox

/-- Of all packets that are pushed a frame gets its own, in order. -/
theorem filter_foldl_push
    (deliveries : List (FrameId × Packet)) (inboxes : List Inbox) (frame : FrameId) :
    (deliveries.foldl (fun inboxes (frame, packet) => push inboxes frame packet) inboxes).filter
        (·.frame == frame) =
      (inboxes.filter (·.frame == frame)).map (filled <| deliveries.filterMap
        fun (other, packet) => if other = frame then some packet else none) := by
  induction deliveries generalizing inboxes with
  | nil =>
      have same : filled [] = id := by
        funext inbox
        simp [filled]
      simp [same]
  | cons delivery rest ih =>
      rcases delivery with ⟨other, packet⟩
      have kept : ∀ inbox : Inbox,
          (if inbox.frame = other ∧ inbox.closed = false then
            { inbox with packets := inbox.packets ++ [packet] } else inbox).frame =
            inbox.frame := by
        intro inbox
        split <;> rfl
      rw [List.foldl_cons, ih]
      simp only [push]
      rw [filter_map_inboxes kept, List.map_map]
      apply List.map_congr_left
      intro inbox inside
      have own : inbox.frame = frame := by simpa using (List.mem_filter.mp inside).2
      by_cases here : other = frame
      · by_cases isOpen : inbox.closed = false <;> simp [filled, own, here, isOpen]
      · simp [own, here, Ne.symm here]

/-- A frame that comes gets an empty inbox, and the others keep theirs. -/
theorem filter_follow_registered (inboxes : List Inbox) (new frame : FrameId) :
    (follow inboxes (.registered new)).filter (·.frame == frame) =
      if frame = new then [⟨frame, [], false⟩] else inboxes.filter (·.frame == frame) := by
  simp only [follow, List.filter_append, List.filter_filter]
  by_cases here : frame = new
  · subst here
    simp
  · have apart : ∀ inbox ∈ inboxes,
        (inbox.frame == frame && inbox.frame != new) = (inbox.frame == frame) := by
      intro inbox _
      by_cases own : inbox.frame = frame <;> simp [own, here]
    rw [List.filter_congr apart]
    simp [here, Ne.symm here]

/-- The inbox of a frame that goes is closed, and the others keep theirs. -/
theorem filter_follow_unregistered (inboxes : List Inbox) (gone frame : FrameId) :
    (follow inboxes (.unregistered gone)).filter (·.frame == frame) =
      if frame = gone then
        (inboxes.filter (·.frame == frame)).map fun inbox => { inbox with closed := true }
      else inboxes.filter (·.frame == frame) := by
  have kept : ∀ inbox : Inbox,
      (if inbox.frame = gone then { inbox with closed := true } else inbox).frame =
        inbox.frame := by
    intro inbox
    split <;> rfl
  simp only [follow]
  rw [filter_map_inboxes kept]
  split
  · rename_i here
    apply List.map_congr_left
    intro inbox inside
    have own : inbox.frame = frame := by simpa using (List.mem_filter.mp inside).2
    simp [own, here]
  · rename_i different
    rw [List.map_congr_left (g := id), List.map_id]
    intro inbox inside
    have own : inbox.frame = frame := by simpa using (List.mem_filter.mp inside).2
    simp [own, different]

/-- Only frames that come and go open and close inboxes. -/
theorem foldl_follow_of_quiet
    {step : Step} (comes : step.command ≠ .register)
    (goes : ∀ frame, step.command ≠ .unregister frame) (inboxes : List Inbox) :
    step.turn.events.foldl follow inboxes = inboxes := by
  rcases step with ⟨board, now, command⟩
  cases command with
  | register =>
      exact absurd rfl comes
  | unregister frame =>
      exact absurd rfl (goes frame)
  | claim frame session =>
      simp only [Step.turn, Switchboard.handle, Turn.map, Switchboard.claim]
      split
      · rfl
      · split <;> rfl
  | join frame session displayName =>
      simp only [Step.turn, Switchboard.handle, Turn.map, Switchboard.join]
      split <;> rfl
  | describe | list | count | deliver =>
      rfl

variable {step : Step}

theorem Keeps.afterUse_ask (keeps : exchange.Keeps step.before frame packets) :
    exchange.afterUse (.ask step.now step.command) = exchange.settle step.turn := by
  simp [afterUse, request, keeps.running, Step.turn]

/-- The inbox of a frame after commands that let nobody come or go. -/
theorem Keeps.quiet
    (keeps : exchange.Keeps step.before frame packets) (comes : step.command ≠ .register)
    (goes : ∀ frame, step.command ≠ .unregister frame) :
    (exchange.settle step.turn).Keeps step.after frame (packets ++ step.handed frame) := by
  have frames : step.after.frames = step.before.frames :=
    (step.before.steady_handle step.now comes goes).frames
  have own : (exchange.settle step.turn).inboxesOf frame =
      (exchange.inboxesOf frame).map (filled (step.handed frame)) := by
    simp only [settle, inboxesOf, foldl_follow_of_quiet comes goes]
    exact filter_foldl_push step.turn.deliveries exchange.inboxes frame
  constructor
  · rfl
  · rw [frames, own]
    intro registered
    rw [keeps.opened registered]
    rfl
  · rw [frames, own]
    intro absent
    rw [Step.handed_eq, if_neg absent, List.append_nil]
    rcases keeps.ended absent with closed | ⟨none, empty⟩
    · left
      rw [closed]
      rfl
    · right
      rw [none]
      exact ⟨rfl, empty⟩

/-- The inbox of a frame when it, or another one, is taken in. -/
theorem Keeps.register
    (keeps : exchange.Keeps step.before frame packets) (asked : step.command = .register)
    (fresh : step.admitted? = some frame → packets = []) :
    (exchange.settle step.turn).Keeps step.after frame packets := by
  have turn : step.turn = step.before.register.map Reply.registered := by
    rw [Step.turn, asked]
    rfl
  rw [Step.admitted?_of_register asked] at fresh
  rw [Step.after, turn]
  by_cases full : step.before.maxFrames ≤ step.before.frames.size
  · rw [Switchboard.register_of_full _ full]
    exact keeps.stay rfl Iff.rfl rfl
  · rw [if_neg full] at fresh
    rw [Switchboard.register_of_room _ full]
    have own := filter_follow_registered exchange.inboxes ⟨step.before.nextFrame⟩ frame
    by_cases here : frame = ⟨step.before.nextFrame⟩
    · rw [if_pos here] at own
      have none := fresh (congrArg some here.symm)
      constructor
      · rfl
      · intro _
        rw [none]
        exact own
      · intro absent
        exact absurd (FrameSet.mem_insert.mpr (.inl here)) absent
    · rw [if_neg here] at own
      have same : frame ∈ (step.before.frames.insert ⟨step.before.nextFrame⟩).toList ↔
          frame ∈ step.before.frames.toList := by
        simp [here]
      exact keeps.stay rfl same own

/-- The inbox of a frame when it, or another one, goes. -/
theorem Keeps.unregister
    (keeps : exchange.Keeps step.before frame packets) {gone : FrameId}
    (asked : step.command = .unregister gone) :
    (exchange.settle step.turn).Keeps step.after frame packets := by
  have turn : step.turn = (step.before.unregister gone).map fun _ => Reply.nothing := by
    rw [Step.turn, asked]
    rfl
  rw [Step.after, turn]
  unfold Switchboard.unregister
  split
  · have own := filter_follow_unregistered exchange.inboxes gone frame
    by_cases here : frame = gone
    · rw [if_pos here] at own
      constructor
      · rfl
      · intro registered
        exact absurd here (FrameSet.mem_erase.mp registered).2
      · intro _
        by_cases before : frame ∈ step.before.frames.toList
        · left
          refine own.trans ?_
          rw [← inboxesOf, keeps.opened before]
          rfl
        · rcases keeps.ended before with closed | ⟨none, empty⟩
          · left
            refine own.trans ?_
            rw [← inboxesOf, closed]
            rfl
          · right
            refine ⟨own.trans ?_, empty⟩
            rw [← inboxesOf, none]
            rfl
    · rw [if_neg here] at own
      have same : frame ∈ (step.before.frames.erase gone).toList ↔
          frame ∈ step.before.frames.toList := by
        simp [here]
      exact keeps.stay rfl same own
  · exact keeps.stay rfl Iff.rfl rfl

/-- The inbox of a frame after a command: what the command hands to the frame is in it. -/
theorem Keeps.ask
    (keeps : exchange.Keeps step.before frame packets)
    (fresh : step.admitted? = some frame → packets = []) :
    (exchange.settle step.turn).Keeps step.after frame (packets ++ step.handed frame) := by
  have undelivered (quiet : ∀ route packet, step.command ≠ .deliver route packet) :
      packets ++ step.handed frame = packets := by
    simp [Step.handed, Step.deliveries_eq_nil quiet]
  by_cases comes : step.command = .register
  · rw [undelivered (by simp [comes])]
    exact keeps.register comes fresh
  · by_cases goes : ∃ gone, step.command = .unregister gone
    · rcases goes with ⟨gone, asked⟩
      rw [undelivered (by simp [asked])]
      exact keeps.unregister asked
    · exact keeps.quiet comes fun gone asked => goes ⟨gone, asked⟩

/-- A frame that takes packets out of its inbox leaves that of another frame as it is. -/
theorem Keeps.takeOut
    (keeps : exchange.Keeps board frame packets) (reader : FrameId)
    (left : List Packet → List Packet) (nothing : left [] = []) :
    ({ exchange with
      inboxes := exchange.inboxes.map fun inbox =>
        if inbox.frame = reader then { inbox with packets := left inbox.packets } else inbox } :
        Exchange).Keeps board frame (if reader = frame then left packets else packets) := by
  let changed := fun inbox : Inbox =>
    if inbox.frame = reader then { inbox with packets := left inbox.packets } else inbox
  have kept : ∀ inbox, (changed inbox).frame = inbox.frame := by
    intro inbox
    simp only [changed]
    split <;> rfl
  have own : inboxesOf { exchange with inboxes := exchange.inboxes.map changed } frame =
      (exchange.inboxesOf frame).map changed :=
    filter_map_inboxes kept exchange.inboxes frame
  have one (closed : Bool) : changed ⟨frame, packets, closed⟩ =
      ⟨frame, if reader = frame then left packets else packets, closed⟩ := by
    by_cases here : frame = reader
    · simp [changed, here]
    · simp [changed, here, Ne.symm here]
  constructor
  · exact keeps.running
  · intro registered
    rw [own, keeps.opened registered, List.map_singleton, one]
  · intro absent
    rw [own]
    rcases keeps.ended absent with closed | ⟨none, empty⟩
    · left
      rw [closed, List.map_singleton, one]
    · right
      rw [none, empty, nothing, ite_self]
      exact ⟨rfl, rfl⟩

/-- A frame that collects its packets leaves an empty inbox, and that of another frame as it is. -/
theorem Keeps.afterCollect
    (keeps : exchange.Keeps board frame packets) (reader : FrameId) :
    (exchange.collect reader).2.Keeps board frame (if reader = frame then [] else packets) :=
  keeps.takeOut reader (fun _ => []) rfl

/-- A frame that throws its inbox away has none, and the others keep theirs. -/
theorem inboxesOf_discard (exchange : Exchange) (leaver frame : FrameId) :
    (exchange.discard leaver).inboxesOf frame =
      if leaver = frame then [] else exchange.inboxesOf frame := by
  simp only [discard, inboxesOf, List.filter_filter]
  split
  · rename_i here
    simp [here]
  · rename_i different
    apply List.filter_congr
    intro inbox _
    by_cases own : inbox.frame = frame <;> simp [own, Ne.symm different]

/-- A frame that throws its inbox away leaves that of another frame as it is. -/
theorem Keeps.discard
    (keeps : exchange.Keeps board frame packets) {leaver : FrameId} (other : leaver ≠ frame) :
    (exchange.discard leaver).Keeps board frame packets := by
  have own : (exchange.discard leaver).inboxesOf frame = exchange.inboxesOf frame := by
    rw [inboxesOf_discard, if_neg other]
  exact keeps.stay keeps.running Iff.rfl own

/-- What a frame finds in its inbox is what waits there and what it is handed later. -/
theorem Keeps.received
    {uses : List Use} (keeps : exchange.Keeps board frame packets)
    (once : (Step.admitted (board.run (Use.commands uses))).Nodup)
    (never : frame ∈ board.frames.toList ∨ packets ≠ [] →
      frame ∉ Step.admitted (board.run (Use.commands uses)))
    (stays : .discard frame ∉ uses) :
    exchange.received frame uses =
      packets ++ Step.allHanded (board.run (Use.commands uses)) frame := by
  induction uses generalizing exchange board packets with
  | nil =>
      simpa [Exchange.received, Use.commands, Switchboard.run, Step.allHanded]
        using keeps.collect
  | cons use rest ih =>
      rw [List.mem_cons, not_or] at stays
      cases use with
      | ask now command =>
          let step : Step := ⟨board, now, command⟩
          have run : board.run (Use.commands (.ask now command :: rest)) =
              step :: step.after.run (Use.commands rest) := rfl
          rw [run] at once never ⊢
          rw [Step.admitted_cons] at once never
          rw [List.nodup_append] at once
          have here : exchange.Keeps step.before frame packets := keeps
          have fresh : step.admitted? = some frame → packets = [] := by
            intro admitted
            by_cases empty : packets = []
            · exact empty
            · exact absurd (by simp [admitted]) (never (.inr empty))
          have later : frame ∈ step.after.frames.toList ∨ packets ++ step.handed frame ≠ [] →
              frame ∉ Step.admitted (step.after.run (Use.commands rest)) := by
            intro known inside
            have unknown : ¬ (frame ∈ board.frames.toList ∨ packets ≠ []) :=
              fun known => never known (List.mem_append_right _ inside)
            rw [not_or] at unknown
            rcases known with present | waiting
            · rcases Step.mem_frames_after.mp present with ⟨before, _⟩ | admitted
              · exact unknown.1 before
              · exact once.2.2 frame (by simp [admitted]) frame inside rfl
            · rw [Step.handed_eq, if_neg unknown.1, List.append_nil] at waiting
              exact unknown.2 waiting
          have after := ih (here.ask fresh) once.2.1 later stays.2
          rw [Step.allHanded_cons, ← List.append_assoc, ← after, ← here.afterUse_ask]
          rfl
      | collect reader =>
          have later : frame ∈ board.frames.toList ∨
              (if reader = frame then [] else packets) ≠ [] →
              frame ∉ Step.admitted (board.run (Use.commands rest)) := by
            intro known
            refine never (known.imp id fun waiting empty => waiting ?_)
            rw [empty, ite_self]
          have after := ih (keeps.afterCollect reader) once later stays.2
          have found : exchange.collected frame (.collect reader) =
              if reader = frame then packets else [] := by
            simp [collected, keeps.collect]
          rw [Exchange.received, found, afterUse, after, ← List.append_assoc]
          by_cases own : reader = frame <;> simp [own] <;> rfl
      | discard leaver =>
          have other : leaver ≠ frame := by
            rintro rfl
            exact stays.1 rfl
          exact ih (keeps.discard other) once never stays.2

/-- A frame finds in its inbox all that it is handed. -/
theorem received_start
    {limits : Limits} {uses : List Use}
    (few : (Step.admitted ((Switchboard.empty limits).run (Use.commands uses))).length <
      UInt64.size)
    (stays : .discard frame ∉ uses) :
    (start limits).received frame uses =
      Step.allHanded ((Switchboard.empty limits).run (Use.commands uses)) frame := by
  have once := Switchboard.nodup_admitted few
  have unknown : ¬ (frame ∈ (Switchboard.empty limits).frames.toList ∨ ([] : List Packet) ≠ []) :=
    by simp [Switchboard.empty, FrameSet.empty]
  exact (keeps_start limits frame).received once (fun known => absurd known unknown) stays

/--
A switchboard delivers exactly its routes.  Whatever is asked of it, and whatever frames do with
their inboxes meanwhile, a frame that has been taken in is handed the packets of those deliveries
after its registration whose route includes it, until it goes: each once, as it is, and in order.
As long as it does not throw its inbox away, this is also what it finds there.  A delivery leaves
the frames, the sessions and the counter of identities as they are.
-/
theorem deliveries_follow_routes
    (limits : Limits) (uses : List Use)
    (few : (Step.admitted ((Switchboard.empty limits).run (Use.commands uses))).length <
      UInt64.size) :
    (∀ past step future frame,
        (Switchboard.empty limits).run (Use.commands uses) = past ++ step :: future →
        step.admitted? = some frame →
          Step.allHanded (past ++ step :: future) frame = Step.routedUntilGone future frame ∧
            (.discard frame ∉ uses →
              (start limits).received frame uses = Step.routedUntilGone future frame)) ∧
      ∀ step ∈ (Switchboard.empty limits).run (Use.commands uses),
        ∀ route packet, step.command = .deliver route packet → step.after = step.before := by
  constructor
  · intro past step future frame split admitted
    have handed := Switchboard.allHanded_of_admitted? few split admitted
    refine ⟨split ▸ handed, fun stays => ?_⟩
    rw [received_start few stays, handed]
  · intro step _ route packet asked
    rw [Step.after, Step.turn, asked]
    rfl

/-- The second frame finds the packets that were sent while it was registered, though the first has
thrown its inbox away. -/
theorem second_frame_receives_its_packets :
    let early := Packet.ofSession "news" (Json.toValue .null) ⟨1⟩ ⟨"plan"⟩
    let direct := Packet.toFrame "news" (Json.toValue .null) ⟨1⟩ ⟨2⟩
    let uses : List Use :=
      [.ask .epoch .register, .ask .epoch (.deliver .broadcast early), .ask .epoch .register,
        .discard ⟨1⟩, .ask .epoch (.deliver .broadcast early), .collect ⟨2⟩,
        .ask .epoch (.deliver (.toFrame ⟨2⟩) direct), .ask .epoch (.unregister ⟨2⟩),
        .ask .epoch (.deliver .broadcast early)]
    (start ⟨2, 1⟩).received ⟨2⟩ uses = [early, direct] := by
  intro early direct uses
  let run := (Switchboard.empty ⟨2, 1⟩).run (Use.commands uses)
  have delivered := deliveries_follow_routes ⟨2, 1⟩ uses (by decide)
  have second := delivered.1 (run.take 2) (run.get ⟨2, by decide⟩) (run.drop 3) ⟨2⟩ rfl rfl
  exact second.2 (by simp [uses])

end Exchange

end SessionBus
