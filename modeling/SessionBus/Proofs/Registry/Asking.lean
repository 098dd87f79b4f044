import SessionBus.Registry.Exchange

/-!
# What an exchange is asked

All that an exchange does for frames comes down to commands that its switchboard takes.  A packet
waits for a frame only after such a command has handed it over, and it waits until it is collected.
-/

namespace SessionBus.Exchange

/-! ## Commands -/

/-- Gives the switchboard a command and leaves the answer aside. -/
def ask (exchange : Exchange) (now : Instant) (command : Command) : Exchange :=
  (exchange.request () fun board => (board.handle now command).map fun _ => ()).2

def askAll (exchange : Exchange) (commands : List (Instant × Command)) : Exchange :=
  commands.foldl (fun exchange (now, command) => exchange.ask now command) exchange

/-- A request to an exchange that runs a switchboard is a turn of that switchboard. -/
theorem request_of_running
    {exchange : Exchange} {board : Switchboard} (running : exchange.board = some board)
    {α : Type} (closed : α) (ask : Switchboard → Turn α) :
    (exchange.request closed ask).1 = (ask board).reply ∧
      (exchange.request closed ask).2.board = some (ask board).board := by
  unfold request
  rw [running]
  exact ⟨rfl, rfl⟩

variable (exchange : Exchange)

theorem register_eq_ask (now : Instant) : exchange.register.2 = exchange.ask now .register := by
  unfold register ask request
  split <;> rfl

theorem unregister_eq_ask (now : Instant) (frame : FrameId) :
    exchange.unregister frame = exchange.ask now (.unregister frame) := by
  unfold unregister ask request
  split <;> rfl

theorem claim_eq_ask (frame : FrameId) (session : SessionId) (now : Instant) :
    (exchange.claim frame session now).2 = exchange.ask now (.claim frame session) := by
  unfold claim ask request
  split <;> rfl

theorem join_eq_ask
    (frame : FrameId) (session : SessionId) (displayName : String) (now : Instant) :
    (exchange.join frame session displayName now).2 =
      exchange.ask now (.join frame session displayName) := by
  unfold join ask request
  split <;> rfl

theorem deliver_eq_ask (now : Instant) (route : Route) (packet : Packet) :
    exchange.deliver route packet = exchange.ask now (.deliver route packet) := by
  unfold deliver ask request
  split <;> rfl

/-- A description changes nothing. -/
theorem ask_describe (now : Instant) (session : SessionId) :
    exchange.ask now (.describe session) = exchange := by
  rcases exchange with ⟨_ | board, inboxes, observers⟩ <;> rfl

theorem board_ask (now : Instant) (command : Command) :
    (exchange.ask now command).board =
      exchange.board.map fun board => (board.handle now command).board := by
  rcases exchange with ⟨_ | board, inboxes, observers⟩ <;> rfl

/-- A frame that is not taken in leaves no trace. -/
theorem eq_of_refused {error : SwitchboardError} (refused : exchange.register.1 = .error error) :
    exchange.register.2 = exchange := by
  rcases exchange with ⟨_ | board, inboxes, observers⟩
  · rfl
  · by_cases full : board.maxFrames ≤ board.frames.size
    · have turn : board.register =
          { reply := .error (.tooManyFrames board.maxFrames), board } := if_pos full
      simp only [register, request, turn]
      rfl
    · have taken : board.register.reply = .ok ⟨board.nextFrame⟩ := by
        unfold Switchboard.register
        rw [if_neg full]
      simp only [register, request, taken] at refused
      cases refused

/-- Coming and going does not touch the sessions. -/
theorem describe_ask_of_frames
    (now : Instant) {command : Command}
    (frames : command = .register ∨ ∃ frame, command = .unregister frame) (id : SessionId) :
    (exchange.ask now command).describe id = exchange.describe id := by
  rcases exchange with ⟨_ | board, inboxes, observers⟩
  · rfl
  · have same : (board.handle now command).board.table = board.table := by
      rcases frames with rfl | ⟨frame, rfl⟩
      · simp only [Switchboard.handle, Turn.map, Switchboard.register]
        split <;> rfl
      · simp only [Switchboard.handle, Turn.map, Switchboard.unregister]
        split <;> rfl
    exact congrArg (·.describe id) same

theorem describe_askAll_of_frames
    {commands : List (Instant × Command)}
    (frames : ∀ now command, (now, command) ∈ commands →
      command = .register ∨ ∃ frame, command = .unregister frame) (id : SessionId) :
    (exchange.askAll commands).describe id = exchange.describe id := by
  induction commands generalizing exchange with
  | nil =>
      rfl
  | cons timed rest ih =>
      rcases timed with ⟨now, command⟩
      refine (ih (exchange.ask now command) fun later other inside =>
        frames later other (List.mem_cons_of_mem _ inside)).trans ?_
      exact exchange.describe_ask_of_frames now (frames now command List.mem_cons_self) id

/-! ## Packets that wait -/

section Waiting

/-- A packet lies in an inbox of a frame. -/
def Waits (exchange : Exchange) (frame : FrameId) (packet : Packet) : Prop :=
  ∃ inbox ∈ exchange.inboxes, inbox.frame = frame ∧ packet ∈ inbox.packets

variable {exchange : Exchange} {frame : FrameId} {packet : Packet}

theorem waits_of_mem_collect (inside : packet ∈ (exchange.collect frame).1) :
    exchange.Waits frame packet := by
  simp only [collect] at inside
  cases found : exchange.inbox? frame with
  | none =>
      simp [found] at inside
  | some inbox =>
      rw [found] at inside
      refine ⟨inbox, List.mem_of_find?_eq_some found, ?_, inside⟩
      simpa using List.find?_some found

theorem waits_of_waits_collect {other : FrameId}
    (waits : (exchange.collect other).2.Waits frame packet) : exchange.Waits frame packet := by
  rcases waits with ⟨inbox, inside, own, packetInside⟩
  simp only [collect, List.mem_map] at inside
  rcases inside with ⟨before, known, rfl⟩
  split at packetInside
  · simp at packetInside
  · rename_i different
    rw [if_neg different] at own
    exact ⟨before, known, own, packetInside⟩

/-- A packet that waits after another was put somewhere waited before, or it is that other. -/
theorem waits_of_mem_push
    {inboxes : List Inbox} {other : FrameId} {pushed : Packet} {inbox : Inbox}
    (inside : inbox ∈ push inboxes other pushed) (packetInside : packet ∈ inbox.packets) :
    packet = pushed ∧ inbox.frame = other ∨
      ∃ before ∈ inboxes, before.frame = inbox.frame ∧ packet ∈ before.packets := by
  rcases List.mem_map.mp inside with ⟨before, known, rfl⟩
  split at packetInside
  · rename_i here
    rcases List.mem_append.mp packetInside with old | new
    · exact .inr ⟨before, known, by rw [if_pos here], old⟩
    · exact .inl ⟨List.mem_singleton.mp new, by rw [if_pos here]; exact here.1⟩
  · rename_i elsewhere
    exact .inr ⟨before, known, by rw [if_neg elsewhere], packetInside⟩

theorem waits_of_foldl_push
    {deliveries : List (FrameId × Packet)} {inboxes : List Inbox} {inbox : Inbox}
    (inside : inbox ∈ deliveries.foldl (fun inboxes (frame, packet) => push inboxes frame packet)
      inboxes) (packetInside : packet ∈ inbox.packets) :
    (inbox.frame, packet) ∈ deliveries ∨
      ∃ before ∈ inboxes, before.frame = inbox.frame ∧ packet ∈ before.packets := by
  induction deliveries generalizing inboxes with
  | nil =>
      exact .inr ⟨inbox, inside, rfl, packetInside⟩
  | cons delivery rest ih =>
      rcases ih inside with later | ⟨between, known, own, carried⟩
      · exact .inl (List.mem_cons_of_mem _ later)
      · rcases waits_of_mem_push known carried with ⟨rfl, here⟩ | ⟨before, old, same, carried⟩
        · left
          rw [← own, here]
          exact List.mem_cons_self
        · exact .inr ⟨before, old, same.trans own, carried⟩

theorem waits_of_foldl_follow
    {events : List Event} {inboxes : List Inbox} {inbox : Inbox}
    (inside : inbox ∈ events.foldl follow inboxes) (packetInside : packet ∈ inbox.packets) :
    ∃ before ∈ inboxes, before.frame = inbox.frame ∧ packet ∈ before.packets := by
  induction events generalizing inboxes with
  | nil =>
      exact ⟨inbox, inside, rfl, packetInside⟩
  | cons event rest ih =>
      rcases ih inside with ⟨between, known, own, carried⟩
      cases event with
      | registered frame =>
          rcases List.mem_append.mp known with old | new
          · exact ⟨between, (List.mem_filter.mp old).1, own, carried⟩
          · rw [List.mem_singleton.mp new] at carried
            cases carried
      | unregistered frame =>
          rcases List.mem_map.mp known with ⟨before, old, rfl⟩
          refine ⟨before, old, ?_, ?_⟩
          · rw [← own]
            split <;> rfl
          · split at carried <;> exact carried
      | claimed | joined =>
          exact ⟨between, known, own, carried⟩

/-- A packet that waits after a turn waited before it, or the turn has delivered it. -/
theorem waits_of_settle {α : Type} (exchange : Exchange) {turn : Turn α}
    (waits : (exchange.settle turn).Waits frame packet) :
    (frame, packet) ∈ turn.deliveries ∨ exchange.Waits frame packet := by
  rcases waits with ⟨inbox, inside, rfl, carried⟩
  rcases waits_of_foldl_push inside carried with new | ⟨between, known, own, carried⟩
  · exact .inl new
  · rcases waits_of_foldl_follow known carried with ⟨before, old, same, carried⟩
    exact .inr ⟨before, old, same.trans own, carried⟩

/-- Only a packet that is handed over comes to wait. -/
theorem waits_of_ask {now : Instant} {command : Command}
    (waits : (exchange.ask now command).Waits frame packet) :
    (∃ route, command = .deliver route packet) ∨ exchange.Waits frame packet := by
  rcases exchange with ⟨_ | board, inboxes, observers⟩
  · exact .inr waits
  · rcases waits_of_settle ⟨some board, inboxes, observers⟩ waits with new | old
    · left
      cases command with
      | deliver route other =>
          rcases List.mem_map.mp new with ⟨receiver, _, same⟩
          cases same
          exact ⟨route, rfl⟩
      | register =>
          simp only [Switchboard.handle, Turn.map, Switchboard.register] at new
          split at new <;> cases new
      | unregister leaving =>
          simp only [Switchboard.handle, Turn.map, Switchboard.unregister] at new
          split at new <;> cases new
      | claim claimant session =>
          simp only [Switchboard.handle, Turn.map, Switchboard.claim] at new
          split at new <;> cases new
      | join | describe | list | count =>
          cases new
    · exact .inr old

end Waiting

end SessionBus.Exchange
