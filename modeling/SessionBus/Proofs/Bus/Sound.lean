import SessionBus.Proofs.Bus.Settled
import SessionBus.Proofs.Keyed
import SessionBus.Proofs.Registry.Turn

/-!
# How the parts of a bus belong together

On a sound bus every frame has one connector, and the registered frames are those whose connector is
open.  Every action keeps a bus sound as long as identities do not run out, which takes as many
connectors as there are numbers of 64 bits.
-/

namespace SessionBus

namespace Connector

/-- A connector that has changed without becoming that of another frame and without being closed. -/
structure Kept (connector changed : Connector) : Prop where
  frame : changed.frame = connector.frame
  isClosed : changed.isClosed = connector.isClosed

theorem Kept.refl (connector : Connector) : connector.Kept connector :=
  ⟨rfl, rfl⟩

theorem kept_afterClaim (connector : Connector) (session : SessionId) (claimed : Bool) :
    connector.Kept (connector.afterClaim session claimed) := by
  unfold afterClaim
  split <;> exact ⟨rfl, rfl⟩

theorem kept_afterJoin (connector : Connector) (session : SessionId) (joined : Bool) :
    connector.Kept (connector.afterJoin session joined) := by
  unfold afterJoin
  split <;> exact ⟨rfl, rfl⟩

theorem kept_dispatch (connector : Connector) (packet : Packet) :
    connector.Kept (connector.dispatch packet) := by
  unfold dispatch
  split
  · exact .refl connector
  · split <;> exact ⟨rfl, rfl⟩

theorem kept_receiver (connector : Connector) (topic : String) :
    connector.Kept (connector.receiver topic).2 :=
  ⟨rfl, rfl⟩

theorem kept_receive (connector : Connector) (ticket : Ticket) :
    connector.Kept { connector with topics := (connector.topics.receive ticket).2 } := by
  constructor
  · rfl
  · unfold TopicRouter.receive
    split <;> rfl

theorem kept_drain (connector : Connector) (ticket : Ticket) :
    connector.Kept { connector with topics := (connector.topics.drain ticket).2 } :=
  ⟨rfl, rfl⟩

theorem kept_drop (connector : Connector) (ticket : Ticket) :
    connector.Kept { connector with topics := connector.topics.drop ticket } :=
  ⟨rfl, rfl⟩

end Connector

namespace Bus

/-- Every frame has one connector, and just the frames of open connectors are registered. -/
structure Sound (bus : Bus) : Prop where
  apart : (bus.connectors.map (·.frame)).Nodup
  registered :
    ∀ connector ∈ bus.connectors,
      connector.frame ∈ bus.board.frames.toList ↔ connector.isClosed = false
  attached : ∀ frame ∈ bus.board.frames.toList, ∃ connector ∈ bus.connectors,
    connector.frame = frame
  issued : ∀ connector ∈ bus.connectors, connector.frame.value.toNat ≤ bus.connectors.length
  next : bus.board.nextFrame.toNat = min (bus.connectors.length + 1) (UInt64.size - 1)

theorem sound_start (limits : Limits) : (start limits).Sound where
  apart := List.nodup_nil
  registered := by simp [start]
  attached := by simp [start, Switchboard.empty, FrameSet.empty]
  issued := by simp [start]
  next := rfl

/-! ## Counting connectors -/

/-- No two connectors have one frame, and identities are given out in the order of the numbers. -/
structure Counted (bus : Bus) : Prop where
  apart : (bus.connectors.map (·.frame)).Nodup
  issued : ∀ connector ∈ bus.connectors, connector.frame.value.toNat ≤ bus.connectors.length
  next : bus.board.nextFrame.toNat = min (bus.connectors.length + 1) (UInt64.size - 1)

theorem Sound.counted {bus : Bus} (sound : bus.Sound) : bus.Counted :=
  ⟨sound.apart, sound.issued, sound.next⟩

/-- Nothing but the frames and the counter of identities matters. -/
theorem Counted.of_frames
    {bus after : Bus} (counted : bus.Counted)
    (next : after.board.nextFrame = bus.board.nextFrame)
    (frames : after.connectors.map (·.frame) = bus.connectors.map (·.frame)) :
    after.Counted where
  apart := frames ▸ counted.apart
  issued := by
    intro connector inside
    have frame : connector.frame ∈ bus.connectors.map (·.frame) :=
      frames ▸ List.mem_map_of_mem inside
    rcases List.mem_map.mp frame with ⟨other, before, same⟩
    rw [← same, ← List.length_map (fun connector => connector.frame), frames, List.length_map]
    exact counted.issued other before
  next := by
    rw [next, counted.next, ← List.length_map (fun connector => connector.frame), ← frames,
      List.length_map]

/-- The order in which the connectors are listed does not matter. -/
theorem Counted.perm
    {board : Switchboard} {connectors others : List Connector}
    (counted : Counted ⟨board, connectors⟩) (same : others.Perm connectors) :
    Counted ⟨board, others⟩ where
  apart := (same.map _).nodup_iff.mpr counted.apart
  issued := by
    intro connector inside
    rw [same.length_eq]
    exact counted.issued connector (same.mem_iff.mp inside)
  next := by
    rw [same.length_eq]
    exact counted.next

section

variable {bus : Bus} (counted : bus.Counted) (few : bus.connectors.length + 1 < UInt64.size)

include counted few

/-- As long as identities do not run out, the next one is greater than all that were issued. -/
theorem Counted.number : bus.board.nextFrame.toNat = bus.connectors.length + 1 := by
  have size : UInt64.size = 18446744073709551616 := rfl
  rw [counted.next]
  omega

theorem Counted.fresh : ∀ connector ∈ bus.connectors, connector.frame ≠ ⟨bus.board.nextFrame⟩ := by
  intro connector inside same
  have number := counted.number few
  have issued := counted.issued connector inside
  rw [same] at issued
  change bus.board.nextFrame.toNat ≤ bus.connectors.length at issued
  omega

theorem Counted.attach
    {board : Switchboard} (next : board.nextFrame = Switchboard.successor bus.board.nextFrame) :
    Counted ⟨board, bus.connectors ++ [.attached ⟨bus.board.nextFrame⟩]⟩ where
  apart := Keyed.apart_append.mpr ⟨counted.apart, counted.fresh few⟩
  issued := by
    intro connector inside
    simp only [List.length_append, List.length_singleton]
    rcases List.mem_append.mp inside with old | new
    · exact Nat.le_succ_of_le (counted.issued connector old)
    · rcases List.mem_singleton.mp new with rfl
      exact Nat.le_of_eq (counted.number few)
  next := by
    simp only [List.length_append, List.length_singleton, next, Switchboard.toNat_successor,
      counted.number few]

end

/-! ## Looking up connectors -/

theorem connector?_of_mem
    {bus : Bus} (sound : bus.Sound) {connector : Connector} (inside : connector ∈ bus.connectors) :
    bus.connector? connector.frame = some connector :=
  Keyed.find?_of_mem sound.apart inside

theorem connector?_eq_some
    {bus : Bus} {frame : FrameId} {connector : Connector}
    (found : bus.connector? frame = some connector) :
    connector ∈ bus.connectors ∧ connector.frame = frame := by
  constructor
  · exact List.mem_of_find?_eq_some found
  · simpa using List.find?_some found

theorem exists_of_isOpen
    {bus : Bus} {frame : FrameId} (isOpen : bus.isOpen frame = true) :
    ∃ connector, bus.connector? frame = some connector ∧ connector.isClosed = false := by
  unfold Bus.isOpen at isOpen
  cases found : bus.connector? frame with
  | none =>
      simp [found] at isOpen
  | some connector =>
      refine ⟨connector, rfl, ?_⟩
      simpa [found] using isOpen

theorem exists_mem_of_isOpen
    {bus : Bus} {frame : FrameId} (isOpen : bus.isOpen frame = true) :
    ∃ connector ∈ bus.connectors, connector.frame = frame := by
  rcases exists_of_isOpen isOpen with ⟨connector, found, _⟩
  rcases connector?_eq_some found with ⟨inside, owns⟩
  exact ⟨connector, inside, owns⟩

/-- A frame whose connector is open is registered. -/
theorem mem_frames_of_isOpen
    {bus : Bus} (sound : bus.Sound) {frame : FrameId} (isOpen : bus.isOpen frame = true) :
    frame ∈ bus.board.frames.toList := by
  rcases exists_of_isOpen isOpen with ⟨connector, found, unclosed⟩
  rcases connector?_eq_some found with ⟨inside, rfl⟩
  exact (sound.registered connector inside).mpr unclosed

theorem frames_modify
    (bus : Bus) {frame : FrameId} {change : Connector → Connector}
    (kept : ∀ connector, connector.frame = frame → (change connector).frame = frame) :
    (bus.modify frame change).connectors.map (·.frame) = bus.connectors.map (·.frame) := by
  simp only [Bus.modify, List.map_map]
  apply List.map_congr_left
  intro connector _
  by_cases same : connector.frame = frame
  · simp [same, kept connector same]
  · simp [same]

/-! ## Actions -/

/-- Connectors may change as long as they keep their frames and none of them is closed. -/
theorem Sound.of_kept
    {bus : Bus} (sound : bus.Sound) {board : Switchboard}
    (frames : board.frames = bus.board.frames) (next : board.nextFrame = bus.board.nextFrame)
    {change : Connector → Connector}
    (kept : ∀ connector ∈ bus.connectors, connector.Kept (change connector)) :
    Sound ⟨board, bus.connectors.map change⟩ where
  apart := by
    have same : (bus.connectors.map change).map (·.frame) = bus.connectors.map (·.frame) := by
      rw [List.map_map]
      exact List.map_congr_left fun connector inside => (kept connector inside).frame
    rw [same]
    exact sound.apart
  registered := by
    simp only [List.forall_mem_map, frames]
    intro connector inside
    rw [(kept connector inside).frame, (kept connector inside).isClosed]
    exact sound.registered connector inside
  attached := by
    intro frame inside
    rw [frames] at inside
    rcases sound.attached frame inside with ⟨connector, found, rfl⟩
    exact ⟨change connector, List.mem_map_of_mem found, (kept connector found).frame⟩
  issued := by
    simp only [List.forall_mem_map, List.length_map]
    intro connector inside
    rw [(kept connector inside).frame]
    exact sound.issued connector inside
  next := by
    simp only [List.length_map, next]
    exact sound.next

theorem Sound.modify
    {bus : Bus} (sound : bus.Sound) {frame : FrameId} {change : Connector → Connector}
    (kept : ∀ connector, bus.connector? frame = some connector →
      connector.Kept (change connector)) :
    (bus.modify frame change).Sound := by
  apply sound.of_kept rfl rfl
  intro connector inside
  split
  · rename_i same
    apply kept
    rw [← same]
    exact connector?_of_mem sound inside
  · exact .refl connector

/-- The switchboard may change as long as it keeps its frames. -/
theorem Sound.withBoard
    {bus : Bus} (sound : bus.Sound) {board : Switchboard}
    (frames : board.frames = bus.board.frames)
    (next : board.nextFrame = bus.board.nextFrame) :
    Sound { bus with board } := by
  have changed := sound.of_kept frames next fun connector _ => Connector.Kept.refl connector
  simpa using changed

theorem sound_spread {bus : Bus} (sound : bus.Sound) (packet : Packet) :
    (bus.spread packet).Sound :=
  sound.of_kept rfl rfl fun connector _ => connector.kept_dispatch packet

theorem sound_connect
    {bus : Bus} (sound : bus.Sound)
    (few : bus.connect.2.connectors.length < UInt64.size) : bus.connect.2.Sound := by
  unfold connect Switchboard.register at few ⊢
  by_cases full : bus.board.maxFrames ≤ bus.board.frames.size
  · simpa [full] using sound
  · simp only [full, if_false, List.length_append, List.length_singleton] at few ⊢
    have fresh := sound.counted.fresh few
    let board : Switchboard :=
      { bus.board with
        frames := bus.board.frames.insert ⟨bus.board.nextFrame⟩
        nextFrame := Switchboard.successor bus.board.nextFrame }
    have attached : Counted ⟨board, bus.connectors ++ [.attached ⟨bus.board.nextFrame⟩]⟩ :=
      sound.counted.attach few rfl
    constructor
    · exact attached.apart
    · intro connector inside
      rw [FrameSet.mem_insert]
      rcases List.mem_append.mp inside with old | new
      · rw [sound.registered connector old]
        simp [fresh connector old]
      · rcases List.mem_singleton.mp new with rfl
        simp [Connector.attached, Connector.isClosed, TopicRouter.empty]
    · intro frame inside
      rcases FrameSet.mem_insert.mp inside with rfl | old
      · exact ⟨.attached ⟨bus.board.nextFrame⟩, by simp, rfl⟩
      · rcases sound.attached frame old with ⟨connector, found, same⟩
        exact ⟨connector, List.mem_append_left _ found, same⟩
    · exact attached.issued
    · exact attached.next

theorem sound_create
    {bus : Bus} (sound : bus.Sound) (frame : FrameId) (session : SessionId) :
    (bus.create frame session).2.Sound := by
  rcases bus.board.steady_claim frame session .epoch with ⟨_, frames, next⟩
  have claimed := sound.withBoard frames next
  cases reply : (bus.board.claim frame session .epoch).reply with
  | error error =>
      simpa only [create, reply] using claimed
  | ok result =>
      simp only [create, reply]
      exact claimed.modify fun connector _ => connector.kept_afterClaim session result

theorem sound_join
    {bus : Bus} (sound : bus.Sound) (frame : FrameId) (session : SessionId)
    (displayName : String) :
    (bus.join frame session displayName).2.Sound := by
  let turn := bus.board.join frame session displayName .epoch
  have joined : Sound { bus with board := turn.board } := sound.withBoard rfl rfl
  exact joined.modify fun connector _ => connector.kept_afterJoin session turn.reply

theorem sound_broadcast
    {bus : Bus} (sound : bus.Sound) (frame : FrameId) (topic : String) (data : Json.Value) :
    (bus.broadcast frame topic data).Sound := by
  unfold broadcast
  cases (bus.connector? frame).bind (·.broadcast? topic data) with
  | none =>
      exact sound
  | some packet =>
      exact sound_spread sound packet

/-- The connector of a frame may be replaced by one that it has become. -/
theorem Sound.replace
    {bus : Bus} (sound : bus.Sound) {frame : FrameId} {connector changed : Connector}
    (found : bus.connector? frame = some connector) (kept : connector.Kept changed) :
    (bus.modify frame fun _ => changed).Sound := by
  apply sound.modify
  intro other same
  rw [found] at same
  cases same
  exact kept

theorem sound_receiver
    {bus : Bus} (sound : bus.Sound) (frame : FrameId) (topic : String) :
    (bus.receiver frame topic).2.Sound := by
  unfold receiver
  split
  · exact sound
  · rename_i connector found
    exact sound.replace found (connector.kept_receiver topic)

theorem sound_receive
    {bus : Bus} (sound : bus.Sound) (frame : FrameId) (ticket : Ticket) :
    (bus.receive frame ticket).2.Sound := by
  unfold receive
  split
  · exact sound
  · rename_i connector found
    exact sound.replace found (connector.kept_receive ticket)

theorem sound_drain
    {bus : Bus} (sound : bus.Sound) (frame : FrameId) (ticket : Ticket) :
    (bus.drain frame ticket).2.Sound := by
  unfold drain
  split
  · exact sound
  · rename_i connector found
    exact sound.replace found (connector.kept_drain ticket)

theorem sound_close
    {bus : Bus} (sound : bus.Sound) {frame : FrameId} (isOpen : bus.isOpen frame = true) :
    (bus.close frame).Sound := by
  have registered := mem_frames_of_isOpen sound isOpen
  have board : (bus.board.unregister frame).board =
      { bus.board with frames := bus.board.frames.erase frame } := by
    simp [Switchboard.unregister, registered]
  let change := fun connector : Connector =>
    if connector.frame = frame then connector.close else connector
  have frameKept : ∀ connector, (change connector).frame = connector.frame := by
    intro connector
    simp only [change]
    split <;> rfl
  have closed : bus.close frame =
      ⟨{ bus.board with frames := bus.board.frames.erase frame },
        bus.connectors.map change⟩ := by
    rw [close, board]
    rfl
  rw [closed]
  constructor
  · simp only [List.map_map, Function.comp_def, frameKept]
    exact sound.apart
  · simp only [List.forall_mem_map, FrameSet.mem_erase, frameKept]
    intro connector inside
    rw [sound.registered connector inside]
    by_cases same : connector.frame = frame
    · simp [change, same, Connector.close, Connector.isClosed, TopicRouter.close]
    · simp [change, same]
  · intro other inside
    rw [FrameSet.mem_erase] at inside
    rcases sound.attached other inside.1 with ⟨connector, found, rfl⟩
    exact ⟨change connector, List.mem_map_of_mem found, frameKept connector⟩
  · simp only [List.forall_mem_map, List.length_map, frameKept]
    exact sound.issued
  · simp only [List.length_map]
    exact sound.next

/-- Every action keeps a bus sound as long as identities do not run out. -/
theorem sound_perform
    {bus : Bus} (sound : bus.Sound) (action : Action)
    (few : (bus.perform action).2.connectors.length < UInt64.size) :
    (bus.perform action).2.Sound := by
  have guarded (frame : FrameId) (act : Outcome SwitchboardError × Bus)
      (kept : bus.isOpen frame = true → act.2.Sound) : (bus.ifOpen frame act).2.Sound :=
    ifOpen_cases (motive := fun done => done.2.Sound) kept sound
  cases action with
  | connect displayName =>
      exact sound_connect sound few
  | create frame session =>
      exact guarded frame _ fun _ => sound_create sound frame session
  | join frame session displayName =>
      exact guarded frame _ fun _ => sound_join sound frame session displayName
  | describe frame session =>
      exact guarded frame _ fun _ => sound
  | broadcast frame topic payload =>
      apply guarded
      intro isOpen
      split
      · exact sound_broadcast sound frame topic _
      · exact sound
  | unicast frame topic payload destination =>
      apply guarded
      intro isOpen
      split
      · exact sound_spread sound _
      · exact sound
  | receiver frame topic =>
      exact guarded frame _ fun _ => sound_receiver sound frame topic
  | receive frame ticket =>
      exact sound_receive sound frame ticket
  | drain frame ticket =>
      exact sound_drain sound frame ticket
  | dropReceiver frame ticket =>
      exact sound.modify fun connector _ => connector.kept_drop ticket
  | close frame =>
      exact guarded frame _ fun isOpen => sound_close sound isOpen

/-! ## Numbers of connectors -/

theorem length_connectors_perform
    (bus : Bus) {action : Action} (other : ∀ displayName, action ≠ .connect displayName) :
    (bus.perform action).2.connectors.length = bus.connectors.length := by
  have guarded (frame : FrameId) (act : Outcome SwitchboardError × Bus)
      (same : act.2.connectors.length = bus.connectors.length) :
      (bus.ifOpen frame act).2.connectors.length = bus.connectors.length :=
    ifOpen_cases (motive := fun done => done.2.connectors.length = bus.connectors.length)
      (fun _ => same) rfl
  cases action with
  | connect displayName =>
      exact absurd rfl (other displayName)
  | create frame session =>
      apply guarded
      unfold create
      simp only
      split <;> simp
  | join frame session displayName =>
      apply guarded
      simp [join]
  | describe frame session =>
      exact guarded frame _ rfl
  | broadcast frame topic payload =>
      apply guarded
      split
      · unfold broadcast
        cases (bus.connector? frame).bind (·.broadcast? topic _) <;> simp
      · rfl
  | unicast frame topic payload destination =>
      apply guarded
      split <;> simp
  | receiver frame topic =>
      apply guarded
      unfold receiver
      split <;> simp
  | receive frame ticket =>
      simp only [perform, receive]
      split <;> simp
  | drain frame ticket =>
      simp only [perform, drain]
      split <;> simp
  | dropReceiver frame ticket =>
      exact length_modify bus frame _
  | close frame =>
      apply guarded
      simp [close]

theorem length_connectors_le_perform (bus : Bus) (action : Action) :
    bus.connectors.length ≤ (bus.perform action).2.connectors.length := by
  by_cases connects : ∃ displayName, action = .connect displayName
  · rcases connects with ⟨displayName, rfl⟩
    simp only [perform, connect]
    split <;> simp
  · apply Nat.le_of_eq
    exact (bus.length_connectors_perform fun name same => connects ⟨name, same⟩).symm

theorem length_connectors_le_afterActions (bus : Bus) (actions : List Action) :
    bus.connectors.length ≤ (bus.afterActions actions).connectors.length := by
  induction actions generalizing bus with
  | nil =>
      exact Nat.le_refl _
  | cons action rest ih =>
      exact Nat.le_trans (bus.length_connectors_le_perform action) (ih _)

end Bus

end SessionBus
