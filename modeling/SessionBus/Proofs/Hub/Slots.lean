import SessionBus.Proofs.Hub.SlotChange
import SessionBus.Proofs.Registry.Identity

/-!
# Slots for frames

A hub takes in as many frames as its switchboard has slots for.  The frames that are registered are
those of the connections that have been accepted and not closed, every frame is given back once, and
a hub that is not full accepts whoever asks to connect.

The identities are counted with 64 bits; two connections have the same one only after as many
connections as that.
-/

namespace SessionBus

namespace Output

/-- The connections that have been accepted and not closed. -/
def live (outputs : List Output) : List (Nat × FrameId) :=
  (accepted outputs).filter fun entry => !closes entry.1 outputs

theorem closes_eq_true {number : Nat} {outputs : List Output} :
    closes number outputs = true ↔ .close number ∈ outputs :=
  List.contains_iff_mem

theorem mem_live {number : Nat} {frame : FrameId} {outputs : List Output} :
    (number, frame) ∈ live outputs ↔
      frame ∈ identities number outputs ∧ .close number ∉ outputs := by
  rw [live, List.mem_filter, mem_accepted, Bool.not_eq_true', ← Bool.not_eq_true, closes_eq_true]

end Output

namespace Hub

variable {hub : Hub} {limits : Limits} {max number : Nat} {past : List Moment} {act : Act}

/-! ## Slots in use -/

/-- The slots of a hub: identities have been given out one after the other, the registered frames
are those that are served, and every frame that is not served any more has been taken out once. -/
structure Slotted (limits : Limits) (past : List Moment) (hub : Hub) (board : Switchboard) :
    Prop where
  running : hub.exchange.board = some board
  issued : board.Issued limits.maxFrames (Output.accepted (told past)).length
  numbers :
    ∀ entry ∈ Output.accepted (told past),
      entry.2.value.toNat ≤ (Output.accepted (told past)).length
  apart : ((Output.accepted (told past)).map (·.2)).Nodup
  registered : ∀ frame, frame ∈ board.frames.toList ↔ ∃ number, hub.ServesFrame number frame
  held : ∀ number frame, hub.ServesFrame number frame → (released past).count frame = 0
  returned :
    ∀ number frame, (number, frame) ∈ Output.accepted (told past) → ¬ hub.ServesFrame number frame →
      (released past).count frame = 1
  unknown :
    ∀ frame, frame ∉ (Output.accepted (told past)).map (·.2) → (released past).count frame = 0

theorem released_concat (past : List Moment) (hub : Hub) (act : Act) :
    released (past ++ [⟨hub, act⟩]) = released past ++ hub.releases act := by
  rw [released, released, List.flatMap_append, List.flatMap_singleton]

theorem accepted_concat (past : List Moment) (hub : Hub) (act : Act) :
    Output.accepted (told (past ++ [⟨hub, act⟩])) =
      Output.accepted (told past) ++ Output.accepted (hub.perform act).2 := by
  rw [told_concat, Output.accepted_append]

theorem accepted_of_silent
    (past : List Moment) (accepted : Output.accepted (hub.perform act).2 = []) :
    Output.accepted (told (past ++ [⟨hub, act⟩])) = Output.accepted (told past) := by
  rw [accepted_concat, accepted, List.append_nil]

theorem released_of_silent (past : List Moment) (released : hub.releases act = []) :
    Hub.released (past ++ [⟨hub, act⟩]) = Hub.released past := by
  rw [released_concat, released, List.append_nil]

theorem count_released
    (past : List Moment) {frame : FrameId} (released : hub.releases act = [frame])
    (other : FrameId) :
    (Hub.released (past ++ [⟨hub, act⟩])).count other =
      (Hub.released past).count other + if frame = other then 1 else 0 := by
  rw [released_concat, released, List.count_append, List.count_singleton]
  simp only [beq_iff_eq]

/-- A connection serves one frame. -/
theorem ServesFrame.eq {first second : FrameId} (one : hub.ServesFrame number first)
    (other : hub.ServesFrame number second) : first = second :=
  Stage.serving.inj (Option.some.inj (one.symm.trans other))

theorem Reached.mem_accepted
    (reached : Reached limits max past hub) {frame : FrameId}
    (serves : hub.ServesFrame number frame) :
    (number, frame) ∈ Output.accepted (told past) := by
  rw [Output.mem_accepted, (reached.serving serves).1]
  exact List.mem_singleton_self _

namespace Slotted

variable {board : Switchboard} {frame : FrameId}

theorem start (limits : Limits) (max : Nat) :
    Slotted limits [] (Hub.start limits max) (.empty limits) where
  running := rfl
  issued := Switchboard.issued_empty limits
  numbers := nofun
  apart := List.nodup_nil
  registered := by
    simp [Switchboard.empty, FrameSet.empty, ServesFrame, stage?, connection?, Hub.start]
  held := fun _ _ _ => rfl
  returned := nofun
  unknown := fun _ _ => rfl

/-- A frame has been accepted on one connection only. -/
theorem number_eq
    (slotted : Slotted limits past hub board) {first second : Nat}
    (one : (first, frame) ∈ Output.accepted (told past))
    (other : (second, frame) ∈ Output.accepted (told past)) : first = second :=
  congrArg Prod.fst (Keyed.eq_of_mem slotted.apart one other rfl)

theorem kept
    (slotted : Slotted limits past hub board) {after : Switchboard}
    (running : (hub.perform act).1.exchange.board = some after) (steady : board.Steady after)
    (released : hub.releases act = [])
    (serves : ∀ number frame,
      (hub.perform act).1.ServesFrame number frame ↔ hub.ServesFrame number frame)
    (accepted : Output.accepted (hub.perform act).2 = []) :
    Slotted limits (past ++ [⟨hub, act⟩]) (hub.perform act).1 after := by
  have same := accepted_of_silent past accepted
  have nobody := released_of_silent past released
  constructor
  · exact running
  · rw [same]
    exact slotted.issued.of_steady steady
  · rw [same]
    exact slotted.numbers
  · rw [same]
    exact slotted.apart
  · intro frame
    rw [steady.frames, slotted.registered frame]
    exact exists_congr fun number => (serves number frame).symm
  · intro number frame serving
    rw [nobody]
    exact slotted.held number frame ((serves number frame).mp serving)
  · intro number frame known unserved
    rw [nobody]
    exact slotted.returned number frame (same ▸ known) (mt (serves number frame).mpr unserved)
  · intro frame strange
    rw [nobody]
    exact slotted.unknown frame (same ▸ strange)

/-- The frame that is taken in gets the next identity, which nobody has had before. -/
theorem fresh
    (slotted : Slotted limits past hub board)
    (few : (Output.accepted (told past)).length + 1 < UInt64.size)
    (registered : board.register.reply = .ok frame) :
    (¬ board.maxFrames ≤ board.frames.size) ∧
      frame.value.toNat = (Output.accepted (told past)).length + 1 := by
  by_cases full : board.maxFrames ≤ board.frames.size
  · rw [board.register_of_full full] at registered
    cases registered
  · refine ⟨full, ?_⟩
    rw [board.register_of_room full] at registered
    cases registered
    rw [slotted.issued.next]
    omega

theorem notMem_of_fresh
    (slotted : Slotted limits past hub board)
    (next : frame.value.toNat = (Output.accepted (told past)).length + 1) :
    frame ∉ (Output.accepted (told past)).map (·.2) := by
  intro inside
  rcases List.mem_map.mp inside with ⟨entry, known, rfl⟩
  have below := slotted.numbers entry known
  omega

/-- What has been accepted once a frame has been told its identity. -/
theorem accept
    (slotted : Slotted limits past hub board)
    (next : frame.value.toNat = (Output.accepted (told past)).length + 1)
    (accepted : Output.accepted (hub.perform act).2 = [(number, frame)]) :
    let entries := Output.accepted (told (past ++ [⟨hub, act⟩]))
    entries = Output.accepted (told past) ++ [(number, frame)] ∧
      (∀ entry ∈ entries, entry.2.value.toNat ≤ entries.length) ∧
      (entries.map (·.2)).Nodup := by
  intro entries
  have all : entries = Output.accepted (told past) ++ [(number, frame)] := by
    simp only [entries, accepted_concat, accepted]
  rw [all, List.length_append, List.length_singleton]
  refine ⟨rfl, ?_, ?_⟩
  · intro entry inside
    rcases List.mem_append.mp inside with old | new
    · exact Nat.le_succ_of_le (slotted.numbers entry old)
    · obtain rfl := List.mem_singleton.mp new
      exact Nat.le_of_eq next
  · rw [Keyed.apart_append]
    refine ⟨slotted.apart, fun other inside same => slotted.notMem_of_fresh next ?_⟩
    have here : other.2 = frame := same
    rw [← here]
    exact List.mem_map_of_mem inside

theorem taken
    (slotted : Slotted limits past hub board)
    (few : (Output.accepted (told past)).length + 1 < UInt64.size)
    (registered : board.register.reply = .ok frame)
    (running : (hub.perform act).1.exchange.board = some board.register.board)
    (released : hub.releases act = [])
    (serves : ∀ other served, (hub.perform act).1.ServesFrame other served ↔
      other = number ∧ served = frame ∨ hub.ServesFrame other served)
    (accepted : Output.accepted (hub.perform act).2 = [(number, frame)]) :
    Slotted limits (past ++ [⟨hub, act⟩]) (hub.perform act).1 board.register.board := by
  rcases slotted.fresh few registered with ⟨room, next⟩
  have strange := slotted.notMem_of_fresh next
  rcases slotted.accept next accepted with ⟨all, numbers, apart⟩
  have nobody := released_of_silent past released
  constructor
  · exact running
  · rw [all, List.length_append, List.length_singleton]
    exact slotted.issued.register room
  · exact numbers
  · exact apart
  · intro other
    rw [board.frames_register.1 frame registered, slotted.registered other]
    constructor
    · rintro (rfl | ⟨holder, serving⟩)
      · exact ⟨number, (serves number other).mpr (.inl ⟨rfl, rfl⟩)⟩
      · exact ⟨holder, (serves holder other).mpr (.inr serving)⟩
    · rintro ⟨holder, serving⟩
      exact ((serves holder other).mp serving).imp And.right fun old => ⟨holder, old⟩
  · intro holder other serving
    rw [nobody]
    rcases (serves holder other).mp serving with ⟨_, rfl⟩ | old
    · exact slotted.unknown other strange
    · exact slotted.held holder other old
  · intro holder other known unserved
    rw [nobody]
    rw [all] at known
    rcases List.mem_append.mp known with old | new
    · exact slotted.returned holder other old fun serving =>
        unserved ((serves holder other).mpr (.inr serving))
    · cases List.mem_singleton.mp new
      exact absurd ((serves number frame).mpr (.inl ⟨rfl, rfl⟩)) unserved
  · intro other absent
    rw [nobody]
    rw [all, List.map_append, List.mem_append, not_or] at absent
    exact slotted.unknown other absent.1

theorem passed
    (slotted : Slotted limits past hub board) (reached : Reached limits max past hub)
    (few : (Output.accepted (told past)).length + 1 < UInt64.size)
    (registered : board.register.reply = .ok frame)
    (running : (hub.perform act).1.exchange.board =
      some (board.register.board.unregister frame).board)
    (released : hub.releases act = [frame])
    (serves : ∀ number frame,
      (hub.perform act).1.ServesFrame number frame ↔ hub.ServesFrame number frame)
    (accepted : Output.accepted (hub.perform act).2 = [(number, frame)]) :
    Slotted limits (past ++ [⟨hub, act⟩]) (hub.perform act).1
      (board.register.board.unregister frame).board := by
  rcases slotted.fresh few registered with ⟨room, next⟩
  have strange := slotted.notMem_of_fresh next
  rcases slotted.accept next accepted with ⟨all, numbers, apart⟩
  have unserved (holder : Nat) : ¬ hub.ServesFrame holder frame :=
    fun serving => strange (List.mem_map_of_mem (reached.mem_accepted serving))
  have counted := count_released past released
  constructor
  · exact running
  · rw [all, List.length_append, List.length_singleton]
    exact (slotted.issued.register room).unregister frame
  · exact numbers
  · exact apart
  · intro other
    rw [board.register.board.frames_unregister, board.frames_register.1 frame registered,
      exists_congr fun holder => serves holder other, ← slotted.registered other]
    constructor
    · rintro ⟨rfl | old, different⟩
      · exact absurd rfl different
      · exact old
    · intro old
      refine ⟨.inr old, ?_⟩
      rintro rfl
      rcases (slotted.registered other).mp old with ⟨holder, serving⟩
      exact unserved holder serving
  · intro holder other serving
    have old := (serves holder other).mp serving
    have different : frame ≠ other := by
      rintro rfl
      exact unserved holder old
    rw [counted, if_neg different]
    exact slotted.held holder other old
  · intro holder other known absent
    rw [all] at known
    rcases List.mem_append.mp known with old | new
    · have different : frame ≠ other := by
        rintro rfl
        exact strange (List.mem_map_of_mem old)
      rw [counted, if_neg different]
      exact slotted.returned holder other old (mt (serves holder other).mpr absent)
    · cases List.mem_singleton.mp new
      rw [counted, if_pos rfl, slotted.unknown frame strange]
  · intro other absent
    rw [all, List.map_append, List.mem_append, not_or] at absent
    have different : frame ≠ other := by
      rintro rfl
      exact absent.2 (List.mem_singleton_self _)
    rw [counted, if_neg different]
    exact slotted.unknown other absent.1

theorem freed
    (slotted : Slotted limits past hub board) (reached : Reached limits max past hub)
    (served : hub.ServesFrame number frame)
    (running : (hub.perform act).1.exchange.board = some (board.unregister frame).board)
    (released : hub.releases act = [frame])
    (serves : ∀ other served, (hub.perform act).1.ServesFrame other served ↔
      other ≠ number ∧ hub.ServesFrame other served)
    (accepted : Output.accepted (hub.perform act).2 = []) :
    Slotted limits (past ++ [⟨hub, act⟩]) (hub.perform act).1 (board.unregister frame).board := by
  have same := accepted_of_silent past accepted
  have counted := count_released past released
  have own := reached.mem_accepted served
  -- Nobody else serves the frame.
  have alone {holder : Nat} (serving : hub.ServesFrame holder frame) : holder = number :=
    slotted.number_eq (reached.mem_accepted serving) own
  constructor
  · exact running
  · rw [same]
    exact slotted.issued.unregister frame
  · rw [same]
    exact slotted.numbers
  · rw [same]
    exact slotted.apart
  · intro other
    rw [board.frames_unregister, slotted.registered other]
    constructor
    · rintro ⟨⟨holder, serving⟩, different⟩
      refine ⟨holder, (serves holder other).mpr ⟨?_, serving⟩⟩
      rintro rfl
      exact different (serving.eq served)
    · rintro ⟨holder, serving⟩
      rcases (serves holder other).mp serving with ⟨elsewhere, old⟩
      refine ⟨⟨holder, old⟩, ?_⟩
      rintro rfl
      exact elsewhere (alone old)
  · intro holder other serving
    rcases (serves holder other).mp serving with ⟨elsewhere, old⟩
    have different : frame ≠ other := by
      rintro rfl
      exact elsewhere (alone old)
    rw [counted, if_neg different]
    exact slotted.held holder other old
  · intro holder other known unserved
    rw [same] at known
    by_cases here : frame = other
    · subst here
      rw [counted, if_pos rfl, slotted.held number frame served]
    · rw [counted, if_neg here]
      refine slotted.returned holder other known fun serving => unserved ?_
      refine (serves holder other).mpr ⟨?_, serving⟩
      rintro rfl
      exact here (served.eq serving)
  · intro other absent
    rw [same] at absent
    have different : frame ≠ other := by
      rintro rfl
      exact absent (List.mem_map_of_mem own)
    rw [counted, if_neg different]
    exact slotted.unknown other absent

theorem perform
    (slotted : Slotted limits past hub board) (reached : Reached limits max past hub)
    (allowed : hub.Allows act)
    (few : (Output.accepted (told (past ++ [⟨hub, act⟩]))).length < UInt64.size) :
    ∃ after, Slotted limits (past ++ [⟨hub, act⟩]) (hub.perform act).1 after := by
  rw [accepted_concat, List.length_append] at few
  cases slotChange reached slotted.running allowed with
  | kept after running steady released serves accepted =>
      exact ⟨after, slotted.kept running steady released serves accepted⟩
  | taken number frame free registered running released serves accepted =>
      rw [accepted] at few
      exact ⟨_, slotted.taken few registered running released serves accepted⟩
  | passed number frame registered running released serves accepted =>
      rw [accepted] at few
      exact ⟨_, slotted.passed reached few registered running released serves accepted⟩
  | freed number frame served running released serves accepted =>
      exact ⟨_, slotted.freed reached served running released serves accepted⟩

end Slotted

theorem Reached.slotted
    (reached : Reached limits max past hub)
    (few : (Output.accepted (told past)).length < UInt64.size) :
    ∃ board, Slotted limits past hub board := by
  induction reached with
  | start =>
      exact ⟨_, .start limits max⟩
  | act reached act allowed ih =>
      have fewer := few
      rw [accepted_concat, List.length_append] at fewer
      rcases ih (by omega) with ⟨board, slotted⟩
      exact slotted.perform reached allowed few

/-- A connection is live as long as it serves its frame. -/
theorem Reached.mem_live
    (reached : Reached limits max past hub) {frame : FrameId} :
    (number, frame) ∈ Output.live (told past) ↔ hub.ServesFrame number frame := by
  rw [Output.mem_live]
  constructor
  · rintro ⟨identity, open'⟩
    cases reached.standing number with
    | unborn next stage quiet | greeting deadline next stage quiet =>
        rw [Output.identities, Output.messagesTo_eq_nil quiet] at identity
        cases identity
    | gone next stage few closed =>
        exact absurd closed open'
    | serving other next stage only =>
        rw [only] at identity
        obtain rfl := List.mem_singleton.mp identity
        exact stage
  · intro serves
    rcases reached.serving serves with ⟨identity, open'⟩
    exact ⟨identity ▸ List.mem_singleton_self _, open'⟩

/-- The registered frames are those of the live connections. -/
theorem Slotted.registered_live
    {board : Switchboard} (slotted : Slotted limits past hub board)
    (reached : Reached limits max past hub) (frame : FrameId) :
    frame ∈ board.frames.toList ↔ ∃ number, (number, frame) ∈ Output.live (told past) := by
  rw [slotted.registered frame]
  exact exists_congr fun number => reached.mem_live.symm

theorem Slotted.live_apart
    {board : Switchboard} (slotted : Slotted limits past hub board) :
    ((Output.live (told past)).map (·.2)).Nodup :=
  slotted.apart.sublist (List.filter_sublist.map _)

/-- A frame is taken out of the switchboard once, when its connection is closed. -/
theorem Slotted.released_once
    {board : Switchboard} (slotted : Slotted limits past hub board)
    (reached : Reached limits max past hub) {frame : FrameId}
    (accepted : (number, frame) ∈ Output.accepted (told past)) :
    (released past).count frame = if .close number ∈ told past then 1 else 0 := by
  split
  · rename_i closed
    refine slotted.returned number frame accepted fun serves => ?_
    exact (reached.serving serves).2 closed
  · rename_i open'
    apply slotted.held number frame
    exact reached.mem_live.mp (Output.mem_live.mpr ⟨Output.mem_accepted.mp accepted, open'⟩)

/-- There are as many registered frames as live connections. -/
theorem Slotted.size_eq
    {board : Switchboard} (slotted : Slotted limits past hub board)
    (reached : Reached limits max past hub) :
    board.frames.size = (Output.live (told past)).length := by
  have same : board.frames.toList.Perm ((Output.live (told past)).map (·.2)) := by
    rw [List.perm_ext_iff_of_nodup board.frames.nodup slotted.live_apart]
    intro frame
    simp [slotted.registered_live reached]
  rw [FrameSet.size, same.length_eq, List.length_map]

/-! ## Asking to connect -/

/-- Whoever asks to connect is accepted if there is room, and otherwise refused. -/
theorem Slotted.greet
    {board : Switchboard} (slotted : Slotted limits past hub board)
    (reached : Reached limits max past hub) {now : Instant} {text : String}
    (allowed : hub.Allows (.hear number now (.line text))) {message : FrameMessage}
    (parsed : Line.parseFrame text max = .ok message) (asks : message.asksToConnect = true)
    (stranger : Output.identities number (told past) = []) :
    ((Output.live (told past)).length < limits.maxFrames ∧
        ∃ frame, .write number (.accept frame) ∈ (hub.perform (.hear number now (.line text))).2) ∨
      limits.maxFrames ≤ (Output.live (told past)).length ∧
        ∃ reason, .write number (.reject reason) ∈
          (hub.perform (.hear number now (.line text))).2 := by
  rcases allowed with ⟨connection, known⟩
  rcases reached.greeting_of_stranger known stranger with ⟨deadline, stage⟩
  rw [outputs_hear known]
  have answered : hub.answerTo connection now (.line text) =
      Connection.greet hub.exchange message := by
    simp only [answerTo, stage, Connection.handle, reached.consistent.limit, parsed]
  have limit := slotted.issued.limit
  have size := slotted.size_eq reached
  rw [answered, Connection.greet_of_asks hub.exchange asks]
  have registered : hub.exchange.register.1 = board.register.reply := by
    simp only [Exchange.register, Exchange.request, slotted.running]
  rcases asked : hub.exchange.register with ⟨result, after⟩
  rw [asked] at registered
  by_cases full : board.maxFrames ≤ board.frames.size
  · right
    rw [board.register_of_full full] at registered
    cases registered
    refine ⟨by omega, (SwitchboardError.tooManyFrames board.maxFrames).message,
      List.mem_append_left _ ?_⟩
    exact List.mem_singleton_self _
  · left
    rw [board.register_of_room full] at registered
    cases registered
    refine ⟨by omega, ⟨board.nextFrame⟩, List.mem_append_left _ ?_⟩
    exact List.mem_singleton_self _

end Hub

end SessionBus
