import SessionBus.Proofs.Frame.Set
import SessionBus.Registry.Switchboard

/-!
# What a turn does to frames and the counter

Frames come and go by their own commands.  Every other command leaves the registered frames and the
counter of identities as they are.
-/

namespace SessionBus.Switchboard

/-- Two switchboards have the same frames and give out the same identity next. -/
structure Steady (board after : Switchboard) : Prop where
  limit : after.maxFrames = board.maxFrames
  frames : after.frames = board.frames
  next : after.nextFrame = board.nextFrame

variable (board : Switchboard)

/-- The identity after another one is greater by one, except after the last. -/
theorem toNat_successor (n : UInt64) :
    (successor n).toNat = min (n.toNat + 1) (UInt64.size - 1) := by
  have size : UInt64.size = 18446744073709551616 := rfl
  have bound := n.toNat_lt
  unfold successor
  split
  · rename_i room
    have sum : (n + 1).toNat = n.toNat + 1 := by
      rw [UInt64.toNat_add]
      exact Nat.mod_eq_of_lt room
    omega
  · omega

theorem register_of_full (full : board.maxFrames ≤ board.frames.size) :
    board.register = { reply := .error (.tooManyFrames board.maxFrames), board } :=
  if_pos full

theorem register_of_room (room : ¬ board.maxFrames ≤ board.frames.size) :
    board.register =
      { reply := .ok ⟨board.nextFrame⟩
        board := { board with
          frames := board.frames.insert ⟨board.nextFrame⟩
          nextFrame := successor board.nextFrame }
        events := [.registered ⟨board.nextFrame⟩] } :=
  if_neg room

/-- A frame is taken in under the next identity, and the sessions stay as they are. -/
theorem register_of_ok {frame : FrameId} (admitted : board.register.reply = .ok frame) :
    frame = ⟨board.nextFrame⟩ ∧ board.register.board.table = board.table ∧
      board.register.board.nextFrame = successor board.nextFrame := by
  by_cases full : board.maxFrames ≤ board.frames.size
  · rw [register_of_full board full] at admitted
    cases admitted
  · rw [register_of_room board full] at admitted ⊢
    cases admitted
    exact ⟨rfl, rfl, rfl⟩

/-- A switchboard that refuses a frame or a claim has not changed. -/
theorem board_of_register_refused
    {error : SwitchboardError} (refused : board.register.reply = .error error) :
    board.register.board = board := by
  unfold register at refused ⊢
  split
  · rfl
  · rename_i room
    rw [if_neg room] at refused
    cases refused

theorem board_of_claim_refused
    {frame : FrameId} {session : SessionId} {now : Instant} {error : SwitchboardError}
    (refused : (board.claim frame session now).reply = .error error) :
    (board.claim frame session now).board = board := by
  unfold claim at refused ⊢
  split
  · rfl
  · rename_i granted
    rw [granted] at refused
    cases refused

/-- Who is taken in is registered beside the others, and nothing else changes about frames. -/
theorem frames_register :
    (∀ frame, board.register.reply = .ok frame →
        ∀ other, other ∈ board.register.board.frames.toList ↔
          other = frame ∨ other ∈ board.frames.toList) ∧
      ∀ error, board.register.reply = .error error →
        board.register.board.frames = board.frames := by
  by_cases full : board.maxFrames ≤ board.frames.size
  · rw [register_of_full board full]
    exact ⟨nofun, fun _ _ => rfl⟩
  · rw [register_of_room board full]
    refine ⟨?_, nofun⟩
    rintro frame ⟨⟩ other
    exact FrameSet.mem_insert

/-- Who has gone is not registered any longer. -/
theorem frames_unregister (frame : FrameId) :
    ∀ other, other ∈ (board.unregister frame).board.frames.toList ↔
      other ∈ board.frames.toList ∧ other ≠ frame := by
  intro other
  unfold unregister
  split
  · exact FrameSet.mem_erase
  · rename_i absent
    rw [FrameSet.contains_eq_true] at absent
    constructor
    · intro inside
      exact ⟨inside, fun same => absent (same ▸ inside)⟩
    · exact And.left

/-- Who goes leaves the sessions behind. -/
theorem kept_unregister (frame : FrameId) :
    (board.unregister frame).board.table = board.table ∧
      (board.unregister frame).board.nextFrame = board.nextFrame := by
  unfold unregister
  split <;> exact ⟨rfl, rfl⟩

theorem steady_claim (frame : FrameId) (session : SessionId) (now : Instant) :
    board.Steady (board.claim frame session now).board := by
  unfold claim
  split <;> exact ⟨rfl, rfl, rfl⟩

/-- Frames come and go by their own commands only. -/
theorem steady_handle
    (now : Instant) {command : Command} (comes : command ≠ .register)
    (goes : ∀ frame, command ≠ .unregister frame) :
    board.Steady (board.handle now command).board := by
  cases command with
  | register =>
      exact absurd rfl comes
  | unregister frame =>
      exact absurd rfl (goes frame)
  | claim frame session =>
      exact board.steady_claim frame session now
  | join | describe | list | count | deliver =>
      exact ⟨rfl, rfl, rfl⟩

end SessionBus.Switchboard
