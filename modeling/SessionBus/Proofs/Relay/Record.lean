import SessionBus.Proofs.Registry.Delivery
import SessionBus.Proofs.Relay.System

/-!
# The record of a switchboard

The steps of a switchboard are told beside an exchange, as a run from its start on.  An inbox then
holds the last of the packets that its frame has been handed, and a frame that the record does not
know has been handed nothing.
-/

namespace SessionBus

/-! ## Runs that go on -/

namespace Switchboard

variable (board : Switchboard)

theorem afterSteps_concat (past : List Step) (step : Step) :
    board.afterSteps (past ++ [step]) = step.after := by
  induction past generalizing board with
  | nil =>
      rfl
  | cons first past ih =>
      exact ih first.after

theorem run_concat (commands : List (Instant × Command)) (now : Instant) (command : Command) :
    board.run (commands ++ [(now, command)]) =
      board.run commands ++ [⟨board.afterSteps (board.run commands), now, command⟩] := by
  induction commands generalizing board with
  | nil =>
      rfl
  | cons timed rest ih =>
      simp only [List.cons_append, run, ih, afterSteps]

end Switchboard

theorem Step.allHanded_concat (past : List Step) (step : Step) (frame : FrameId) :
    allHanded (past ++ [step]) frame = allHanded past frame ++ step.handed frame := by
  rw [allHanded_append]
  exact congrArg _ (List.flatMap_singleton ..)

theorem Step.admitted_concat (past : List Step) (step : Step) :
    admitted (past ++ [step]) = admitted past ++ step.admitted?.toList := by
  rw [admitted_append, admitted_cons]
  exact congrArg _ (List.append_nil _)

/-! ## Inboxes -/

namespace Exchange

/-- The packets in the inbox of a frame. -/
def waiting (exchange : Exchange) (frame : FrameId) : List Packet :=
  (exchange.collect frame).1

variable {exchange : Exchange} {board : Switchboard} {frame : FrameId} {packets : List Packet}

theorem Keeps.waiting (keeps : exchange.Keeps board frame packets) :
    exchange.waiting frame = packets :=
  keeps.collect

/-- A frame that looks for one packet finds the first. -/
theorem Keeps.head (keeps : exchange.Keeps board frame packets) :
    (exchange.next frame).1 = packets.head? := by
  rw [← keeps.collect]
  unfold Exchange.next Exchange.collect
  cases exchange.inbox? frame <;> rfl

/-- A frame that takes one packet leaves the others, and the inbox of another frame as it is. -/
theorem Keeps.afterNext (keeps : exchange.Keeps board frame packets) (reader : FrameId) :
    (exchange.next reader).2.Keeps board frame
      (if reader = frame then packets.tail else packets) :=
  keeps.takeOut reader List.tail rfl

/-! ## The record -/

/-- An exchange that has come about by some steps from the start on. -/
structure Recorded (limits : Limits) (steps : List Step) (exchange : Exchange) : Prop where
  run : ∃ commands, steps = (Switchboard.empty limits).run commands
  inboxes :
    ∀ frame, ∃ packets,
      exchange.Keeps ((Switchboard.empty limits).afterSteps steps) frame packets ∧
        packets <:+ Step.allHanded steps frame

variable {limits : Limits} {steps : List Step}

theorem recorded_start (limits : Limits) : (start limits).Recorded limits [] where
  run := ⟨[], rfl⟩
  inboxes := fun frame => ⟨[], keeps_start limits frame, List.suffix_refl _⟩

namespace Recorded

variable (recorded : exchange.Recorded limits steps)

include recorded

theorem running : exchange.board = some ((Switchboard.empty limits).afterSteps steps) := by
  rcases recorded.inboxes ⟨0⟩ with ⟨packets, keeps, _⟩
  exact keeps.running

/-- A frame that has not been taken in has been handed nothing. -/
theorem of_stranger (unknown : frame ∉ Step.admitted steps) :
    Step.allHanded steps frame = [] ∧ exchange.waiting frame = [] := by
  rcases recorded.run with ⟨commands, rfl⟩
  rcases recorded.inboxes frame with ⟨packets, keeps, last⟩
  have nothing : Step.allHanded ((Switchboard.empty limits).run commands) frame = [] :=
    Switchboard.allHanded_of_stranger List.not_mem_nil (List.append_nil _).symm unknown
  rw [nothing] at last
  exact ⟨nothing, keeps.waiting.trans (List.suffix_nil.mp last)⟩

/-- A frame that is taken in is not known before. -/
theorem fresh {now : Instant} {command : Command}
    (few : (Step.admitted (steps ++
      [⟨(Switchboard.empty limits).afterSteps steps, now, command⟩])).length < UInt64.size)
    (admitted : Step.admitted? ⟨(Switchboard.empty limits).afterSteps steps, now, command⟩ =
      some frame) : frame ∉ Step.admitted steps := by
  rcases recorded.run with ⟨commands, rfl⟩
  rw [← Switchboard.run_concat] at few
  have once := Switchboard.nodup_admitted few
  rw [Switchboard.run_concat, Step.admitted_append, List.nodup_append] at once
  have own : frame ∈ Step.admitted
      [⟨(Switchboard.empty limits).afterSteps ((Switchboard.empty limits).run commands), now,
        command⟩] := by
    rw [Step.admitted_cons, admitted]
    exact List.mem_cons_self
  exact fun before => once.2.2 frame before frame own rfl

/-- A command is recorded as a step, and what it hands over comes last in the inboxes. -/
theorem ask (now : Instant) (command : Command)
    (few : (Step.admitted (steps ++
      [⟨(Switchboard.empty limits).afterSteps steps, now, command⟩])).length < UInt64.size) :
    let step : Step := ⟨(Switchboard.empty limits).afterSteps steps, now, command⟩
    (exchange.ask now command).Recorded limits (steps ++ [step]) ∧
      ∀ frame, (exchange.ask now command).waiting frame =
        exchange.waiting frame ++ step.handed frame := by
  intro step
  have settled : exchange.ask now command = exchange.settle step.turn := by
    simp only [Exchange.ask, request, recorded.running]
    rfl
  have keep : ∀ frame, ∃ packets, exchange.Keeps step.before frame packets ∧
      packets <:+ Step.allHanded steps frame ∧
        (exchange.settle step.turn).Keeps step.after frame (packets ++ step.handed frame) := by
    intro frame
    rcases recorded.inboxes frame with ⟨packets, keeps, last⟩
    refine ⟨packets, keeps, last, Keeps.ask keeps fun admitted => ?_⟩
    have nothing := (recorded.of_stranger (recorded.fresh few admitted)).2
    rw [← keeps.waiting, nothing]
  rw [settled]
  refine ⟨⟨?_, ?_⟩, ?_⟩
  · rcases recorded.run with ⟨commands, same⟩
    refine ⟨commands ++ [(now, command)], ?_⟩
    rw [Switchboard.run_concat, ← same]
  · intro frame
    rcases keep frame with ⟨packets, _, last, keeps⟩
    refine ⟨packets ++ step.handed frame, ?_, ?_⟩
    · rw [Switchboard.afterSteps_concat]
      exact keeps
    · rw [Step.allHanded_concat]
      rcases last with ⟨before, whole⟩
      exact ⟨before, by rw [← List.append_assoc, whole]⟩
  · intro frame
    rcases keep frame with ⟨packets, before, _, keeps⟩
    rw [before.waiting, keeps.waiting]

/-- A frame that takes a packet takes the first one in its inbox. -/
theorem next (reader : FrameId) :
    (exchange.next reader).1 = (exchange.waiting reader).head? ∧
      (exchange.next reader).2.Recorded limits steps ∧
        ∀ frame, (exchange.next reader).2.waiting frame =
          if reader = frame then (exchange.waiting frame).tail else exchange.waiting frame := by
  refine ⟨?_, ⟨recorded.run, ?_⟩, ?_⟩
  · rcases recorded.inboxes reader with ⟨packets, keeps, _⟩
    rw [keeps.head, keeps.waiting]
  · intro frame
    rcases recorded.inboxes frame with ⟨packets, keeps, last⟩
    refine ⟨_, keeps.afterNext reader, ?_⟩
    split
    · exact (List.tail_suffix packets).trans last
    · exact last
  · intro frame
    rcases recorded.inboxes frame with ⟨packets, keeps, _⟩
    rw [(keeps.afterNext reader).waiting, keeps.waiting]

end Recorded

end Exchange

end SessionBus
