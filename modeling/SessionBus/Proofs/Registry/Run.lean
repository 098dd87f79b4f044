import SessionBus.Registry.Switchboard

/-!
# Runs of the switchboard

A switchboard takes one command at a time, whoever sends it.  A run is the list of the steps that it
takes for some commands in order; every step remembers the switchboard that took the command, so
that what is said about a step can speak of the state before, the answer and the state after it.
-/

namespace SessionBus

/-- A command with the switchboard that takes it and the time at which it does. -/
structure Step where
  before : Switchboard
  now : Instant
  command : Command

namespace Step

/-- What the command brings about. -/
def turn (step : Step) : Turn Reply :=
  step.before.handle step.now step.command

def reply (step : Step) : Reply :=
  step.turn.reply

def after (step : Step) : Switchboard :=
  step.turn.board

end Step

namespace Switchboard

def run (board : Switchboard) : List (Instant × Command) → List Step
  | [] => []
  | (now, command) :: rest =>
      let step : Step := ⟨board, now, command⟩
      step :: step.after.run rest

def afterSteps (board : Switchboard) : List Step → Switchboard
  | [] => board
  | step :: rest => step.after.afterSteps rest

/-- Each step of a run is taken where the steps before it have led, and the rest of the run goes on
from there. -/
theorem run_eq_append
    {board : Switchboard} {commands : List (Instant × Command)}
    {past future : List Step}
    (split : board.run commands = past ++ future) :
    ∃ rest, future = (board.afterSteps past).run rest := by
  induction past generalizing board commands with
  | nil =>
      exact ⟨commands, split.symm⟩
  | cons step past ih =>
      cases commands with
      | nil =>
          simp [run] at split
      | cons timed rest =>
          rcases timed with ⟨now, command⟩
          simp only [run, List.cons_append, List.cons.injEq] at split
          rcases split with ⟨rfl, rest⟩
          exact ih rest

/-- The first step of a run is taken by the switchboard itself. -/
theorem before_of_run_eq_cons
    {board : Switchboard} {commands : List (Instant × Command)}
    {step : Step} {future : List Step}
    (split : board.run commands = step :: future) :
    step.before = board ∧ ∃ rest, future = step.after.run rest := by
  cases commands with
  | nil =>
      simp [run] at split
  | cons timed rest =>
      simp only [run, List.cons.injEq] at split
      rcases split with ⟨rfl, rfl⟩
      exact ⟨rfl, rest, rfl⟩

/-- What every command keeps holds before and after every step of a run. -/
theorem holds_of_mem_run
    (holds : Switchboard → Prop)
    (kept : ∀ step : Step, holds step.before → holds step.after)
    {board : Switchboard} (start : holds board) {commands : List (Instant × Command)}
    {step : Step} (member : step ∈ board.run commands) :
    holds step.before ∧ holds step.after := by
  induction commands generalizing board with
  | nil =>
      simp [run] at member
  | cons timed rest ih =>
      simp only [run, List.mem_cons] at member
      rcases member with rfl | later
      · exact ⟨start, kept _ start⟩
      · exact ih (kept ⟨board, timed.1, timed.2⟩ start) later

/-- What every command keeps holds after the whole of a run. -/
theorem holds_afterSteps_run
    (holds : Switchboard → Prop)
    (kept : ∀ step : Step, holds step.before → holds step.after)
    {board : Switchboard} (start : holds board) (commands : List (Instant × Command)) :
    holds (board.afterSteps (board.run commands)) := by
  induction commands generalizing board with
  | nil =>
      exact start
  | cons timed rest ih =>
      exact ih (kept ⟨board, timed.1, timed.2⟩ start)

/-- What each step keeps as long as it is of some kind holds after all steps of that kind. -/
theorem holds_afterSteps_of_forall
    (holds : Switchboard → Prop) (kind : Step → Prop)
    (kept : ∀ step : Step, kind step → holds step.before → holds step.after)
    {board : Switchboard} {commands : List (Instant × Command)} {past future : List Step}
    (split : board.run commands = past ++ future) (start : holds board)
    (kinds : ∀ step ∈ past, kind step) :
    holds (board.afterSteps past) := by
  induction past generalizing board commands with
  | nil =>
      exact start
  | cons step past ih =>
      rcases before_of_run_eq_cons split with ⟨here, rest, continues⟩
      have next : holds step.after := kept step (kinds step List.mem_cons_self) (here ▸ start)
      exact ih continues.symm next fun later inside => kinds later (List.mem_cons_of_mem _ inside)

end Switchboard

end SessionBus
