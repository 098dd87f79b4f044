import SessionBus.Proofs.Hub.Shadow

/-!
# Runs of a busy hub

A run of a busy hub takes step after step, each of any task and with writes that succeed or fail.
Its history remembers at every moment the hub that takes a step, so that what is said about a moment
can speak of the hub before and after it and of what was done on connections.

The acts of all steps make a run of a hub at which no write fails.  That hub shadows the busy one:
it differs from it in what waits only, and hears, asks and writes the same.
-/

namespace SessionBus.BusyHub

open Hub (Act)

/-! ## Histories -/

/-- A busy hub and the step that it takes next. -/
structure Moment where
  before : BusyHub
  step : Step

namespace Moment

def after (moment : Moment) : BusyHub :=
  (moment.before.step moment.step).1

def effects (moment : Moment) : List Effect :=
  (moment.before.step moment.step).2

/-- The acts that the step stands for. -/
def acts (moment : Moment) : List Act :=
  moment.before.actsFor moment.step

/-- What the switchboard is asked with the step. -/
def commands (moment : Moment) : List (Instant × Command) :=
  (moment.before.hub.run moment.acts).flatMap fun done => done.before.commandsFor done.act

/-- What is heard on a connection with the step. -/
def heardOn (number : Nat) (moment : Moment) : Option Incoming :=
  moment.acts.findSome? (Act.heardOn number)

end Moment

/-- What a busy hub does, step by step. -/
def history (busy : BusyHub) : List Step → List Moment
  | [] => []
  | step :: rest => ⟨busy, step⟩ :: (busy.step step).1.history rest

/-- All that has been done on connections. -/
def told (moments : List Moment) : List Effect :=
  moments.flatMap Moment.effects

/-- The acts of all steps. -/
def acts (moments : List Moment) : List Act :=
  moments.flatMap Moment.acts

/-- All bytes that have been read on a connection. -/
def received (number : Nat) (moments : List Moment) : List UInt8 :=
  (acts moments).flatMap (Act.bytesOn number)

/-- All that has been heard on a connection. -/
def heard (number : Nat) (moments : List Moment) : List Incoming :=
  (acts moments).filterMap (Act.heardOn number)

/-- What a reader makes of all bytes that have been read on a connection. -/
def reading (max number : Nat) (moments : List Moment) : List Incoming × LineReader :=
  (LineReader.start max).feed (received number moments)

/-- All frames that have been taken out of the switchboard. -/
def released (moments : List Moment) : List FrameId :=
  moments.flatMap fun moment => moment.commands.filterMap fun entry => entry.2.leaver?

variable {busy : BusyHub} {limits : Limits} {max number : Nat} {past : List Moment}

theorem told_concat (past : List Moment) (busy : BusyHub) (step : Step) :
    told (past ++ [⟨busy, step⟩]) = told past ++ (busy.step step).2 := by
  rw [told, List.flatMap_append, List.flatMap_singleton]
  rfl

theorem acts_concat (past : List Moment) (busy : BusyHub) (step : Step) :
    acts (past ++ [⟨busy, step⟩]) = acts past ++ busy.actsFor step := by
  rw [acts, List.flatMap_append, List.flatMap_singleton]
  rfl

theorem received_concat (number : Nat) (past : List Moment) (busy : BusyHub) (step : Step) :
    received number (past ++ [⟨busy, step⟩]) =
      received number past ++ (busy.actsFor step).flatMap (Act.bytesOn number) := by
  rw [received, acts_concat, List.flatMap_append]
  rfl

theorem heard_concat (number : Nat) (past : List Moment) (busy : BusyHub) (step : Step) :
    heard number (past ++ [⟨busy, step⟩]) =
      heard number past ++ (busy.actsFor step).filterMap (Act.heardOn number) := by
  rw [heard, acts_concat, List.filterMap_append]
  rfl

theorem released_concat (past : List Moment) (busy : BusyHub) (step : Step) :
    released (past ++ [⟨busy, step⟩]) = released past ++
      (⟨busy, step⟩ : Moment).commands.filterMap fun entry => entry.2.leaver? := by
  rw [released, List.flatMap_append, List.flatMap_singleton]
  rfl

/-! ## Reachable busy hubs -/

/-- A busy hub that has taken some steps since its start. -/
inductive Reached (limits : Limits) (max : Nat) : List Moment → BusyHub → Prop
  | start : Reached limits max [] (start limits max)
  | step {past : List Moment} {busy : BusyHub} (reached : Reached limits max past busy)
      (step : Step) : Reached limits max (past ++ [⟨busy, step⟩]) (busy.step step).1

namespace Reached

variable {future : List Moment} {moment : Moment}

theorem run (reached : Reached limits max past busy) (steps : List Step) :
    Reached limits max (past ++ busy.history steps) (busy.run steps).1 := by
  induction steps generalizing past busy with
  | nil =>
      rw [history, List.append_nil]
      exact reached
  | cons step rest ih =>
      rw [history, List.append_cons]
      exact ih (.step reached step)

/-- At every moment the hub has done what was before. -/
theorem of_append (reached : Reached limits max (past ++ moment :: future) busy) :
    Reached limits max past moment.before ∧ Reached limits max (past ++ [moment]) moment.after := by
  generalize whole : past ++ moment :: future = all at reached
  induction reached generalizing future with
  | start =>
      simp at whole
  | step reached step ih =>
      rcases List.eq_nil_or_concat future with rfl | ⟨between, last, rfl⟩
      · rcases List.append_inj' whole rfl with ⟨rfl, same⟩
        obtain rfl := (List.cons.inj same).1
        exact ⟨reached, .step reached step⟩
      · rw [List.concat_eq_append, ← List.cons_append, ← List.append_assoc] at whole
        exact ih (List.append_inj' whole rfl).1

end Reached

/-- A history leads from the start of a hub to the hub that has taken all steps. -/
theorem reached_history (limits : Limits) (max : Nat) (steps : List Step) :
    Reached limits max ((start limits max).history steps) ((start limits max).run steps).1 :=
  Reached.run .start steps

/-- A history tells all that is done on connections. -/
theorem told_history (busy : BusyHub) (steps : List Step) :
    told (busy.history steps) = (busy.run steps).2 := by
  induction steps generalizing busy with
  | nil =>
      rfl
  | cons step rest ih =>
      exact congrArg _ (ih (busy.step step).1)

/-! ## The shadow -/

/-- What holds of no acts, and of all that may be done with a connection that is there, holds of what
is done. -/
theorem of_actsOn
    (property : List Act → Prop) {acts : Connection → List Act} (none : property [])
    (holds : ∀ connection, busy.hub.connection? number = some connection →
      property (acts connection)) : property (busy.actsOn number acts) := by
  unfold actsOn
  cases known : busy.hub.connection? number with
  | none =>
      exact none
  | some connection =>
      exact holds connection known

/-- No act of a step writes packets. -/
theorem forward_notMem_actsFor (busy : BusyHub) (step : Step) : .forward ∉ busy.actsFor step := by
  let quiet (acts : List Act) : Prop := .forward ∉ acts
  have nothing : quiet [] := List.not_mem_nil
  cases step with
  | accept | pass =>
      simp [actsFor]
  | finish | lose | forward =>
      exact nothing
  | read =>
      refine of_actsOn quiet nothing fun connection known => ?_
      split <;> simp [quiet]
  | handle =>
      refine of_actsOn quiet nothing fun connection known => ?_
      unfold handlingActs
      split
      · exact nothing
      · simp [quiet]
      · split <;> simp [quiet]
  | leave =>
      refine of_actsOn quiet nothing fun connection known => ?_
      split <;> simp [quiet]
  | stop =>
      simp only [actsFor]
      split <;> simp

/-- What a step stands for is allowed. -/
theorem allows_actsFor (busy : BusyHub) (step : Step) :
    ∀ done ∈ busy.hub.run (busy.actsFor step), done.before.Allows done.act := by
  let allowed (acts : List Act) : Prop :=
    ∀ done ∈ busy.hub.run acts, done.before.Allows done.act
  have nothing : allowed [] := by
    simp [allowed, Hub.run]
  cases step with
  | accept | pass =>
      simp [actsFor, Hub.run, Hub.Allows]
  | finish | lose | forward =>
      exact nothing
  | read number bytes =>
      refine of_actsOn allowed nothing fun connection known => ?_
      split
      · exact nothing
      · simpa [allowed, Hub.run] using ⟨connection, known⟩
  | handle number now written =>
      refine of_actsOn allowed nothing fun connection known => ?_
      obtain rfl := Hub.number_of_connection? known
      unfold handlingActs
      split
      · exact nothing
      · simp [allowed, Hub.run, Hub.Allows]
      · intro done inside
        rcases List.mem_cons.mp inside with rfl | later
        · exact ⟨connection, known⟩
        · split at later
          · simp [Hub.run] at later
          · obtain rfl := List.mem_singleton.mp later
            trivial
  | leave number =>
      refine of_actsOn allowed nothing fun connection known => ?_
      split
      · simp [allowed, Hub.run, Hub.Allows]
      · exact nothing
  | stop =>
      simp only [actsFor]
      split
      · exact nothing
      · rename_i nobody
        simpa [Hub.run, Hub.Allows, List.any_eq_true] using nobody

/-- A hub at which no write fails goes along with a busy hub. -/
structure Shadowed
    (limits : Limits) (max : Nat) (past : List Moment) (busy : BusyHub)
    (shadows : List Hub.Moment) (hub : Hub) : Prop where
  reached : Hub.Reached limits max shadows hub
  alike : busy.hub.Alike hub
  acts : shadows.map (·.act) = BusyHub.acts past
  told : Hub.told shadows = Effect.plain (BusyHub.told past)
  released : Hub.released shadows = BusyHub.released past

namespace Shadowed

variable {shadows : List Hub.Moment} {hub : Hub}

theorem start (limits : Limits) (max : Nat) :
    Shadowed limits max [] (BusyHub.start limits max) [] (Hub.start limits max) where
  reached := .start
  alike := .refl _
  acts := rfl
  told := rfl
  released := rfl

theorem consistent (shadowed : Shadowed limits max past busy shadows hub) :
    busy.hub.Consistent max :=
  shadowed.alike.consistent shadowed.reached.consistent

/-- The shadow performs the acts of a step. -/
theorem step (shadowed : Shadowed limits max past busy shadows hub) (step : Step) :
    Shadowed limits max (past ++ [⟨busy, step⟩]) (busy.step step).1
      (shadows ++ hub.run (busy.actsFor step)) (hub.performAll (busy.actsFor step)).1 := by
  have quiet := busy.forward_notMem_actsFor step
  have alike := shadowed.alike
  rcases alike.performAll quiet with ⟨performed, same⟩
  rcases alike_step shadowed.consistent step with ⟨follows, effects⟩
  constructor
  · exact shadowed.reached.performAll (alike.allows_run quiet (busy.allows_actsFor step))
  · exact follows.symm.trans performed
  · rw [List.map_append, shadowed.acts, Hub.map_act_run, acts_concat]
  · rw [Hub.told_append, shadowed.told, Hub.told_run, same, ← effects, told_concat,
      Effect.plain_append]
  · rw [released_concat, ← shadowed.released, Hub.released, List.flatMap_append]
    congr 1
    have asked : (⟨busy, step⟩ : Moment).commands =
        (hub.run (busy.actsFor step)).flatMap fun done => done.before.commandsFor done.act :=
      (alike.commands_run quiet).symm
    rw [asked, List.filterMap_flatMap]
    rfl

theorem received_eq (shadowed : Shadowed limits max past busy shadows hub) (number : Nat) :
    Hub.received number shadows = BusyHub.received number past := by
  rw [BusyHub.received, ← shadowed.acts, List.flatMap_map]
  rfl

theorem heard_eq (shadowed : Shadowed limits max past busy shadows hub) (number : Nat) :
    Hub.heard number shadows = BusyHub.heard number past := by
  rw [BusyHub.heard, ← shadowed.acts, List.filterMap_map]
  rfl

theorem connection?_eq (shadowed : Shadowed limits max past busy shadows hub) (number : Nat) :
    hub.connection? number = busy.hub.connection? number :=
  shadowed.alike.connection? number

end Shadowed

/-- Every busy hub has a shadow. -/
theorem Reached.shadowed (reached : Reached limits max past busy) :
    ∃ shadows hub, Shadowed limits max past busy shadows hub := by
  induction reached with
  | start =>
      exact ⟨_, _, .start limits max⟩
  | step reached step ih =>
      rcases ih with ⟨shadows, hub, shadowed⟩
      exact ⟨_, _, shadowed.step step⟩

theorem Reached.consistent (reached : Reached limits max past busy) : busy.hub.Consistent max := by
  rcases reached.shadowed with ⟨shadows, hub, shadowed⟩
  exact shadowed.consistent

end SessionBus.BusyHub
