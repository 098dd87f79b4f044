import SessionBus.Proofs.Bus.Delivery
import SessionBus.Proofs.Transport.Sockets

/-!
# In memory and behind sockets

An application cannot tell whether its connectors share an exchange in memory or reach a hub through
sockets.  Both do what the bus at rest does, so that they do the same, except that a refusal of the
switchboard arrives as it is in memory and as a message of the hub behind sockets.
-/

namespace SessionBus

namespace Outcome

/--
The outcome behind sockets that goes with one in memory.  A frame that the switchboard does not
take in is rejected with the message of its error; a call that it refuses is answered with the
message and the code of its error.
-/
def behindSockets : Outcome TransportError → Outcome TransportError
  | .connected (.error (.switchboard error)) => .connected (.error (.rejected error.message))
  | .decided (.error (.switchboard error)) =>
      .decided (.error (.remote error.message (some error.code)))
  | .described (.error (.switchboard error)) =>
      .described (.error (.remote error.message (some error.code)))
  | outcome => outcome

def failed {ε : Type} : Outcome ε → Bool
  | .connected result => result.toOption.isNone
  | .decided result => result.toOption.isNone
  | .described result => result.toOption.isNone
  | .sent result => result.toOption.isNone
  | _ => false

theorem behindSockets_under (outcome : Outcome SwitchboardError) :
    (outcome.under Memory.faults).behindSockets = outcome.under Sockets.faults := by
  cases outcome with
  | connected result | decided result | described result =>
      cases result <;> rfl
  | sent | opened | yielded | done | unanswered | noConnector =>
      rfl

theorem eq_unanswered_of_under
    {outcome : Outcome SwitchboardError} {faults : Faults}
    (unanswered : outcome.under faults = .unanswered) : outcome = .unanswered := by
  cases outcome with
  | unanswered =>
      rfl
  | connected | decided | described | sent | opened | yielded | done | noConnector =>
      cases unanswered

theorem failed_behindSockets (outcome : Outcome TransportError) :
    outcome.behindSockets.failed = outcome.failed := by
  unfold behindSockets
  split <;> rfl

theorem failed_timeless {ε : Type} (outcome : Outcome ε) :
    outcome.timeless.failed = outcome.failed := by
  cases outcome with
  | described result =>
      cases result <;> rfl
  | connected | decided | sent | opened | yielded | done | unanswered | noConnector =>
      rfl

end Outcome

namespace Bus

/-- Every action on the bus comes to an end. -/
theorem perform_ne_unanswered (bus : Bus) (action : Action) :
    (bus.perform action).1 ≠ .unanswered := by
  have guarded (frame : FrameId) (act : Outcome SwitchboardError × Bus)
      (answered : act.1 ≠ .unanswered) : (bus.ifOpen frame act).1 ≠ .unanswered :=
    ifOpen_cases (motive := fun done => done.1 ≠ .unanswered) (fun _ => answered) (by simp)
  cases action with
  | connect displayName =>
      simp only [perform, connect]
      split <;> simp
  | create frame session =>
      apply guarded
      simp only [create]
      split <;> simp
  | join | describe | close =>
      apply guarded
      simp [join]
  | broadcast | unicast =>
      apply guarded
      split <;> simp
  | receiver frame topic =>
      apply guarded
      unfold receiver
      split <;> simp
  | receive frame ticket =>
      simp only [perform, receive]
      split <;> simp
  | drain frame ticket =>
      simp only [perform, drain]
      split <;> simp
  | dropReceiver frame ticket =>
      simp [perform]

theorem log_ne_unanswered (bus : Bus) (actions : List Action) :
    ∀ done ∈ bus.log actions, done.2 ≠ .unanswered := by
  induction actions generalizing bus with
  | nil =>
      simp [log]
  | cons action rest ih =>
      rw [log, List.forall_mem_cons]
      exact ⟨bus.perform_ne_unanswered action, ih _⟩

end Bus

namespace Network

/-- The bus of connectors that reach a hub through sockets. -/
def onHub (limits : Limits) (maxMessageSize : Nat) (path : String)
    (displayName : Option String) : Network :=
  start (.linked ⟨.start limits maxMessageSize, path, displayName, []⟩)

theorem shows_onHub
    (limits : Limits) {maxMessageSize : Nat} (roomy : Line.maxSize ≤ maxMessageSize)
    (path : String) (displayName : Option String) :
    Shows Sockets.Related (onHub limits maxMessageSize path displayName) (Bus.start limits) :=
  ⟨rfl, Sockets.related_start limits roomy path displayName⟩

/-- The demands of a run fit up to any action of it. -/
theorem FitsAll.of_append
    {fits : Transport → Instant → Demand → Prop} {network : Network}
    {before after : List (Instant × Action)} (fit : FitsAll fits network (before ++ after)) :
    FitsAll fits network before := by
  induction before generalizing network with
  | nil =>
      trivial
  | cons timed rest ih =>
      exact ⟨fit.1, ih fit.2⟩

/-- A network that shows a bus leaves no action unanswered, as the bus does not. -/
theorem log_ne_unanswered
    {network : Network} {script : List (Instant × Action)} {bus : Bus} {actions : List Action}
    {faults : Faults}
    (logs : (network.log script).map (fun done => (done.1, done.2.timeless)) =
      (bus.log actions).map (fun done => (done.1, done.2.under faults))) :
    ∀ done ∈ network.log script, done.2 ≠ .unanswered := by
  intro done inside unanswered
  have shown : (done.1, done.2.timeless) ∈
      (bus.log actions).map (fun done => (done.1, done.2.under faults)) := by
    rw [← logs]
    exact List.mem_map_of_mem inside
  rcases List.mem_map.mp shown with ⟨original, present, equal⟩
  have outcome : original.2.under faults = done.2.timeless := congrArg Prod.snd equal
  rw [unanswered] at outcome
  exact bus.log_ne_unanswered actions original present (Outcome.eq_unanswered_of_under outcome)

/-- Two runs of the same actions have outcomes that go together and leave equal connectors. -/
theorem runs_alike
    (limits : Limits) {maxMessageSize : Nat} (roomy : Line.maxSize ≤ maxMessageSize)
    (path : String) (displayName : Option String) {direct linked : List (Instant × Action)}
    (same : direct.map (·.2) = linked.map (·.2))
    (few : ((inMemory limits).afterActions direct).connectors.length < UInt64.size)
    (fit : FitsAll Sockets.Fits (onHub limits maxMessageSize path displayName) linked) :
    let memory := inMemory limits
    let hub := onHub limits maxMessageSize path displayName
    (hub.log linked).map (fun done => (done.1, done.2.timeless)) =
        (memory.log direct).map (fun done => (done.1, done.2.timeless.behindSockets)) ∧
      (∀ done ∈ hub.log linked, done.2 ≠ .unanswered) ∧
      (hub.afterActions linked).connectors = (memory.afterActions direct).connectors := by
  intro memory hub
  have sound := Bus.sound_start limits
  have shownDirect := shows_inMemory limits
  have fitDirect := fitsAll_inMemory memory direct
  have fewBus := few_of_shows Memory.serves shownDirect sound direct few fitDirect
  obtain ⟨directLog, directAfter, _⟩ :=
    run_agrees Memory.serves shownDirect sound direct fewBus fitDirect
  -- The bus at rest takes the same actions in both runs, so it is what they have in common.
  rw [same] at fewBus directLog directAfter
  obtain ⟨linkedLog, linkedAfter, _⟩ :=
    run_agrees Sockets.serves (shows_onHub limits roomy path displayName) sound linked fewBus fit
  refine ⟨?_, log_ne_unanswered linkedLog, ?_⟩
  · have translated := congrArg (List.map fun done => (done.1, done.2.behindSockets)) directLog
    simp only [List.map_map, Function.comp_def, Outcome.behindSockets_under] at translated
    exact linkedLog.trans translated.symm
  · rw [linkedAfter.connectors, directAfter.connectors]

/--
Whether connectors share an exchange in memory or reach an unused hub of the same limits through
sockets, a run of the same actions, at whatever moments, comes to the same.  Times set aside, the
outcomes behind sockets are those that go with the outcomes in memory, so that the same operations
fail; each of them is answered; and after every step the connectors are equal, with their frames,
their sessions and all that their receivers hold.  All lines must be short enough, and the data of
packets portable.

Identities have 64 bits, so there is no telling the frames of more connectors apart.
-/
theorem sockets_equal_memory
    (limits : Limits) {maxMessageSize : Nat} (roomy : Line.maxSize ≤ maxMessageSize)
    (path : String) (displayName : Option String) (direct linked : List (Instant × Action))
    (same : direct.map (·.2) = linked.map (·.2))
    (few : ((inMemory limits).afterActions direct).connectors.length < UInt64.size)
    (fit : FitsAll Sockets.Fits (onHub limits maxMessageSize path displayName) linked) :
    let memory := inMemory limits
    let hub := onHub limits maxMessageSize path displayName
    (hub.log linked).map (fun done => (done.1, done.2.timeless)) =
        (memory.log direct).map (fun done => (done.1, done.2.timeless.behindSockets)) ∧
      (hub.log linked).map (·.2.failed) = (memory.log direct).map (·.2.failed) ∧
      (∀ done ∈ hub.log linked, done.2 ≠ .unanswered) ∧
      ∀ steps, (hub.afterActions (linked.take steps)).connectors =
        (memory.afterActions (direct.take steps)).connectors := by
  intro memory hub
  rcases runs_alike limits roomy path displayName same few fit with ⟨logs, answered, _⟩
  refine ⟨logs, ?_, answered, ?_⟩
  · have failures := congrArg (List.map fun done => done.2.failed) logs
    simpa only [List.map_map, Function.comp_def, Outcome.failed_behindSockets,
      Outcome.failed_timeless] using failures
  · intro steps
    have sameSoFar : (direct.take steps).map (·.2) = (linked.take steps).map (·.2) := by
      rw [List.map_take, same, List.map_take]
    have fewSoFar :
        (memory.afterActions (direct.take steps)).connectors.length < UInt64.size := by
      apply Nat.lt_of_le_of_lt _ few
      rw [← List.take_append_drop steps direct, afterActions_append]
      simpa using length_connectors_le_afterActions _ (direct.drop steps)
    have fitSoFar : FitsAll Sockets.Fits hub (linked.take steps) := by
      rw [← List.take_append_drop steps linked] at fit
      exact fit.of_append
    exact (runs_alike limits roomy path displayName sameSoFar fewSoFar fitSoFar).2.2

/-- Where there is no room for a session, who claims one behind sockets is told so by the hub. -/
theorem claim_refused_by_hub :
    ((onHub ⟨1, 0⟩ Line.maxSize "hub.sock" none).log
      [(.epoch, .connect none), (.epoch, .create ⟨1⟩ ⟨"a"⟩)]).map (·.2.timeless) =
      [.connected (.ok ⟨1⟩),
        .decided (.error (.remote "too many sessions (max: 0)" (some "too_many_sessions")))] := by
  have outcomes := (sockets_equal_memory ⟨1, 0⟩ (Nat.le_refl Line.maxSize) "hub.sock" none
    [(.epoch, .connect none), (.epoch, .create ⟨1⟩ ⟨"a"⟩)]
    [(.epoch, .connect none), (.epoch, .create ⟨1⟩ ⟨"a"⟩)]
    rfl (by decide) (by decide +kernel)).1
  have told := congrArg (List.map Prod.snd) outcomes
  simp only [List.map_map, Function.comp_def] at told
  exact told

end Network

end SessionBus
