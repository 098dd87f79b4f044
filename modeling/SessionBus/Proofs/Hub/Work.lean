import SessionBus.Proofs.Hub.BusyRun
import SessionBus.Proofs.Hub.Dialogue

/-!
# What a step does on a connection

A step is about one connection at most, and leaves the tasks of all others alone.  On its own
connection it finds something, handles what was found first, writes a packet, or leaves it, unless
there is nothing of the kind to do.
-/

namespace SessionBus

open Hub (Act)

/-- The connection that something is done on. -/
def Effect.number : Effect → Nat
  | .write number _ | .cut number _ | .close number => number

/-- A farewell has no answer. -/
theorem Connection.isFarewell_of_said
    {exchange : Exchange} {max : Nat} {now : Instant} {frame : FrameId} {incoming : Incoming}
    (said : (handle exchange max now (.serving frame) incoming).messages ≠ []) :
    isFarewell max incoming = false := by
  rcases replies_handle exchange now max frame incoming with ⟨_, nothing⟩ | ⟨wanted, _⟩
  · exact absurd nothing said
  · rw [wantsReply, Bool.and_eq_true] at wanted
    simpa using wanted.2

namespace BusyHub

/-- The connection that a step is about. -/
def Step.number? : Step → Option Nat
  | .read number _ | .finish number | .lose number | .handle number _ _ | .forward number _
  | .leave number => some number
  | .accept | .pass _ | .stop => none

/-- The tasks of all connections, with others for one of them. -/
def tasksWith (busy : BusyHub) (number : Nat) (tasks : Backlog) : Nat → Backlog :=
  fun other => if other = number then tasks else busy.tasks other

/-- What a step does on its connection. -/
inductive Work (busy : BusyHub) (step : Step) (number : Nat) : Prop
  | idle
      (nothing : busy.step step = (busy, []))
      (acts : busy.actsFor step = [])
  | reads (connection : Connection) (bytes : List UInt8)
      (known : busy.hub.connection? number = some connection)
      (goesOn : busy.hasEnded number = false)
      (acts : busy.actsFor step = [.read number bytes])
      (tasks : (busy.step step).1.tasks = busy.tasksWith number
        { busy.tasks number with
          waiting := (busy.tasks number).waiting ++ (connection.reader.feed bytes).1.map some })
      (silent : (busy.step step).2 = [])
  | ends (connection : Connection) (last : Option Incoming)
      (known : busy.hub.connection? number = some connection)
      (goesOn : busy.hasEnded number = false)
      (left : last = connection.reader.finish ∨ last = none)
      (acts : busy.actsFor step = [])
      (tasks : (busy.step step).1.tasks = busy.tasksWith number
        { busy.tasks number with
          waiting := (busy.tasks number).waiting ++ last.toList.map some ++ [none] })
      (hub : (busy.step step).1.hub = busy.hub)
      (silent : (busy.step step).2 = [])
  | leaves (connection : Connection)
      (known : busy.hub.connection? number = some connection)
      (reason : step = .leave number ∨ (busy.tasks number).waiting.head? = some none)
      (acts : busy.actsFor step = [.leave number])
      (tasks : (busy.step step).1.tasks = busy.tasks)
      (effects : (busy.step step).2 = [.close number])
  | answers (connection : Connection) (now : Instant) (incoming : Incoming)
      (rest : List (Option Incoming))
      (known : busy.hub.connection? number = some connection)
      (waits : (busy.tasks number).waiting = some incoming :: rest)
      (acts : busy.actsFor step = [.hear number now incoming])
      (tasks : (busy.step step).1.tasks = busy.tasksWith number
        { busy.tasks number with waiting := rest })
      (effects : (busy.step step).2 =
        (busy.hub.perform (.hear number now incoming)).2.map Output.effect)
  | breaks (connection : Connection) (now : Instant) (incoming : Incoming)
      (rest : List (Option Incoming))
      (known : busy.hub.connection? number = some connection)
      (waits : (busy.tasks number).waiting = some incoming :: rest)
      (said : (busy.answer connection now incoming).messages ≠ [])
      (acts : busy.actsFor step = .hear number now incoming ::
        if (Hub.servedFrame? connection).isSome then [] else [.leave number])
      (tasks : (busy.step step).1.tasks = busy.tasksWith number
        { busy.tasks number with waiting := [none] })
      (effects : (busy.step step).2 =
        (busy.answer connection now incoming).messages.map (.cut number) ++
          if (Hub.servedFrame? connection).isSome then [] else [.close number])
  | forwards (connection : Connection) (frame : FrameId) (packet : Packet) (written : Bool)
      (known : busy.hub.connection? number = some connection)
      (serving : connection.stage = .serving frame)
      (going : (busy.tasks number).forwards = true)
      (acts : busy.actsFor step = [])
      (tasks : (busy.step step).1.tasks = busy.tasksWith number
        { busy.tasks number with forwards := written })
      (effects : (busy.step step).2 =
        [if written then .write number (.deliver packet) else .cut number (.deliver packet)])

variable {busy : BusyHub} {step : Step} {number max : Nat} {connection : Connection}

theorem tasks_await
    (busy : BusyHub) (hub : Hub) (number : Nat) (waiting : List (Option Incoming)) :
    (busy.await hub number waiting).tasks =
      busy.tasksWith number { busy.tasks number with waiting } := by
  funext other
  by_cases here : other = number
  · subst here
    simp only [await, tasksWith, if_true]
  · simp only [await, tasksWith, here, if_false]

theorem tasks_mute (busy : BusyHub) (hub : Hub) (number : Nat) :
    (busy.mute hub number).tasks =
      busy.tasksWith number { busy.tasks number with forwards := false } := by
  funext other
  by_cases here : other = number
  · subst here
    simp only [mute, tasksWith, if_true]
  · simp only [mute, tasksWith, here, if_false]

/-- Whoever goes on as before has the tasks that he had. -/
theorem tasksWith_self (busy : BusyHub) (number : Nat) :
    busy.tasksWith number (busy.tasks number) = busy.tasks := by
  funext other
  unfold tasksWith
  split
  · rename_i here
    rw [here]
  · rfl

theorem on_of_known
    (known : busy.hub.connection? number = some connection)
    (act : Connection → BusyHub × List Effect) : busy.on number act = act connection := by
  simp only [on, known]

theorem actsOn_of_known
    (known : busy.hub.connection? number = some connection) (acts : Connection → List Act) :
    busy.actsOn number acts = acts connection := by
  simp only [actsOn, known]

/-- Nothing is done on a connection that is not there. -/
theorem idle_of_absent
    (own : step.number? = some number) (absent : busy.hub.connection? number = none) :
    busy.step step = (busy, []) ∧ busy.actsFor step = [] := by
  cases step with
  | accept | pass | stop =>
      cases own
  | read | finish | lose | handle | forward | leave =>
      cases own
      simp [BusyHub.step, actsFor, on, actsOn, absent]

section Own

variable (known : busy.hub.connection? number = some connection)

include known

theorem work_read (bytes : List UInt8) : Work busy (.read number bytes) number := by
  obtain rfl := Hub.number_of_connection? known
  have steps : busy.step (.read connection.number bytes) =
      (if busy.hasEnded connection.number then busy else busy.read connection bytes, []) :=
    on_of_known known _
  have acts : busy.actsFor (.read connection.number bytes) =
      if busy.hasEnded connection.number then [] else [.read connection.number bytes] :=
    actsOn_of_known known _
  cases ended : busy.hasEnded connection.number with
  | true =>
      simp only [ended, if_true] at steps acts
      exact .idle steps acts
  | false =>
      simp only [ended, Bool.false_eq_true, if_false] at steps acts
      refine .reads connection bytes known ended acts ?_ ?_ <;> rw [steps]
      exact tasks_await busy _ _ _

/-- Nothing more is read, whatever was found last. -/
theorem work_finish
    {last : Option Incoming} (left : last = connection.reader.finish ∨ last = none)
    (steps : busy.step step =
      (if busy.hasEnded number then busy else busy.finish connection last, []))
    (acts : busy.actsFor step = []) : Work busy step number := by
  obtain rfl := Hub.number_of_connection? known
  cases ended : busy.hasEnded connection.number with
  | true =>
      simp only [ended, if_true] at steps
      exact .idle steps acts
  | false =>
      simp only [ended, Bool.false_eq_true, if_false] at steps
      refine .ends connection last known ended left acts ?_ ?_ ?_ <;> rw [steps]
      · exact tasks_await busy _ _ _
      · rfl

/-- A connection that is left is closed without a word. -/
theorem effects_leave : (busy.leave connection).2 = [.close number] := by
  rw [leave_eq known]
  simp [Hub.perform, known, Hub.carryOut_eq, Hub.stage_farewell, Hub.messages_farewell,
    Hub.number_of_connection? known, Output.effect]

theorem work_leave
    (reason : step = .leave number ∨ (busy.tasks number).waiting.head? = some none)
    (steps : busy.step step = busy.leave connection)
    (acts : busy.actsFor step = [.leave number]) : Work busy step number := by
  have left := effects_leave known
  rw [← steps] at left
  rw [leave_eq known] at steps
  exact .leaves connection known reason acts (congrArg (·.1.tasks) steps) left

theorem work_forward (written : Bool) : Work busy (.forward number written) number := by
  obtain rfl := Hub.number_of_connection? known
  have steps : busy.step (.forward connection.number written) =
      if (busy.tasks connection.number).forwards then busy.forward connection written
      else (busy, []) :=
    on_of_known known _
  cases going : (busy.tasks connection.number).forwards with
  | false =>
      simp only [going, Bool.false_eq_true, if_false] at steps
      exact .idle steps rfl
  | true =>
      simp only [going, if_true, forward, Hub.servedFrame?] at steps
      cases stage : connection.stage with
      | ended | greeting =>
          simp only [stage] at steps
          exact .idle steps rfl
      | serving frame =>
          simp only [stage] at steps
          cases taken : busy.hub.exchange.takeNext? frame with
          | none =>
              simp only [taken] at steps
              exact .idle steps rfl
          | some entry =>
              rcases entry with ⟨packet, exchange⟩
              simp only [taken] at steps
              refine .forwards connection frame packet written known stage going rfl ?_ ?_ <;>
                rw [steps]
              · cases written with
                | false =>
                    exact tasks_mute busy _ _
                | true =>
                    have same : ({ busy.tasks connection.number with forwards := true } : Backlog) =
                        busy.tasks connection.number := by
                      rw [← going]
                    rw [same]
                    exact (tasksWith_self busy _).symm
              · cases written <;> rfl

/-- What is done when an answer is cut off: a handshake ends with it. -/
theorem effects_breakOff
    (consistent : busy.hub.Consistent max) (now : Instant) (incoming : Incoming)
    (said : (busy.answer connection now incoming).messages ≠ []) :
    (busy.breakOff connection (busy.answer connection now incoming)).2 =
      (busy.answer connection now incoming).messages.map (.cut number) ++
        if (Hub.servedFrame? connection).isSome then [] else [.close number] := by
  obtain rfl := Hub.number_of_connection? known
  cases stage : connection.stage with
  | ended =>
      exact absurd stage (consistent.alive _ (Hub.mem_of_connection? known))
  | greeting deadline =>
      have stages : (busy.answer connection now incoming).stage = .ended ∨
          ∃ frame, (busy.answer connection now incoming).stage = .serving frame :=
        Connection.stage_handle busy.hub.exchange now busy.hub.maxMessageSize connection.stage
          incoming
      rw [breakOff_greeting busy stage, (Hub.settle_endOfStream known stages).1]
      simp only [Hub.servedFrame?, stage]
      rfl
  | serving frame =>
      have running := consistent.running_of_serving known stage
      have answered : busy.answer connection now incoming =
          Connection.handle busy.hub.exchange busy.hub.maxMessageSize now (.serving frame)
            incoming := by
        simp only [answer, stage]
      have stays : (busy.answer connection now incoming).stage = .serving frame := by
        rw [answered] at said ⊢
        rw [Connection.stage_handle_serving, Connection.isFarewell_of_said said]
        rfl
      let silent : Answer := { busy.answer connection now incoming with messages := [] }
      have stillThere : (busy.hub.settled silent).stage ≠ .ended := by
        rw [Hub.settled_of_running silent running]
        simp [silent, stays]
      have quiet : (busy.hub.carryOut connection silent).2 = [] := by
        rw [Hub.carryOut_eq, if_neg stillThere]
        rfl
      rw [breakOff_serving busy stage]
      simp only [Hub.servedFrame?, stage]
      rw [quiet]
      rfl

theorem work_handle
    (consistent : busy.hub.Consistent max) (now : Instant) (written : Bool) :
    Work busy (.handle number now written) number := by
  obtain rfl := Hub.number_of_connection? known
  have steps : busy.step (.handle connection.number now written) =
      busy.handle connection now written := on_of_known known _
  have acts : busy.actsFor (.handle connection.number now written) =
      busy.handlingActs connection now written := actsOn_of_known known _
  cases waits : (busy.tasks connection.number).waiting with
  | nil =>
      simp only [handle, waits] at steps
      simp only [handlingActs, waits] at acts
      exact .idle steps acts
  | cons first rest =>
      cases first with
      | none =>
          simp only [handle, waits] at steps
          simp only [handlingActs, waits] at acts
          exact work_leave known (.inr (by rw [waits]; rfl)) steps acts
      | some incoming =>
          simp only [handle, waits] at steps
          simp only [handlingActs, waits] at acts
          cases said : written || (busy.answer connection now incoming).messages.isEmpty with
          | true =>
              simp only [said, if_true, Bool.true_or] at steps acts
              rw [reply_eq, ← perform_hear known] at steps
              refine .answers connection now incoming rest known waits acts ?_ ?_ <;> rw [steps]
              exact tasks_await busy _ _ _
          | false =>
              simp only [said, Bool.false_eq_true, if_false, Bool.false_or] at steps acts
              have nonempty : (busy.answer connection now incoming).messages ≠ [] := by
                rw [Bool.or_eq_false_iff] at said
                simpa using said.2
              refine .breaks connection now incoming rest known waits nonempty acts ?_ ?_ <;>
                rw [steps]
              · exact tasks_await busy _ _ _
              · exact effects_breakOff known consistent now incoming nonempty

end Own

/-- What a step does on its own connection. -/
theorem work (consistent : busy.hub.Consistent max) (own : step.number? = some number) :
    Work busy step number := by
  cases known : busy.hub.connection? number with
  | none =>
      exact .idle (idle_of_absent own known).1 (idle_of_absent own known).2
  | some connection =>
      cases step with
      | accept | pass | stop =>
          cases own
      | read _ bytes =>
          cases own
          exact work_read known bytes
      | finish =>
          cases own
          exact work_finish known (.inl rfl) (on_of_known known _) rfl
      | lose =>
          cases own
          exact work_finish known (.inr rfl) (on_of_known known _) rfl
      | handle _ now written =>
          cases own
          exact work_handle known consistent now written
      | forward _ written =>
          cases own
          exact work_forward known written
      | leave =>
          cases own
          have steps : busy.step (.leave number) =
              if busy.mayLeave connection then busy.leave connection else (busy, []) :=
            on_of_known known _
          have acts : busy.actsFor (.leave number) =
              if busy.mayLeave connection then [.leave number] else [] :=
            actsOn_of_known known _
          cases may : busy.mayLeave connection with
          | false =>
              simp only [may, Bool.false_eq_true, if_false] at steps acts
              exact .idle steps acts
          | true =>
              simp only [may, if_true] at steps acts
              exact work_leave known (.inl rfl) steps acts

/-- A step on another connection. -/
structure Spares (busy : BusyHub) (step : Step) (number : Nat) : Prop where
  tasks : (busy.step step).1.tasks number = busy.tasks number
  acts : ∀ act ∈ busy.actsFor step, act.number? ≠ some number
  effects : ∀ effect ∈ (busy.step step).2, effect.number ≠ number

theorem number_effect (output : Output) : output.effect.number = output.number := by
  cases output <;> rfl

/-- A step on one connection spares the others. -/
theorem Work.spares {other : Nat} (work : Work busy step other) (different : number ≠ other) :
    Spares busy step number := by
  have elsewhere (tasks : Backlog) : busy.tasksWith other tasks number = busy.tasks number :=
    if_neg different
  have apart : other ≠ number := Ne.symm different
  cases work with
  | idle nothing acts =>
      constructor
      · rw [nothing]
      · simp [acts]
      · simp [nothing]
  | reads connection bytes known goesOn acts tasks silent =>
      constructor
      · rw [tasks, elsewhere]
      · simp [acts, Act.number?, apart]
      · simp [silent]
  | ends connection last known goesOn left acts tasks hub silent =>
      constructor
      · rw [tasks, elsewhere]
      · simp [acts]
      · simp [silent]
  | leaves connection known reason acts tasks effects =>
      constructor
      · rw [tasks]
      · simp [acts, Act.number?, apart]
      · rw [effects, List.forall_mem_singleton]
        exact apart
  | answers connection now incoming rest known waits acts tasks effects =>
      constructor
      · rw [tasks, elsewhere]
      · simp [acts, Act.number?, apart]
      · rw [effects, List.forall_mem_map]
        intro output inside
        simp only [Hub.perform, known] at inside
        rw [number_effect, Hub.number_of_mem_carryOut known inside]
        exact apart
  | breaks connection now incoming rest known waits said acts tasks effects =>
      constructor
      · rw [tasks, elsewhere]
      · rw [acts, List.forall_mem_cons]
        refine ⟨by simp [Act.number?, apart], ?_⟩
        split <;> simp [Act.number?, apart]
      · rw [effects, List.forall_mem_append, List.forall_mem_map]
        refine ⟨fun _ _ => apart, ?_⟩
        split <;> simp [Effect.number, apart]
  | forwards connection frame packet written known serving going acts tasks effects =>
      constructor
      · rw [tasks, elsewhere]
      · simp [acts]
      · rw [effects, List.forall_mem_singleton]
        cases written <;> exact apart

theorem spares (consistent : busy.hub.Consistent max) (other : step.number? ≠ some number) :
    Spares busy step number := by
  cases own : step.number? with
  | some elsewhere =>
      exact (work consistent own).spares fun same => other (own.trans (congrArg some same.symm))
  | none =>
      cases step with
      | read | finish | lose | handle | forward | leave =>
          cases own
      | accept | pass =>
          exact ⟨rfl, by simp [actsFor, Act.number?], by simp [BusyHub.step]⟩
      | stop =>
          constructor
          · simp only [BusyHub.step]
            split <;> rfl
          · simp only [actsFor]
            split <;> simp [Act.number?]
          · simp [BusyHub.step]

end BusyHub

end SessionBus
