import SessionBus.Proofs.Hub.Attempts

/-!
# Lines that are heard

A line is heard by being answered, whether the answer can be written or not.  What is heard on a
connection that has been told the identity of its frame is said by that frame; nothing is heard any
more on one that has been closed.
-/

namespace SessionBus

/-- Only a handshake tells an identity, and it is that of the frame that has been taken in. -/
theorem Connection.welcome_cases
    {exchange : Exchange} {max : Nat} {now : Instant} {stage : Stage} {incoming : Incoming}
    {frame : FrameId} (said : .accept frame ∈ (handle exchange max now stage incoming).messages) :
    (∃ deadline, stage = .greeting deadline) ∧ exchange.register.1 = .ok frame ∧
      handle exchange max now stage incoming = goOn exchange.register.2 frame [.accept frame] := by
  cases stage with
  | ended =>
      cases said
  | serving own =>
      cases (Hub.plain_handle_serving _ _ _ _ _ _ said).1
  | greeting deadline =>
      refine ⟨⟨deadline, rfl⟩, ?_⟩
      rcases handle_greeting_cases exchange now max deadline incoming with
        ⟨hungUp, _⟩ | ⟨_, _, _, _, ⟨reply, _, refused, kind⟩ | ⟨_, ⟨_, _, refused⟩ |
          ⟨own, room, accepted⟩⟩⟩
      · rw [hungUp] at said
        cases said
      · rw [refused] at said
        rcases kind with ⟨_, rfl⟩ | ⟨_, rfl⟩ <;> cases List.mem_singleton.mp said
      · rw [refused] at said
        cases List.mem_singleton.mp said
      · rw [accepted] at said
        cases List.mem_singleton.mp said
        exact ⟨room, accepted⟩

namespace BusyHub

open Hub (Act)

variable {busy : BusyHub} {limits : Limits} {max number : Nat} {past : List Moment} {step : Step}
  {connection : Connection} {now : Instant} {incoming : Incoming}

/-- The connection has been told the identity of its frame. -/
def Welcomed (number : Nat) (effects : List Effect) : Prop :=
  ∃ frame, .write number (.accept frame) ∈ effects

/-- What a frame says first. -/
def greetingText : String :=
  (FrameMessage.ofRequest (.connect none)).toJson.compact

theorem heardOn_of_silent
    (silent : ∀ act ∈ busy.actsFor step, act.heardOn number = none) :
    (⟨busy, step⟩ : Moment).heardOn number = none :=
  List.findSome?_eq_none_iff.mpr silent

theorem heardOn_of_hears
    {acts : List Act} (hears : busy.actsFor step = .hear number now incoming :: acts) :
    (⟨busy, step⟩ : Moment).heardOn number = some incoming := by
  simp [Moment.heardOn, Moment.acts, hears, Act.heardOn]

theorem Reached.absent
    (reached : Reached limits max past busy) (closed : .close number ∈ told past) :
    busy.hub.connection? number = none := by
  rcases reached.shadowed with ⟨shadows, hub, shadowed⟩
  rw [← shadowed.connection?_eq]
  apply shadowed.reached.absent
  rwa [shadowed.told, Effect.close_mem_plain]

/-- Nothing more can be done on a connection that has been closed. -/
theorem Reached.step_of_closed
    (reached : Reached limits max past busy) (closed : .close number ∈ told past)
    (own : step.number? = some number) : busy.step step = (busy, []) :=
  (idle_of_absent own (reached.absent closed)).1

/-- A connection that has been told the identity of its frame serves it, as long as it is there. -/
theorem Reached.serving_of_welcomed
    (reached : Reached limits max past busy)
    (known : busy.hub.connection? number = some connection)
    (welcomed : Welcomed number (told past)) : ∃ frame, connection.stage = .serving frame := by
  rcases welcomed with ⟨own, written⟩
  rcases reached.shadowed with ⟨shadows, hub, shadowed⟩
  have stands := Hub.stage?_of_connection? ((shadowed.connection?_eq number).trans known)
  cases stage : connection.stage with
  | ended =>
      exact absurd stage (reached.consistent.alive _ (Hub.mem_of_connection? known))
  | serving frame =>
      exact ⟨frame, rfl⟩
  | greeting deadline =>
      rw [stage] at stands
      have quiet := shadowed.reached.greeting stands
      have told : Output.write number (.accept own) ∈ Hub.told shadows := by
        rw [shadowed.told]
        exact List.mem_filterMap.mpr ⟨_, written, rfl⟩
      exact absurd rfl (quiet _ told)

/-- What is written and closed with a line that is heard, and what it is told from. -/
inductive Hearing (busy : BusyHub) (step : Step) (number : Nat) (incoming : Incoming) : Prop
  | answers (connection : Connection) (now : Instant)
      (known : busy.hub.connection? number = some connection)
      (acts : busy.actsFor step = [.hear number now incoming])
      (effects : (busy.step step).2 =
        (busy.hub.perform (.hear number now incoming)).2.map Output.effect)
  | breaks (connection : Connection) (now : Instant)
      (known : busy.hub.connection? number = some connection)
      (said : (busy.answer connection now incoming).messages ≠ [])
      (acts : busy.actsFor step = .hear number now incoming ::
        if (Hub.servedFrame? connection).isSome then [] else [.leave number])
      (effects : (busy.step step).2 =
        (busy.answer connection now incoming).messages.map (.cut number) ++
          if (Hub.servedFrame? connection).isSome then [] else [.close number])

/-- A line is heard by being answered, whether that can be written or not. -/
theorem hearing_of_heardOn
    (consistent : busy.hub.Consistent max)
    (hears : (⟨busy, step⟩ : Moment).heardOn number = some incoming) :
    Hearing busy step number incoming := by
  have heard {acts : List Act} {now : Instant} {other : Incoming}
      (own : busy.actsFor step = .hear number now other :: acts) : other = incoming :=
    Option.some.inj ((heardOn_of_hears own).symm.trans hears)
  have never (silent : ∀ act ∈ busy.actsFor step, act.heardOn number = none) : False := by
    rw [heardOn_of_silent silent] at hears
    cases hears
  by_cases own : step.number? = some number
  · cases work consistent own with
    | idle nothing acts | ends connection last known goesOn left acts
    | forwards connection frame packet written known serving going acts =>
        exact (never (by simp [acts])).elim
    | reads connection bytes known goesOn acts | leaves connection known reason acts =>
        exact (never (by simp [acts, Act.heardOn])).elim
    | answers connection now other rest known waits acts tasks effects =>
        obtain rfl := heard acts
        exact .answers connection now known acts effects
    | breaks connection now other rest known waits said acts tasks effects =>
        obtain rfl := heard acts
        exact .breaks connection now known said acts effects
  · have spared := spares consistent own
    exact (never fun act inside => (Act.silent_of_number (spared.acts act inside)).2).elim

end BusyHub

end SessionBus
