import SessionBus.Proofs.Relay.Course

/-!
# What a move does to a hub

Tasks make many different moves, and a hub sees few of them.  Told by what becomes of the hub, a
move is something that only a frame sees, a task that goes on with its answer, a task that hears
something, the switchboard that takes a command, or a packet that goes out of an inbox.
-/

namespace SessionBus

namespace Relay

/-! ## One connection changes -/

theorem strands_set (relay : Relay) (number : Nat) (strand : Strand) (other : Nat) :
    (relay.set number strand).strands other =
      if other = number then strand else relay.strands other :=
  rfl

theorem set_self (relay : Relay) (number : Nat) :
    relay.set number (relay.strands number) = relay := by
  have same : (fun other => if other = number then relay.strands number else relay.strands other) =
      relay.strands := by
    funext other
    split
    · rename_i here
      rw [here]
    · rfl
  simp only [Relay.set, same]

variable {relay : Relay}

/-- What holds of one connection after it has changed and of the others before holds of all. -/
theorem forall_set
    {number : Nat} {strand : Strand} (holds : Nat → Strand → Prop)
    (own : holds number strand) (others : ∀ other, holds other (relay.strands other))
    (other : Nat) :
    holds other ((relay.set number strand).strands other) := by
  rw [strands_set]
  split
  · rename_i here
    exact here ▸ own
  · exact others other

/-- What holds of a connection goes on to hold when some connection is set, if it holds of what is
set in its own place. -/
theorem holds_set
    {number own : Nat} {strand : Strand} (holds : Strand → Prop)
    (before : holds (relay.strands own)) (here : number = own → holds strand) :
    holds ((relay.set number strand).strands own) := by
  rw [strands_set]
  split
  · rename_i same
    exact here same.symm
  · exact before

theorem holds_modify
    {number own : Nat} (change : Strand → Strand) (holds : Strand → Prop)
    (before : holds (relay.strands own))
    (here : number = own → holds (change (relay.strands own))) :
    holds ((relay.modify number change).strands own) :=
  holds_set holds before (by
    rintro rfl
    exact here rfl)

/-- A connection that changes and keeps its identity leaves all identities as they are. -/
theorem identity_set
    {number : Nat} {strand : Strand} (same : strand.identity = (relay.strands number).identity)
    (other : Nat) :
    ((relay.set number strand).strands other).identity = (relay.strands other).identity :=
  forall_set (fun other changed => changed.identity = (relay.strands other).identity) same
    (fun _ => rfl) other

@[simp]
theorem strands_commit (relay : Relay) (commission : Commission) :
    (relay.commit commission).strands = relay.strands := by
  unfold Relay.commit
  split <;> rfl

@[simp]
theorem max_commit (relay : Relay) (commission : Commission) :
    (relay.commit commission).max = relay.max := by
  unfold Relay.commit
  split <;> rfl

@[simp]
theorem steps_commit (relay : Relay) (commission : Commission) :
    (relay.commit commission).steps = relay.steps := by
  unfold Relay.commit
  split <;> rfl

@[simp]
theorem exchange_commit (relay : Relay) (commission : Commission) :
    (relay.commit commission).exchange = relay.exchange := by
  unfold Relay.commit
  split <;> rfl

theorem forward_of_serving {number : Nat} {frame : FrameId}
    (serving : (relay.strands number).stage = .serving frame) :
    relay.forward number =
      { relay.set number ((relay.strands number).tell
          ((relay.exchange.next frame).1.toList.map .deliver)) with
        exchange := (relay.exchange.next frame).2 } := by
  simp only [forward, serving]

/-! ## Moves -/

/-- What a move does to a hub: nothing, or something that the hub does not see; a task goes on with
its answer; a task hears something, or that there is no more, and may give a command; the
switchboard takes a command; or a packet goes out of an inbox. -/
inductive Effect (relay : Relay) : Relay → Prop where
  | idle : Effect relay relay
  | unseen (number : Nat) (strand : Strand)
      (stage : strand.stage = (relay.strands number).stage)
      (task : strand.task = (relay.strands number).task)
      (identity : strand.identity = (relay.strands number).identity) :
      Effect relay (relay.set number strand)
  | resumed (number : Nat) (messages : List HubMessage) (stage : Stage)
      (answered : (relay.strands number).task = .answered messages stage) :
      Effect relay
        (relay.set number { (relay.strands number).tell messages with task := .free, stage })
  | committed (number : Nat) (incoming : Option Incoming) (now : Instant) (strand : Strand)
      (free : (relay.strands number).task = .free)
      (identity : strand.identity = (relay.strands number).identity)
      (waits :
        Commission.isAwaited relay.max ⟨number, (relay.strands number).stage, incoming⟩ = true →
          strand.task = .waiting ∧ strand.stage = (relay.strands number).stage)
      (goes :
        Commission.isAwaited relay.max ⟨number, (relay.strands number).stage, incoming⟩ = false →
          strand.task = .free ∧
            strand.stage = (Commission.answer relay.exchange relay.max now
              ⟨number, (relay.strands number).stage, incoming⟩).stage) :
      Effect relay
        ((relay.set number strand).commit ⟨number, (relay.strands number).stage, incoming⟩)
  | handled (now : Instant) (commission : Commission) (rest : List Commission)
      (first : relay.queue = commission :: rest) : Effect relay (relay.handle now)
  | forwarded (number : Nat) (frame : FrameId)
      (serving : (relay.strands number).stage = .serving frame) :
      Effect relay (relay.forward number)

theorem effect_part {number : Nat} (free : (relay.strands number).task = .free) :
    relay.Effect (relay.part number) := by
  refine .committed number none .epoch _ free rfl ?_ ?_
  · intro awaited
    rcases Commission.exists_of_isAwaited _ awaited with ⟨incoming, _, heard, _⟩
    cases heard
  · refine fun _ => ⟨free, ?_⟩
    simp only [Commission.answer]
    cases (relay.strands number).stage <;> rfl

theorem effect_hear (relay : Relay) (number : Nat) (now : Instant) :
    relay.Effect (relay.hear number now) := by
  simp only [hear]
  split
  · rename_i incoming rest free found
    refine .committed number (some incoming) now _ free (Strand.identity_hear ..) ?_ ?_
    · intro awaited
      rw [Strand.hear, if_pos awaited]
      exact ⟨rfl, rfl⟩
    · intro unheard
      rw [Strand.hear, if_neg (ne_true_of_eq_false unheard)]
      exact ⟨free, rfl⟩
  · exact .idle

theorem effect_perform (relay : Relay) (move : Move) : relay.Effect (relay.perform move) := by
  cases move with
  | call number | send number | detach number | release number | take number | inject number
  | read number =>
      refine .unseen number _ ?_ ?_ ?_ <;> rfl
  | write number =>
      refine .unseen number _ ?_ ?_ ?_ <;>
      · unfold Strand.write
        split <;> rfl
  | close number =>
      refine .unseen number _ ?_ ?_ ?_ <;>
      · unfold Strand.close
        split <;> rfl
  | resume number =>
      cases task : (relay.strands number).task with
      | free | waiting =>
          refine .unseen number _ ?_ ?_ ?_ <;> simp only [Strand.resume, task]
      | answered messages stage =>
          have resumed : relay.perform (.resume number) = relay.set number
              { (relay.strands number).tell messages with task := .free, stage } := by
            simp only [perform, modify, Strand.resume, task]
          rw [resumed]
          exact .resumed number messages stage task
  | hear number now =>
      exact relay.effect_hear number now
  | finish number =>
      simp only [perform, finish]
      split
      · rename_i free _ _ _
        split
        · exact .unseen number _ rfl rfl rfl
        · exact effect_part free
      · exact .idle
  | fail number =>
      simp only [perform, fail]
      split
      · rename_i free
        exact effect_part free
      · exact .idle
  | handle now =>
      cases first : relay.queue with
      | nil =>
          have same : relay.perform (.handle now) = relay := by
            simp only [perform, handle, first]
          rw [same]
          exact .idle
      | cons commission rest =>
          exact .handled now commission rest first
  | forward number =>
      cases stage : (relay.strands number).stage with
      | serving frame =>
          exact .forwarded number frame stage
      | greeting deadline =>
          have same : relay.perform (.forward number) = relay := by
            simp only [perform, forward, stage]
          rw [same]
          exact .idle
      | ended =>
          have same : relay.perform (.forward number) = relay := by
            simp only [perform, forward, stage]
          rw [same]
          exact .idle

/-! ## What stays -/

/-- The record only grows. -/
theorem Effect.steps {after : Relay} (effect : relay.Effect after) :
    relay.steps <+: after.steps := by
  cases effect with
  | idle | unseen | resumed =>
      exact List.prefix_refl _
  | committed =>
      rw [steps_commit]
      exact List.prefix_refl _
  | handled now commission rest first =>
      simp only [handle, first]
      exact List.prefix_append _ _
  | forwarded number frame serving =>
      simp only [forward, serving]
      exact List.prefix_refl _

theorem Effect.max {after : Relay} (effect : relay.Effect after) : after.max = relay.max := by
  cases effect with
  | idle | unseen | resumed =>
      rfl
  | committed =>
      rw [max_commit]
      rfl
  | handled now commission rest first =>
      simp only [handle, first]
      rfl
  | forwarded number frame serving =>
      rw [forward_of_serving serving]
      rfl

theorem Effect.few {after : Relay} (effect : relay.Effect after)
    (few : (Step.admitted after.steps).length < UInt64.size) :
    (Step.admitted relay.steps).length < UInt64.size :=
  Nat.lt_of_le_of_lt (effect.steps.sublist.filterMap _).length_le few

/-- All moves but one leave the record and the identities as they are: the one in which the
switchboard takes a command. -/
theorem Effect.quiet {after : Relay} (effect : relay.Effect after) :
    (after.steps = relay.steps ∧
        ∀ number, (after.strands number).identity = (relay.strands number).identity) ∨
      ∃ now commission rest, relay.queue = commission :: rest ∧ after = relay.handle now := by
  cases effect with
  | handled now commission rest first =>
      exact .inr ⟨now, commission, rest, first, rfl⟩
  | idle =>
      exact .inl ⟨rfl, fun _ => rfl⟩
  | unseen number strand _ _ identity =>
      exact .inl ⟨rfl, identity_set identity⟩
  | resumed number messages stage _ =>
      exact .inl ⟨rfl, identity_set rfl⟩
  | committed number incoming now strand _ identity =>
      rw [steps_commit, strands_commit]
      exact .inl ⟨rfl, identity_set identity⟩
  | forwarded number frame serving =>
      rw [forward_of_serving serving]
      exact .inl ⟨rfl, identity_set rfl⟩

end Relay

end SessionBus
