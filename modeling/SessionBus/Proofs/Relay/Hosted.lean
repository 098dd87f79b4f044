import SessionBus.Proofs.Relay.Effect
import SessionBus.Proofs.Relay.Lodging
import SessionBus.Proofs.Relay.Record

/-!
# The frames that a hub serves

Every connection of a hub, whoever has opened it, serves no frame or one that the switchboard has
given it.  No other connection has that frame, and the switchboard keeps it until the connection has
ended.  So a command in the queue speaks for the frame of the connection that it has come from.
-/

namespace SessionBus

/-! ## Commands in the queue -/

/-- How a commission in the queue stands to the connection that it has come from: one that is
awaited keeps the connection waiting, it speaks for the connection's own frame, and it takes the
frame out only after the connection has ended. -/
structure Commission.Stands (commission : Commission) (max : Nat) (strand : Strand) : Prop where
  awaited :
    commission.isAwaited max = true →
      strand.task = .waiting ∧ strand.stage = commission.stage
  own : ∀ frame, commission.stage = .serving frame → strand.identity = some frame
  parted : ∀ frame, commission.command? max = some (.unregister frame) → strand.stage = .ended

/-- A commission stands as before when its connection changes, if it keeps waiting for the answer,
keeps its identity and does not begin anew. -/
theorem Commission.Stands.follow
    {commission : Commission} {max : Nat} {strand after : Strand}
    (stands : commission.Stands max strand)
    (waits : commission.isAwaited max = true → strand.task = .waiting →
      after.task = .waiting ∧ after.stage = strand.stage)
    (identity : ∀ frame, strand.identity = some frame → after.identity = some frame)
    (ended : strand.stage = .ended → after.stage = .ended) :
    commission.Stands max after where
  awaited := by
    intro awaited
    rcases stands.awaited awaited with ⟨waiting, same⟩
    rcases waits awaited waiting with ⟨still, stage⟩
    exact ⟨still, stage.trans same⟩
  own := fun frame serving => identity frame (stands.own frame serving)
  parted := fun frame given => ended (stands.parted frame given)

/-! ## All connections -/

namespace Relay

/-- The frames that a hub serves have been taken in, each on one connection, and are registered
until their connections have ended; the record knows of no packet of any other frame. -/
structure Hosted (limits : Limits) (relay : Relay) : Prop where
  recorded : relay.exchange.Recorded limits relay.steps
  lodged : ∀ number, (relay.strands number).Lodged
  admitted :
    ∀ number frame, (relay.strands number).identity = some frame →
      frame ∈ Step.admitted relay.steps
  apart :
    ∀ number other frame, (relay.strands number).identity = some frame →
      (relay.strands other).identity = some frame → number = other
  registered :
    ∀ number frame, (relay.strands number).identity = some frame →
      (relay.strands number).stage ≠ .ended →
        frame ∈ ((Switchboard.empty limits).afterSteps relay.steps).frames.toList
  queued :
    ∀ commission ∈ relay.queue,
      commission.Stands relay.max (relay.strands commission.connection)
  once :
    ((relay.queue.filter (·.isAwaited relay.max)).map (·.connection)).Nodup
  unsent :
    ∀ frame, frame ∉ Step.admitted relay.steps →
      ∀ step ∈ relay.steps, step.command.sent? frame = none

theorem hosted_start (limits : Limits) (max : Nat) (path : String)
    (displayName : Nat → Option String) : (start limits max path displayName).Hosted limits where
  recorded := Exchange.recorded_start limits
  lodged := fun _ => .greeted Hub.handshakeTimeout rfl nofun rfl
  admitted := fun _ _ known => absurd known nofun
  apart := fun _ _ _ known => absurd known nofun
  registered := fun _ _ known => absurd known nofun
  queued := fun _ inside => absurd inside List.not_mem_nil
  once := List.nodup_nil
  unsent := fun _ _ _ inside => absurd inside List.not_mem_nil

variable {relay : Relay} {limits : Limits}

namespace Hosted

variable (hosted : relay.Hosted limits)

include hosted

/-- A connection changes, and its identity stays. -/
theorem set
    {number : Nat} {strand : Strand} (identity : strand.identity = (relay.strands number).identity)
    (lodged : strand.Lodged)
    (ended : (relay.strands number).stage = .ended → strand.stage = .ended)
    (patient : (relay.strands number).task = .waiting →
      strand.task = .waiting ∧ strand.stage = (relay.strands number).stage) :
    (relay.set number strand).Hosted limits := by
  have same := relay.identity_set identity
  constructor
  · exact hosted.recorded
  · exact forall_set (fun _ changed => changed.Lodged) lodged hosted.lodged
  · intro other frame known
    exact hosted.admitted other frame (same other ▸ known)
  · intro one other frame known also
    exact hosted.apart one other frame (same one ▸ known) (same other ▸ also)
  · intro other frame known stays
    refine hosted.registered other frame (same other ▸ known) fun gone => stays ?_
    exact forall_set (fun other changed => (relay.strands other).stage = .ended →
      changed.stage = .ended) ended (fun _ => id) other gone
  · intro commission inside
    have stands := hosted.queued commission inside
    rw [strands_set]
    split
    · rename_i here
      rw [here] at stands
      exact stands.follow (fun _ => patient) (fun _ => identity.trans) ended
    · exact stands
  · exact hosted.once
  · exact hosted.unsent

/-- A commission of a connection comes last in the queue. -/
theorem commit
    {commission : Commission}
    (stands : commission.Stands relay.max (relay.strands commission.connection))
    (alone : commission.isAwaited relay.max = true → ∀ other ∈ relay.queue,
      other.isAwaited relay.max = true → other.connection ≠ commission.connection) :
    (relay.commit commission).Hosted limits := by
  unfold Relay.commit
  split
  · constructor
    · exact hosted.recorded
    · exact hosted.lodged
    · exact hosted.admitted
    · exact hosted.apart
    · exact hosted.registered
    · intro other inside
      rcases List.mem_append.mp inside with old | new
      · exact hosted.queued other old
      · rw [List.mem_singleton.mp new]
        exact stands
    · rw [List.filter_append, List.map_append, List.nodup_append]
      refine ⟨hosted.once, ?_, ?_⟩
      · exact (List.pairwise_singleton _ _).sublist (List.filter_sublist.map _)
      · intro one old other new
        rcases List.mem_map.mp old with ⟨before, queued, rfl⟩
        rcases List.mem_map.mp new with ⟨last, own, rfl⟩
        rcases List.mem_filter.mp queued with ⟨inside, waits⟩
        rcases List.mem_filter.mp own with ⟨here, awaited⟩
        rw [List.mem_singleton.mp here] at awaited ⊢
        exact alone awaited before inside waits
    · exact hosted.unsent
  · exact hosted

section Committed

variable {number : Nat} {incoming : Option Incoming} {now : Instant} {strand : Strand}
  (free : (relay.strands number).task = .free)
  (identity : strand.identity = (relay.strands number).identity)
  (waits :
    Commission.isAwaited relay.max ⟨number, (relay.strands number).stage, incoming⟩ = true →
      strand.task = .waiting ∧ strand.stage = (relay.strands number).stage)
  (goes :
    Commission.isAwaited relay.max ⟨number, (relay.strands number).stage, incoming⟩ = false →
      strand.task = .free ∧
        strand.stage = (Commission.answer relay.exchange relay.max now
          ⟨number, (relay.strands number).stage, incoming⟩).stage)

include identity waits goes

/-- A commission that has just been given stands to its connection as it should. -/
theorem stands_committed :
    Commission.Stands ⟨number, (relay.strands number).stage, incoming⟩ relay.max strand where
  awaited := waits
  own := fun _ serving => identity.trans ((hosted.lodged number).identity_of_serving serving)
  parted := by
    intro frame given
    have unheard :
        Commission.isAwaited relay.max ⟨number, (relay.strands number).stage, incoming⟩ =
          false := by
      rw [Commission.isAwaited, given]
      rfl
    exact (goes unheard).2.trans ((Commission.of_unregister given).2 relay.exchange now)

include free

/-- A task hears something, and a commission of its connection comes last in the queue. -/
theorem committed :
    ((relay.set number strand).commit
      ⟨number, (relay.strands number).stage, incoming⟩).Hosted limits := by
  have ended : (relay.strands number).stage = .ended → strand.stage = .ended := by
    intro gone
    cases awaited : Commission.isAwaited relay.max
        ⟨number, (relay.strands number).stage, incoming⟩ with
    | true =>
        exact (waits awaited).2.trans gone
    | false =>
        rcases Commission.stage_answer_of_not_isAwaited awaited relay.exchange now with
          closed | ⟨frame, serving, _⟩
        · exact (goes awaited).2.trans closed
        · rw [gone] at serving
          cases serving
  have changed : (relay.set number strand).Hosted limits := by
    refine hosted.set identity ((hosted.lodged number).commit free identity waits goes) ended ?_
    intro waiting
    rw [free] at waiting
    cases waiting
  have own : (relay.set number strand).strands number = strand := if_pos rfl
  refine changed.commit ?_ ?_
  · rw [own]
    exact hosted.stands_committed identity waits goes
  · intro _ other inside awaited here
    have waiting := ((hosted.queued other inside).awaited awaited).1
    rw [here, free] at waiting
    cases waiting

end Committed

/-- No command in the queue hands over a packet of a frame that has not been taken in. -/
theorem sent?_of_queued
    {commission : Commission} (queued : commission ∈ relay.queue) {command : Command}
    (given : commission.command? relay.max = some command) {frame : FrameId}
    (unknown : frame ∉ Step.admitted relay.steps) : command.sent? frame = none := by
  cases sent : command.sent? frame with
  | none =>
      rfl
  | some entry =>
      have serving := Commission.stage_of_sent given sent
      have own := (hosted.queued commission queued).own frame serving
      exact absurd (hosted.admitted _ frame own) unknown

section First

variable {commission : Commission} {rest : List Commission}
  (first : relay.queue = commission :: rest)

include first

theorem stands_first : commission.Stands relay.max (relay.strands commission.connection) :=
  hosted.queued commission (by rw [first]; exact List.mem_cons_self)

theorem stands_rest {other : Commission} (inside : other ∈ rest) :
    other.Stands relay.max (relay.strands other.connection) :=
  hosted.queued other (by rw [first]; exact List.mem_cons_of_mem commission inside)

theorem once_rest : ((rest.filter (·.isAwaited relay.max)).map (·.connection)).Nodup := by
  have part : rest.Sublist relay.queue := by
    rw [first]
    exact List.sublist_cons_self commission rest
  exact hosted.once.sublist ((part.filter _).map _)

/-- No other command in the queue is awaited on the same connection. -/
theorem alone
    (awaited : commission.isAwaited relay.max = true) {other : Commission} (inside : other ∈ rest)
    (also : other.isAwaited relay.max = true) : other.connection ≠ commission.connection := by
  intro here
  have once := hosted.once
  rw [first, List.filter_cons, if_pos awaited, List.map_cons, List.nodup_cons] at once
  exact once.1 (List.mem_map.mpr ⟨other, List.mem_filter.mpr ⟨inside, also⟩, here⟩)

/-- A commission leaves the queue. -/
theorem drop : ({ relay with queue := rest } : Relay).Hosted limits :=
  ⟨hosted.recorded, hosted.lodged, hosted.admitted, hosted.apart, hosted.registered,
    fun _ => hosted.stands_rest first, hosted.once_rest first, hosted.unsent⟩

end First

end Hosted

/-! ### Commands -/

/-- What becomes of the connection of a command. -/
def answered (relay : Relay) (now : Instant) (commission : Commission) : Strand :=
  let strand := relay.strands commission.connection
  if commission.isAwaited relay.max then
    strand.await (commission.answer relay.exchange relay.max now)
  else strand

section Answering

variable (relay : Relay) (now : Instant) (commission : Commission)

@[simp]
theorem frameEnd_answered :
    (relay.answered now commission).frameEnd =
      (relay.strands commission.connection).frameEnd := by
  unfold answered
  split <;> rfl

@[simp]
theorem accepted_answered :
    (relay.answered now commission).accepted =
      (relay.strands commission.connection).accepted := by
  unfold answered
  split <;> rfl

@[simp]
theorem handed_answered :
    (relay.answered now commission).handed = (relay.strands commission.connection).handed := by
  unfold answered
  split <;> rfl

end Answering

/-- The step in which a switchboard takes a command after some others. -/
def step (relay : Relay) (limits : Limits) (now : Instant) (command : Command) : Step :=
  ⟨(Switchboard.empty limits).afterSteps relay.steps, now, command⟩

section Commands

variable {commission : Commission} {rest : List Commission} {command : Command}
  (first : relay.queue = commission :: rest) (now : Instant)

include first

/-- A commission without a command does nothing. -/
theorem handle_of_none (given : commission.command? relay.max = none) :
    relay.handle now = { relay with queue := rest } := by
  have unheard : commission.isAwaited relay.max = false := by
    rw [Commission.isAwaited, given]
    rfl
  have same : (commission.answer relay.exchange relay.max now).exchange = relay.exchange := by
    rw [Commission.exchange_answer, given]
    rfl
  have unseen : (commission.step? relay.exchange relay.max now).toList = [] := by
    rw [Commission.step?, given]
    cases relay.exchange.board <;> rfl
  simp only [handle, first, unheard, Bool.false_eq_true, if_false, same, unseen, List.append_nil,
    set_self]

theorem handle_of_some
    (recorded : relay.exchange.Recorded limits relay.steps)
    (given : commission.command? relay.max = some command) :
    relay.handle now =
      { relay.set commission.connection (relay.answered now commission) with
        exchange := relay.exchange.ask now command
        queue := rest
        steps := relay.steps ++ [relay.step limits now command] } := by
  have asked : (commission.answer relay.exchange relay.max now).exchange =
      relay.exchange.ask now command := by
    rw [Commission.exchange_answer, given]
    rfl
  have seen : (commission.step? relay.exchange relay.max now).toList =
      [relay.step limits now command] := by
    rw [Commission.step?, given, recorded.running]
    rfl
  simp only [handle, first, asked, seen]
  rfl

end Commands

namespace Hosted

variable {commission : Commission} {rest : List Commission} {command : Command}
  (hosted : relay.Hosted limits) (first : relay.queue = commission :: rest) (now : Instant)
  (given : commission.command? relay.max = some command)

include hosted first given

/-- The answer leaves the connection where it stands.  An identity is given out with the step that
takes the frame in. -/
theorem answered_cases :
    let strand := relay.strands commission.connection
    let after := relay.answered now commission
    after.Lodged ∧ after.stage = strand.stage ∧
      (commission.isAwaited relay.max = false → after = strand) ∧
      (after.identity = strand.identity ∨
        strand.identity = none ∧ ∃ frame, after.identity = some frame ∧
          (relay.step limits now command).admitted? = some frame) := by
  intro strand after
  have stands := hosted.stands_first first
  have lodged := hosted.lodged commission.connection
  cases awaited : commission.isAwaited relay.max with
  | false =>
      have same : after = strand := by
        simp only [after, answered, awaited]
        rfl
      rw [same]
      exact ⟨lodged, rfl, fun _ => rfl, .inl rfl⟩
  | true =>
      have answers : after = strand.await (commission.answer relay.exchange relay.max now) := by
        simp only [after, answered, awaited, if_true]
        rfl
      rcases stands.awaited awaited with ⟨waits, same⟩
      rcases lodged.await waits same awaited relay.exchange now with ⟨next, identity⟩
      rw [answers]
      refine ⟨next, rfl, nofun, identity.imp id ?_⟩
      rintro ⟨unknown, frame, known, asked, taken⟩
      refine ⟨unknown, frame, known, ?_⟩
      rw [given] at asked
      cases asked
      have registers : (relay.step limits now .register).reply = .registered (.ok frame) := by
        rw [Step.reply_of_register rfl, ← taken]
        simp only [Exchange.register, Exchange.request, hosted.recorded.running, step]
      rw [Step.admitted?, registers]

/-- A connection has kept its identity, or the step has given one out on it. -/
theorem identity_cases {number : Nat} {frame : FrameId}
    (known : ((relay.set commission.connection (relay.answered now commission)).strands
      number).identity = some frame) :
    (relay.strands number).identity = some frame ∨
      number = commission.connection ∧
        (relay.step limits now command).admitted? = some frame := by
  rw [strands_set] at known
  split at known
  · rename_i here
    rcases (hosted.answered_cases first now given).2.2.2 with same | ⟨_, other, own, admitted⟩
    · rw [same] at known
      exact .inl (here ▸ known)
    · rw [own] at known
      cases known
      exact .inr ⟨here, admitted⟩
  · exact .inl known

/-- A connection stays where it stands. -/
theorem stage_answered (number : Nat) :
    ((relay.set commission.connection (relay.answered now commission)).strands number).stage =
      (relay.strands number).stage :=
  forall_set (fun other changed => changed.stage = (relay.strands other).stage)
    (hosted.answered_cases first now given).2.1 (fun _ => rfl) number

/-- The switchboard takes no frame out that a connection serves. -/
theorem not_unregister
    {number : Nat} {frame : FrameId} (known : (relay.strands number).identity = some frame)
    (stays : (relay.strands number).stage ≠ .ended) : command ≠ .unregister frame := by
  rintro rfl
  have stands := hosted.stands_first first
  have serving := (Commission.of_unregister given).1
  obtain rfl := hosted.apart number commission.connection frame known (stands.own frame serving)
  exact stays (stands.parted frame given)

/-- The commands that are left stand to their connections as before. -/
theorem stands_handle {other : Commission} (inside : other ∈ rest) :
    other.Stands relay.max
      ((relay.set commission.connection (relay.answered now commission)).strands
        other.connection) := by
  have before := hosted.stands_rest first inside
  rcases hosted.answered_cases first now given with ⟨_, stage, unheard, identity⟩
  rw [strands_set]
  split
  · rename_i here
    rw [here] at before
    refine before.follow ?_ ?_ stage.trans
    · intro awaited waiting
      cases waits : commission.isAwaited relay.max with
      | false =>
          rw [unheard waits]
          exact ⟨waiting, rfl⟩
      | true =>
          -- The connection gets its answer, so no command that is left is awaited on it.
          exact absurd here (hosted.alone first waits inside awaited)
    · intro frame known
      rcases identity with same | ⟨unknown, _⟩
      · exact same.trans known
      · rw [known] at unknown
        cases unknown
  · exact before

/-- The frame of a connection that has not ended is registered, also if it is just taken in. -/
theorem registered_handle
    {number : Nat} {frame : FrameId}
    (known : ((relay.set commission.connection (relay.answered now commission)).strands
      number).identity = some frame)
    (stays : ((relay.set commission.connection (relay.answered now commission)).strands
      number).stage ≠ .ended) :
    frame ∈ ((Switchboard.empty limits).afterSteps
      (relay.steps ++ [relay.step limits now command])).frames.toList := by
  rw [Switchboard.afterSteps_concat, Step.mem_frames_after]
  rcases hosted.identity_cases first now given known with old | ⟨_, new⟩
  · rw [hosted.stage_answered first now given] at stays
    exact .inl ⟨hosted.registered number frame old stays,
      hosted.not_unregister first given old stays⟩
  · exact .inr new

theorem handle
    (few : (Step.admitted (relay.steps ++ [relay.step limits now command])).length < UInt64.size) :
    (relay.handle now).Hosted limits := by
  have admits : Step.admitted (relay.steps ++ [relay.step limits now command]) =
      Step.admitted relay.steps ++ (relay.step limits now command).admitted?.toList :=
    Step.admitted_concat _ _
  have fresh : ∀ frame, (relay.step limits now command).admitted? = some frame →
      frame ∉ Step.admitted relay.steps :=
    fun frame => hosted.recorded.fresh few
  rw [handle_of_some first now hosted.recorded given]
  constructor
  · exact (hosted.recorded.ask now command few).1
  · exact forall_set (fun _ changed => changed.Lodged)
      (hosted.answered_cases first now given).1 hosted.lodged
  · intro number frame known
    rw [admits]
    rcases hosted.identity_cases first now given known with old | ⟨_, new⟩
    · exact List.mem_append_left _ (hosted.admitted number frame old)
    · exact List.mem_append_right _ (by rw [new]; exact List.mem_cons_self)
  · -- An identity that is given out in this step is new, so no other connection has it.
    intro number other frame known also
    rcases hosted.identity_cases first now given known with old | ⟨here, new⟩
    · rcases hosted.identity_cases first now given also with before | ⟨_, new⟩
      · exact hosted.apart number other frame old before
      · exact absurd (hosted.admitted number frame old) (fresh frame new)
    · rcases hosted.identity_cases first now given also with before | ⟨there, _⟩
      · exact absurd (hosted.admitted other frame before) (fresh frame new)
      · exact here.trans there.symm
  · exact fun number frame => hosted.registered_handle first now given
  · exact fun other => hosted.stands_handle first now given
  · exact hosted.once_rest first
  · intro frame unknown taken inside
    rw [admits, List.mem_append, not_or] at unknown
    rcases List.mem_append.mp inside with old | new
    · exact hosted.unsent frame unknown.1 taken old
    · rw [List.mem_singleton.mp new]
      exact hosted.sent?_of_queued (by rw [first]; exact List.mem_cons_self) given unknown.1

end Hosted

/-- A hub keeps its frames, whatever it does. -/
theorem Hosted.effect {after : Relay} (hosted : relay.Hosted limits) (effect : relay.Effect after)
    (few : (Step.admitted after.steps).length < UInt64.size) : after.Hosted limits := by
  cases effect with
  | idle =>
      exact hosted
  | unseen number strand stage task identity =>
      refine hosted.set identity ((hosted.lodged number).of_same stage task identity)
        stage.trans ?_
      exact fun waiting => ⟨task.trans waiting, stage⟩
  | resumed number messages stage answered =>
      rcases (hosted.lodged number).of_answered answered with ⟨alive, _, lodged⟩
      refine hosted.set rfl lodged (fun ended => absurd ended alive) fun waiting => ?_
      rw [waiting] at answered
      cases answered
  | committed number incoming now strand free identity waits goes =>
      exact hosted.committed free identity waits goes
  | handled now commission rest first =>
      cases given : commission.command? relay.max with
      | none =>
          rw [handle_of_none first now given]
          exact hosted.drop first
      | some command =>
          rw [handle_of_some first now hosted.recorded given] at few
          exact hosted.handle first now given few
  | forwarded number frame serving =>
      have told : (relay.set number ((relay.strands number).tell
          ((relay.exchange.next frame).1.toList.map .deliver))).Hosted limits :=
        hosted.set rfl ((hosted.lodged number).of_same rfl rfl rfl) id
          fun waiting => ⟨waiting, rfl⟩
      rw [forward_of_serving serving]
      exact ⟨(hosted.recorded.next frame).2.1, told.lodged, told.admitted, told.apart,
        told.registered, told.queued, told.once, told.unsent⟩

end Relay

end SessionBus
