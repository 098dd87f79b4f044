import SessionBus.Proofs.Registry.Asking
import SessionBus.Proofs.Registry.Delivery

/-!
# Registrations that nobody waits for

A frame is taken in before its sender is told, and the sender may have gone by then.  The identity
is lost with the answer, and so is the inbox, but the frame keeps its place: it stays registered
until someone names an identity that nobody has been told.

The frames whose senders know them and the frames that are lost are counted from what was sent and
answered.  Together they are the registered ones, each once, and this is what every answer keeps.
-/

namespace SessionBus

/-! ## What is sent and answered -/

/-- The frame that an answer tells of. -/
def Reply.admitted? : Reply → Option FrameId
  | .registered (.ok frame) => some frame
  | _ => none

theorem Step.admitted?_reply (step : Step) : step.reply.admitted? = step.admitted? :=
  rfl

/-- A command, and whether its sender is still there when it is answered. -/
structure Sent where
  now : Instant
  command : Command
  awaited : Bool
deriving DecidableEq

namespace Sent

/-- What a switchboard is asked by all that is sent to it. -/
def commands (sents : List Sent) : List (Instant × Command) :=
  sents.map fun sent => (sent.now, sent.command)

/-- The step that a switchboard takes for what is sent. -/
def step (sent : Sent) (board : Switchboard) : Step :=
  ⟨board, sent.now, sent.command⟩

/-- What an answer changes about the frames that were taken in for senders of one kind: for those
who were told, or for those who were not. -/
def settle (told : Bool) (frames : List FrameId) (sent : Sent) (reply : Reply) : List FrameId :=
  frames.filter (fun frame => sent.command != .unregister frame) ++
    if sent.awaited = told then reply.admitted?.toList else []

def settleAll (told : Bool) (frames : List FrameId) (history : List (Sent × Reply)) :
    List FrameId :=
  history.foldl (fun frames (sent, reply) => sent.settle told frames reply) frames

/-- The frames that were taken in for senders of one kind, and have not gone since. -/
def present (told : Bool) (history : List (Sent × Reply)) : List FrameId :=
  settleAll told [] history

end Sent

namespace Exchange

/-- Answers a command.  If nobody waits for the identity of a frame that is taken in, its inbox is
thrown away with the answer. -/
def serve (exchange : Exchange) (sent : Sent) : Reply × Exchange :=
  let (reply, after) := exchange.request .nothing (·.handle sent.now sent.command)
  (reply,
    match reply.admitted? with
    | some frame => if sent.awaited then after else after.discard frame
    | none => after)

def serveAll (exchange : Exchange) (sents : List Sent) : Exchange :=
  sents.foldl (fun exchange sent => (exchange.serve sent).2) exchange

/-- All that is sent, with the answers. -/
def history (exchange : Exchange) : List Sent → List (Sent × Reply)
  | [] => []
  | sent :: rest => (sent, (exchange.serve sent).1) :: (exchange.serve sent).2.history rest

theorem history_append (exchange : Exchange) (sents later : List Sent) :
    exchange.history (sents ++ later) =
      exchange.history sents ++ (exchange.serveAll sents).history later := by
  induction sents generalizing exchange with
  | nil =>
      rfl
  | cons sent rest ih =>
      exact congrArg _ (ih (exchange.serve sent).2)

end Exchange

/-! ## One answer -/

namespace Sent

variable {sent : Sent} {board : Switchboard} {frames : List FrameId} {frame : FrameId}
  {told : Bool}

/-- The frames of one kind after an answer: who was there and does not go, and who is taken in for
a sender of that kind. -/
theorem mem_settle {reply : Reply} :
    frame ∈ sent.settle told frames reply ↔
      frame ∈ frames ∧ sent.command ≠ .unregister frame ∨
        reply.admitted? = some frame ∧ sent.awaited = told := by
  by_cases kind : sent.awaited = told <;> simp [settle, kind]

/-- A frame that is taken in is counted once, whether or not its sender is told. -/
theorem perm_settle (sent : Sent) (held lost : List FrameId) (reply : Reply) :
    (sent.settle true held reply ++ sent.settle false lost reply).Perm
      ((held ++ lost).filter (fun frame => sent.command != .unregister frame) ++
        reply.admitted?.toList) := by
  rw [List.filter_append]
  cases kind : sent.awaited with
  | true =>
      simpa [settle, kind, List.perm_append_left_iff] using List.perm_append_comm
  | false =>
      simp [settle, kind]

end Sent

namespace Exchange

variable {exchange : Exchange} {board : Switchboard} {sent : Sent} {frame : FrameId}

/-- Whether or not anyone waits, the switchboard takes its step. -/
theorem serve_of_running (sent : Sent) (running : exchange.board = some board) :
    (exchange.serve sent).1 = (sent.step board).reply ∧
      (exchange.serve sent).2.board = some (sent.step board).after := by
  have turn := request_of_running running Reply.nothing (·.handle sent.now sent.command)
  refine ⟨turn.1, ?_⟩
  simp only [serve]
  split
  · split <;> exact turn.2
  · exact turn.2

/-- Only a frame that is taken in gets an inbox. -/
theorem inboxesOf_settle_of_nil {step : Step}
    (none : exchange.inboxesOf frame = []) (other : step.admitted? ≠ some frame) :
    (exchange.settle step.turn).inboxesOf frame = [] := by
  suffices closed :
      (step.turn.events.foldl follow exchange.inboxes).filter (·.frame == frame) = [] by
    simp only [settle, inboxesOf, filter_foldl_push, closed, List.map_nil]
  by_cases comes : step.command = .register
  · rw [Step.admitted?_of_register comes] at other
    rw [Step.turn, comes]
    by_cases full : step.before.maxFrames ≤ step.before.frames.size
    · rw [Switchboard.handle, Switchboard.register_of_full _ full]
      exact none
    · rw [if_neg full] at other
      have another : frame ≠ ⟨step.before.nextFrame⟩ := fun same => other (congrArg some same.symm)
      rw [Switchboard.handle, Switchboard.register_of_room _ full]
      exact (filter_follow_registered _ _ _).trans ((if_neg another).trans none)
  · by_cases goes : ∃ gone, step.command = .unregister gone
    · rcases goes with ⟨gone, asked⟩
      rw [Step.turn, asked, Switchboard.handle, Switchboard.unregister]
      split
      · refine (filter_follow_unregistered _ _ _).trans ?_
        rw [← inboxesOf, none, List.map_nil, ite_self]
      · exact none
    · rw [foldl_follow_of_quiet comes fun gone asked => goes ⟨gone, asked⟩]
      exact none

/-- A frame that nobody is told of has no inbox. -/
theorem inboxesOf_serve (running : exchange.board = some board) :
    (exchange.serve sent).2.inboxesOf frame =
      if (sent.step board).admitted? = some frame ∧ sent.awaited = false then []
      else (exchange.settle (sent.step board).turn).inboxesOf frame := by
  have asked : exchange.request .nothing (·.handle sent.now sent.command) =
      ((sent.step board).reply, exchange.settle (sent.step board).turn) := by
    rw [request, running]
    rfl
  rw [serve, asked, ← Step.admitted?_reply]
  cases taken : (sent.step board).reply.admitted? with
  | none =>
      simp [taken]
  | some other =>
      cases waits : sent.awaited <;> simp [taken, inboxesOf_discard]

/-- The registered frames are those whose senders know them and those that are lost, each once, and
the lost ones have no inboxes. -/
structure Accounts (exchange : Exchange) (board : Switchboard) (held lost : List FrameId) :
    Prop where
  running : exchange.board = some board
  registered : (held ++ lost).Perm board.frames.toList
  deaf : ∀ frame ∈ lost, exchange.inboxesOf frame = []

variable {held lost : List FrameId}

theorem accounts_start (limits : Limits) : (start limits).Accounts (.empty limits) [] [] where
  running := rfl
  registered := .nil
  deaf := nofun

/-- An answer keeps the accounts, if it does not give out an identity again. -/
theorem Accounts.serve
    (accounts : exchange.Accounts board held lost)
    (fresh : ∀ frame, (sent.step board).admitted? = some frame → frame ∉ board.frames.toList) :
    (exchange.serve sent).2.Accounts (sent.step board).after
      (sent.settle true held (exchange.serve sent).1)
      (sent.settle false lost (exchange.serve sent).1) := by
  have served := serve_of_running sent accounts.running
  rw [served.1]
  constructor
  · exact served.2
  · -- Two lists without repeats are the same up to order if they have the same frames.
    have counted := sent.perm_settle held lost (sent.step board).reply
    have once : ((held ++ lost).filter (fun frame => sent.command != .unregister frame) ++
        (sent.step board).reply.admitted?.toList).Nodup := by
      have before := accounts.registered.nodup_iff.mpr board.frames.nodup
      refine List.nodup_append.mpr ⟨before.filter _, ?_, ?_⟩
      · cases (sent.step board).reply.admitted? <;> simp
      · rintro old inside new admitted rfl
        have known := accounts.registered.mem_iff.mp (List.mem_filter.mp inside).1
        exact fresh old (Option.mem_toList.mp admitted) known
    refine counted.trans <| (List.perm_ext_iff_of_nodup once (FrameSet.nodup _)).mpr ?_
    intro frame
    rw [Step.mem_frames_after, List.mem_append, List.mem_filter, bne_iff_ne,
      accounts.registered.mem_iff, Option.mem_toList]
    rfl
  · intro frame inside
    rw [inboxesOf_serve accounts.running]
    split
    · rfl
    · rename_i another
      rcases Sent.mem_settle.mp inside with ⟨old, _⟩ | new
      · refine inboxesOf_settle_of_nil (accounts.deaf frame old) fun admitted => ?_
        have known := accounts.registered.mem_iff.mp (List.mem_append_right held old)
        exact fresh frame admitted known
      · exact absurd new another

/-! ## All answers -/

/-- All answers keep the accounts, as long as there are identities left. -/
theorem Accounts.serveAll
    {sents : List Sent} {maxFrames count : Nat} (accounts : exchange.Accounts board held lost)
    (issued : board.Issued maxFrames count)
    (few : count + (Step.admitted (board.run (Sent.commands sents))).length < UInt64.size) :
    (exchange.serveAll sents).Accounts (board.afterSteps (board.run (Sent.commands sents)))
      (Sent.settleAll true held (exchange.history sents))
      (Sent.settleAll false lost (exchange.history sents)) := by
  induction sents generalizing exchange board held lost count with
  | nil =>
      exact accounts
  | cons sent rest ih =>
      have run : board.run (Sent.commands (sent :: rest)) =
          sent.step board :: (sent.step board).after.run (Sent.commands rest) := rfl
      have after : (sent.step board).after.Issued maxFrames
          (count + (sent.step board).admitted?.toList.length) := Step.issued_after issued
      rw [run, Step.admitted_cons, List.length_append, ← Nat.add_assoc] at few
      refine ih (accounts.serve fun frame admitted registered => ?_) after few
      -- A registered frame has at most the number of the count, and the next one has a greater.
      rw [admitted, Option.toList_some, List.length_singleton] at few
      have number := Step.toNat_of_admitted? issued (by omega) admitted
      have known := issued.frames frame registered
      omega

/-- A frame that has been taken in stays among those of its kind until someone names it. -/
theorem mem_settleAll_of_mem
    {sents : List Sent} {frames : List FrameId} {told : Bool} (inside : frame ∈ frames)
    (unnamed : ∀ sent ∈ sents, sent.command ≠ .unregister frame) :
    frame ∈ Sent.settleAll told frames (exchange.history sents) := by
  induction sents generalizing exchange frames with
  | nil =>
      exact inside
  | cons sent rest ih =>
      rw [List.forall_mem_cons] at unnamed
      exact ih (Sent.mem_settle.mpr (.inl ⟨inside, unnamed.1⟩)) unnamed.2

/-- Nobody is lost whose sender waits. -/
theorem settleAll_of_awaited
    {sents : List Sent} (running : exchange.board = some board)
    (awaited : ∀ sent ∈ sents, sent.command = .register → sent.awaited = true) :
    Sent.settleAll false [] (exchange.history sents) = [] := by
  induction sents generalizing exchange board with
  | nil =>
      rfl
  | cons sent rest ih =>
      rw [List.forall_mem_cons] at awaited
      have served := serve_of_running sent running
      have nobody : sent.settle false [] (exchange.serve sent).1 = [] := by
        apply List.eq_nil_iff_forall_not_mem.mpr
        intro frame inside
        rw [served.1] at inside
        rcases Sent.mem_settle.mp inside with ⟨old, _⟩ | ⟨admitted, unawaited⟩
        · cases old
        · have other : (sent.step board).command ≠ .register := by
            intro asked
            rw [awaited.1 asked] at unawaited
            cases unawaited
          rw [Step.admitted?_reply, Step.admitted?_eq_none other] at admitted
          cases admitted
      have first : Sent.settleAll false [] (exchange.history (sent :: rest)) =
          Sent.settleAll false (sent.settle false [] (exchange.serve sent).1)
            ((exchange.serve sent).2.history rest) := rfl
      rw [first, nobody]
      exact ih served.2 awaited.2

/--
Every place is held or lost.  Whatever is sent to a switchboard that starts, and whoever has gone
when it answers, the registered frames are those whose senders were told of them and those whose
senders were not, until they go.  A frame is refused exactly when both kinds together take all
places.  A frame that is lost has no inbox, and it stays until its identity is named; nobody is lost
as long as all who register wait for the answer.
-/
theorem places_held_or_lost
    (limits : Limits) (sents : List Sent)
    (few : (Step.admitted ((Switchboard.empty limits).run (Sent.commands sents))).length <
      UInt64.size) :
    let exchange := (start limits).serveAll sents
    let held := Sent.present true ((start limits).history sents)
    let lost := Sent.present false ((start limits).history sents)
    (∃ board, exchange.board = some board ∧ (held ++ lost).Perm board.frames.toList) ∧
      exchange.frameCount = held.length + lost.length ∧
      (∀ sent : Sent, sent.command = .register →
        ((exchange.serve sent).1 = .registered (.error (.tooManyFrames limits.maxFrames)) ↔
          held.length + lost.length = limits.maxFrames)) ∧
      (∀ frame ∈ lost, exchange.inbox? frame = none ∧
        ∀ later : List Sent, (∀ sent ∈ later, sent.command ≠ .unregister frame) →
          frame ∈ Sent.present false ((start limits).history (sents ++ later))) ∧
      ((∀ sent ∈ sents, sent.command = .register → sent.awaited = true) → lost = []) := by
  intro exchange held lost
  let run := (Switchboard.empty limits).run (Sent.commands sents)
  have issued := Switchboard.issued_empty limits
  have accounts : exchange.Accounts ((Switchboard.empty limits).afterSteps run) held lost :=
    (accounts_start limits).serveAll issued (by rwa [Nat.zero_add])
  have after := Switchboard.issued_afterSteps issued (List.append_nil run).symm
  have size := accounts.registered.length_eq
  rw [List.length_append] at size
  refine ⟨⟨_, accounts.running, accounts.registered⟩, ?_, ?_, ?_, ?_⟩
  · rw [frameCount, accounts.running, size]
    rfl
  · intro sent asked
    have answer := (serve_of_running sent accounts.running).1
    rw [Step.reply_of_register asked] at answer
    rw [answer, Reply.registered.injEq, size]
    exact after.refused_iff
  · intro frame inside
    constructor
    · rw [inbox?_eq_head?, accounts.deaf frame inside]
      rfl
    · intro later unnamed
      rw [history_append, Sent.present, Sent.settleAll, List.foldl_append]
      exact mem_settleAll_of_mem inside unnamed
  · have running : (start limits).board = some (.empty limits) := rfl
    exact settleAll_of_awaited running

/-- A frame that nobody was told of takes a place that a later one is refused. -/
theorem lost_frame_keeps_place :
    let sents : List Sent :=
      [⟨.epoch, .register, true⟩, ⟨.epoch, .register, false⟩, ⟨.epoch, .unregister ⟨1⟩, true⟩,
        ⟨.epoch, .register, true⟩]
    let exchange := (start ⟨2, 1⟩).serveAll sents
    exchange.frameCount = 2 ∧ exchange.inbox? ⟨2⟩ = none ∧
      (exchange.serve ⟨.epoch, .register, true⟩).1 =
        .registered (.error (.tooManyFrames 2)) := by
  intro sents exchange
  have places := places_held_or_lost ⟨2, 1⟩ sents (by decide)
  rcases places with ⟨_, count, refused, lost, _⟩
  exact ⟨count, (lost ⟨2⟩ (by decide)).1, (refused ⟨.epoch, .register, true⟩ rfl).mpr (by decide)⟩

/-- The registered frames are not always those whose senders know them: one abandoned registration
takes the only place, and the next frame is refused. -/
theorem abandoned_registration_refuses_next :
    (¬ ∀ (limits : Limits) (sents : List Sent),
        ((start limits).serveAll sents).frameCount =
          (Sent.present true ((start limits).history sents)).length) ∧
      (((start ⟨1, 1⟩).serve ⟨.epoch, .register, false⟩).2.serve ⟨.epoch, .register, true⟩).1 =
        .registered (.error (.tooManyFrames 1)) := by
  refine ⟨fun counted => ?_, rfl⟩
  exact absurd (counted ⟨1, 1⟩ [⟨.epoch, .register, false⟩]) (by decide)

end Exchange

end SessionBus
