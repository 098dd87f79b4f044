import SessionBus.Proofs.Bus.Delivery
import SessionBus.Proofs.Registry.Delivery

/-!
# A connector and the switchboard side by side

The switchboard answers the calls of a connector and pushes packets into its inbox; the connector
takes the answers and the packets in tasks of their own.  Nothing but the order of each queue
connects these tasks, so they may take turns in any way.

A connector knows of a session that it has entered only when its call has resumed.  Until then it
drops the broadcasts of the session, even those that were pushed after the switchboard had let the
frame in.  Everything else is kept: what is published is told by the sessions recorded so far, and
nothing is lost if calls resume promptly.
-/

namespace SessionBus

/-! ## Calls and their answers -/

namespace Call

/-- What the switchboard is asked for a call of a frame. -/
def command (call : Call) (frame : FrameId) : Command :=
  match call with
  | .claim session => .claim frame session
  | .join session displayName => .join frame session displayName
  | .describe session => .describe session

/-- The session that a call enters by its answer. -/
def entered? (call : Call) (reply : Reply) : Option SessionId :=
  match call, reply with
  | .claim session, .claimed (.ok true) => some session
  | .join session _, .joined true => some session
  | _, _ => none

end Call

namespace Connector

/-- The connector after a call has resumed with its answer. -/
def resume (connector : Connector) (call : Call) (reply : Reply) : Connector :=
  match call, reply with
  | .claim session, .claimed (.ok claimed) => connector.afterClaim session claimed
  | .join session _, .joined joined => connector.afterJoin session joined
  | _, _ => connector

/-- A call that enters a session makes the frame a member of it, and no other call changes
anything. -/
theorem resume_cases (connector : Connector) (call : Call) (reply : Reply) :
    (∃ session, call.entered? reply = some session ∧
        connector.Enters session (connector.resume call reply)) ∨
      call.entered? reply = none ∧ connector.resume call reply = connector := by
  cases call with
  | claim session =>
      cases reply with
      | claimed result =>
          cases result with
          | ok claimed =>
              cases claimed with
              | true =>
                  exact .inl ⟨session, rfl, connector.enters_afterClaim session⟩
              | false =>
                  exact .inr ⟨rfl, rfl⟩
          | error error =>
              exact .inr ⟨rfl, rfl⟩
      | registered | joined | described | listed | counted | nothing =>
          exact .inr ⟨rfl, rfl⟩
  | join session displayName =>
      cases reply with
      | joined joined =>
          cases joined with
          | true =>
              exact .inl ⟨session, rfl, connector.enters_afterJoin session⟩
          | false =>
              exact .inr ⟨rfl, rfl⟩
      | registered | claimed | described | listed | counted | nothing =>
          exact .inr ⟨rfl, rfl⟩
  | describe session =>
      cases reply <;> exact .inr ⟨rfl, rfl⟩

end Connector

/-! ## The tasks -/

/-- What waits for the switchboard: a call of the connector, or a command of somebody else. -/
inductive Errand where
  | call (what : Call)
  | other (command : Command)

namespace Errand

def command (errand : Errand) (frame : FrameId) : Command :=
  match errand with
  | .call what => what.command frame
  | .other command => command

/-- The answer that is left for a call. -/
def answer? (errand : Errand) (reply : Reply) : Option (Call × Reply) :=
  match errand with
  | .call what => some (what, reply)
  | .other _ => none

def entered? (errand : Errand) (reply : Reply) : Option SessionId :=
  (errand.answer? reply).bind fun entry => entry.1.entered? entry.2

end Errand

/-- A connector and the switchboard, with what lies between them: the commands that wait for the
switchboard, the answers that wait for suspended calls, and the packets that wait for dispatch. -/
structure Tasks where
  connector : Connector
  board : Switchboard
  queue : List Errand
  answers : List (Call × Reply)
  inbox : List Packet

/-- A turn of one of the tasks, or a new command. -/
inductive Tasks.Move where
  | call (what : Call)
  | order (command : Command)
  | handle (now : Instant)
  | resume (position : Nat)
  | dispatch

/-- What a move shows: the switchboard lets the frame into a session or pushes a packet, the
connector records the session, or takes a packet and publishes it or not. -/
inductive Occurrence where
  | granted (session : SessionId)
  | pushed (packet : Packet)
  | recorded (session : SessionId)
  | dispatched (packet : Packet) (published : Bool)
deriving DecidableEq

namespace Occurrence

def pushed? : Occurrence → Option Packet
  | .pushed packet => some packet
  | _ => none

def dispatched? : Occurrence → Option (Packet × Bool)
  | .dispatched packet published => some (packet, published)
  | _ => none

def published? : Occurrence → Option Packet
  | .dispatched packet true => some packet
  | _ => none

/-- What a turn of the switchboard shows: the session that the frame is let into, and the packets
that are pushed. -/
def ofTurn (entered : Option SessionId) (packets : List Packet) : List Occurrence :=
  entered.toList.map granted ++ packets.map pushed

variable (entered : Option SessionId) (packets : List Packet)

theorem pushed?_ofTurn : (ofTurn entered packets).filterMap pushed? = packets := by
  have pushes : (packets.map pushed).filterMap pushed? = packets := by
    simp [List.filterMap_map, Function.comp_def, pushed?]
  cases entered with
  | none =>
      exact pushes
  | some session =>
      exact pushes

theorem dispatched?_ofTurn : (ofTurn entered packets).filterMap dispatched? = [] := by
  simp [ofTurn, dispatched?]

theorem published?_ofTurn : (ofTurn entered packets).filterMap published? = [] := by
  simp [ofTurn, published?]

theorem recorded_notMem_ofTurn (session : SessionId) :
    .recorded session ∉ ofTurn entered packets := by
  simp [ofTurn]

end Occurrence

namespace Tasks

/-- A connector that has opened receivers for some topics, beside a switchboard. -/
def start (frame : FrameId) (topics : List String) (board : Switchboard) : Tasks where
  connector := topics.foldl (fun connector topic => (connector.receiver topic).2) (.attached frame)
  board := board
  queue := []
  answers := []
  inbox := []

/-- The switchboard handles the next command. -/
def handle (tasks : Tasks) (now : Instant) : List Occurrence × Tasks :=
  match tasks.queue with
  | [] => ([], tasks)
  | errand :: rest =>
      let step : Step := ⟨tasks.board, now, errand.command tasks.connector.frame⟩
      let packets := step.handed tasks.connector.frame
      (Occurrence.ofTurn (errand.entered? step.reply) packets,
        { tasks with
          board := step.after
          queue := rest
          answers := tasks.answers ++ (errand.answer? step.reply).toList
          inbox := tasks.inbox ++ packets })

/-- A suspended call takes its answer. -/
def resume (tasks : Tasks) (position : Nat) : List Occurrence × Tasks :=
  match tasks.answers[position]? with
  | none => ([], tasks)
  | some (call, reply) =>
      ((call.entered? reply).toList.map .recorded,
        { tasks with
          connector := tasks.connector.resume call reply
          answers := tasks.answers.eraseIdx position })

/-- The connector takes the next packet. -/
def dispatch (tasks : Tasks) : List Occurrence × Tasks :=
  match tasks.inbox with
  | [] => ([], tasks)
  | packet :: rest =>
      ([.dispatched packet (tasks.connector.accepts packet)],
        { tasks with connector := tasks.connector.dispatch packet, inbox := rest })

def perform (tasks : Tasks) : Move → List Occurrence × Tasks
  | .call what => ([], { tasks with queue := tasks.queue ++ [.call what] })
  | .order command => ([], { tasks with queue := tasks.queue ++ [.other command] })
  | .handle now => tasks.handle now
  | .resume position => tasks.resume position
  | .dispatch => tasks.dispatch

/-- What some moves show, in order. -/
def log (tasks : Tasks) : List Move → List Occurrence
  | [] => []
  | move :: rest => (tasks.perform move).1 ++ (tasks.perform move).2.log rest

def afterMoves (tasks : Tasks) : List Move → Tasks
  | [] => tasks
  | move :: rest => (tasks.perform move).2.afterMoves rest

/-! ## What a log tells -/

/-- The packets of a log that were published on a topic, in order. -/
def publishedOn (log : List Occurrence) (topic : String) : List Packet :=
  (log.filterMap Occurrence.published?).filter (·.topic = topic)

theorem publishedOn_append (past more : List Occurrence) (topic : String) :
    publishedOn (past ++ more) topic = publishedOn past topic ++ publishedOn more topic := by
  simp [publishedOn]

/-- The tasks know what has happened, and receivers for some topics have got what was published. -/
structure Follows (tasks : Tasks) (frame : FrameId) (topics : List String)
    (past : List Occurrence) : Prop where
  frame : tasks.connector.frame = frame
  router : tasks.connector.topics.Sound
  unclosed : tasks.connector.isClosed = false
  memberships : ∀ session, tasks.connector.isMember session = true ↔ .recorded session ∈ past
  granted :
    ∀ call reply session, (call, reply) ∈ tasks.answers → call.entered? reply = some session →
      .granted session ∈ past
  order :
    past.filterMap Occurrence.pushed? =
      (past.filterMap Occurrence.dispatched?).map (·.1) ++ tasks.inbox
  waiting :
    ∀ ticket topic, topics[ticket]? = some topic →
      tasks.connector.topics.waiting? ticket = some (topic, publishedOn past topic)

/-- What must have happened before: a session is recorded after the frame was let in; a packet is
dispatched when its turn has come, and it is published if it comes from another frame and is sent to
this one or belongs to a recorded session. -/
def Justified (frame : FrameId) (past : List Occurrence) : Occurrence → Prop
  | .granted _ => True
  | .pushed _ => True
  | .recorded session => .granted session ∈ past
  | .dispatched packet published =>
      (past.filterMap Occurrence.pushed?)[(past.filterMap Occurrence.dispatched?).length]? =
          some packet ∧
        (published = true ↔
          packet.sender ≠ frame ∧
            (packet.destination = some frame ∨
              packet.destination = none ∧
                ∃ session, packet.session = some session ∧ .recorded session ∈ past))

variable {tasks : Tasks} {frame : FrameId} {topics : List String} {past : List Occurrence}

/-- The switchboard handles a command. -/
theorem Follows.handle
    (follows : tasks.Follows frame topics past) (now : Instant) :
    (tasks.handle now).2.Follows frame topics
      (past ++ (tasks.handle now).1) := by
  unfold Tasks.handle
  cases queue : tasks.queue with
  | nil =>
      simpa using follows
  | cons errand rest =>
      let step : Step := ⟨tasks.board, now, errand.command tasks.connector.frame⟩
      constructor
      · exact follows.frame
      · exact follows.router
      · exact follows.unclosed
      · intro session
        simp [follows.memberships session, Occurrence.recorded_notMem_ofTurn]
      · intro call reply session inside entered
        rcases List.mem_append.mp inside with old | new
        · exact List.mem_append_left _ (follows.granted call reply session old entered)
        · have here : errand.entered? step.reply = some session := by
            rw [Errand.entered?, Option.mem_toList.mp new]
            exact entered
          apply List.mem_append_right
          apply List.mem_append_left
          exact List.mem_map_of_mem (Option.mem_toList.mpr here)
      · rw [List.filterMap_append, List.filterMap_append, Occurrence.pushed?_ofTurn,
          Occurrence.dispatched?_ofTurn, follows.order, List.append_nil, List.append_assoc]
      · intro ticket topic opened
        rw [publishedOn_append]
        simp [publishedOn, Occurrence.published?_ofTurn, follows.waiting ticket topic opened]

/-- A call resumes with its answer. -/
theorem Follows.resume
    (follows : tasks.Follows frame topics past) (position : Nat) :
    (tasks.resume position).2.Follows frame topics
      (past ++ (tasks.resume position).1) := by
  unfold Tasks.resume
  cases found : tasks.answers[position]? with
  | none =>
      simpa using follows
  | some answer =>
      rcases answer with ⟨call, reply⟩
      have remaining : ∀ call reply session,
          (call, reply) ∈ tasks.answers.eraseIdx position → call.entered? reply = some session →
            .granted session ∈ past :=
        fun call reply session inside =>
          follows.granted call reply session (List.mem_of_mem_eraseIdx inside)
      rcases tasks.connector.resume_cases call reply with ⟨session, entered, enters⟩ |
        ⟨entered, same⟩
      · simp only [entered, Option.toList_some, List.map_singleton]
        constructor
        · exact enters.frame.trans follows.frame
        · exact enters.router ▸ follows.router
        · rw [Connector.isClosed, enters.router]
          exact follows.unclosed
        · intro other
          rw [enters.isMember, follows.memberships other]
          simp
        · intro call reply session inside entered
          exact List.mem_append_left _ (remaining call reply session inside entered)
        · simpa [List.filterMap_cons, Occurrence.pushed?, Occurrence.dispatched?]
            using follows.order
        · intro ticket topic opened
          rw [enters.router, follows.waiting ticket topic opened]
          simp [publishedOn, Occurrence.published?]
      · simp only [entered, same, Option.toList_none, List.map_nil, List.append_nil]
        exact { follows with granted := remaining }

/-- A packet is dispatched. -/
theorem Follows.dispatch (follows : tasks.Follows frame topics past) :
    tasks.dispatch.2.Follows frame topics (past ++ tasks.dispatch.1) := by
  unfold Tasks.dispatch
  cases inbox : tasks.inbox with
  | nil =>
      simpa using follows
  | cons packet rest =>
      have stays := tasks.connector.stays_dispatch packet
      constructor
      · exact stays.frame.trans follows.frame
      · exact stays.router follows.router
      · rw [Connector.isClosed_dispatch]
        exact follows.unclosed
      · intro session
        have known := follows.memberships session
        simp only [Connector.isMember, stays.memberships] at known ⊢
        simpa using known
      · intro call reply session inside entered
        exact List.mem_append_left _ (follows.granted call reply session inside entered)
      · simpa [List.filterMap_cons, Occurrence.pushed?, Occurrence.dispatched?, inbox]
          using follows.order
      · intro ticket topic opened
        simp only [Connector.waiting?_dispatch follows.router
          (follows.waiting ticket topic opened) packet, follows.unclosed, true_and]
        cases accepted : tasks.connector.accepts packet with
        | false =>
            simp [publishedOn, Occurrence.published?]
        | true =>
            by_cases here : packet.topic = topic <;>
              simp [publishedOn, Occurrence.published?, here]

/-- Whatever task takes its turn, the tasks know what has happened. -/
theorem Follows.perform (follows : tasks.Follows frame topics past) (move : Move) :
    (tasks.perform move).2.Follows frame topics (past ++ (tasks.perform move).1) := by
  cases move with
  | call | order =>
      simpa [Tasks.perform] using { follows with }
  | handle now =>
      exact follows.handle now
  | resume position =>
      exact follows.resume position
  | dispatch =>
      exact follows.dispatch

/-! ## Single moves -/

/-- A packet is accepted if it comes from another frame and is for this one, or belongs to a
session that is known. -/
theorem accepts_iff (connector : Connector) (packet : Packet) :
    connector.accepts packet = true ↔
      packet.sender ≠ connector.frame ∧
        (packet.destination = some connector.frame ∨
          packet.destination = none ∧
            ∃ session, packet.session = some session ∧ connector.isMember session = true) := by
  unfold Connector.accepts
  by_cases own : packet.sender = connector.frame
  · simp [own]
  · cases destination : packet.destination with
    | some other =>
        simp [own]
    | none =>
        cases session : packet.session <;> simp [own]

/-- What a move shows is justified by what has happened before. -/
theorem Follows.justified
    (follows : tasks.Follows frame topics past) {move : Move} {before after : List Occurrence}
    {occurrence : Occurrence} (split : (tasks.perform move).1 = before ++ occurrence :: after) :
    Justified frame (past ++ before) occurrence := by
  have shown : occurrence ∈ (tasks.perform move).1 := by simp [split]
  have alone {only : Occurrence} (single : (tasks.perform move).1 = [only]) :
      before = [] ∧ occurrence = only := by
    rw [single] at split
    cases before with
    | nil =>
        exact ⟨rfl, (List.cons.inj split).1.symm⟩
    | cons first rest =>
        simp at split
  cases move with
  | call | order =>
      simp [Tasks.perform] at shown
  | handle now =>
      simp only [Tasks.perform, Tasks.handle] at shown
      cases queue : tasks.queue with
      | nil =>
          simp [queue] at shown
      | cons errand rest =>
          rw [queue] at shown
          rcases List.mem_append.mp shown with grant | push
          · rcases List.mem_map.mp grant with ⟨session, _, rfl⟩
            trivial
          · rcases List.mem_map.mp push with ⟨packet, _, rfl⟩
            trivial
  | resume position =>
      cases found : tasks.answers[position]? with
      | none =>
          simp [Tasks.perform, Tasks.resume, found] at shown
      | some answer =>
          rcases answer with ⟨call, reply⟩
          cases entered : call.entered? reply with
          | none =>
              simp [Tasks.perform, Tasks.resume, found, entered] at shown
          | some session =>
              have single : (tasks.perform (.resume position)).1 = [.recorded session] := by
                simp [Tasks.perform, Tasks.resume, found, entered]
              rcases alone single with ⟨rfl, rfl⟩
              rw [List.append_nil]
              exact follows.granted call reply session (List.mem_of_getElem? found) entered
  | dispatch =>
      cases inbox : tasks.inbox with
      | nil =>
          simp [Tasks.perform, Tasks.dispatch, inbox] at shown
      | cons packet rest =>
          have single : (tasks.perform .dispatch).1 =
              [.dispatched packet (tasks.connector.accepts packet)] := by
            simp [Tasks.perform, Tasks.dispatch, inbox]
          rcases alone single with ⟨rfl, rfl⟩
          simp only [Justified, accepts_iff, follows.frame, follows.memberships, List.append_nil,
            and_true]
          rw [follows.order, inbox, List.getElem?_append_right (by simp)]
          simp

/-! ## Runs -/

/-- Whatever the order in which the tasks take turns, they know what has happened, and everything
that happens is justified. -/
theorem Follows.run
    (follows : tasks.Follows frame topics past) (moves : List Move) :
    (tasks.afterMoves moves).Follows frame topics (past ++ tasks.log moves) ∧
      ∀ before occurrence after, tasks.log moves = before ++ occurrence :: after →
        Justified frame (past ++ before) occurrence := by
  induction moves generalizing tasks past with
  | nil =>
      refine ⟨by simpa [log, afterMoves] using follows, ?_⟩
      intro before occurrence after split
      simp [log] at split
  | cons move rest ih =>
      rcases ih (follows.perform move) with ⟨later, justified⟩
      rw [List.append_assoc] at later
      refine ⟨later, ?_⟩
      intro before occurrence after split
      rcases List.append_eq_append_iff.mp split with ⟨middle, here, there⟩ | ⟨middle, here, there⟩
      · rw [here, ← List.append_assoc]
        exact justified middle occurrence after there
      · cases middle with
        | nil =>
            rw [List.append_nil] at here
            have first := justified [] occurrence after there.symm
            rw [here, List.append_nil] at first
            exact first
        | cons first others =>
            rcases List.cons.inj there with ⟨rfl, _⟩
            exact follows.justified here

/-- A connector that opens receivers knows nothing else yet. -/
theorem listening
    (topics : List String) (connector : Connector) (router : connector.topics.Sound)
    (unclosed : connector.topics.closed = false) :
    let listener := topics.foldl (fun connector topic => (connector.receiver topic).2) connector
    connector.Stays listener ∧ listener.topics.closed = false ∧
      (∀ ticket entry, connector.topics.waiting? ticket = some entry →
        listener.topics.waiting? ticket = some entry) ∧
      ∀ number topic, topics[number]? = some topic →
        listener.topics.waiting? (connector.topics.next + number) = some (topic, []) := by
  induction topics generalizing connector with
  | nil =>
      exact ⟨.refl connector, unclosed, fun _ _ waits => waits, nofun⟩
  | cons first rest ih =>
      have opened : ∀ ticket, (connector.receiver first).2.topics.waiting? ticket =
          if ticket = connector.topics.next then some (first, [])
          else connector.topics.waiting? ticket :=
        TopicRouter.waiting?_subscribe router first
      have stays := connector.stays_receiver first
      rcases ih (connector.receiver first).2 (stays.router router) unclosed with
        ⟨further, isOpen, kept, later⟩
      refine ⟨⟨further.frame.trans stays.frame, further.binding.trans stays.binding,
        further.memberships.trans stays.memberships, fun _ => further.router (stays.router router)⟩,
        isOpen, ?_, ?_⟩
      · intro ticket entry waits
        apply kept
        have known := TopicRouter.lt_next_of_waiting? router waits
        rw [opened, if_neg (Nat.ne_of_lt known), waits]
      · intro number topic found
        cases number with
        | zero =>
            apply kept
            rw [opened, Nat.add_zero, if_pos rfl, Option.some.inj found]
        | succ number =>
            have next : (connector.receiver first).2.topics.next = connector.topics.next + 1 := rfl
            have waits := later number topic found
            rwa [next, Nat.add_assoc, Nat.add_comm 1] at waits

theorem follows_start (frame : FrameId) (topics : List String) (board : Switchboard) :
    (start frame topics board).Follows frame topics [] := by
  rcases listening topics (.attached frame) TopicRouter.sound_empty rfl with
    ⟨stays, unclosed, _, waiting⟩
  constructor
  · exact stays.frame
  · exact stays.router TopicRouter.sound_empty
  · exact unclosed
  · intro session
    have memberships : (start frame topics board).connector.memberships = [] := stays.memberships
    simp [Connector.isMember, memberships]
  · intro call reply session inside
    exact absurd inside List.not_mem_nil
  · rfl
  · intro ticket topic opened
    have waits := waiting ticket topic opened
    rwa [show (Connector.attached frame).topics.next = 0 from rfl, Nat.zero_add] at waits

/--
What becomes of packets, in whatever order the tasks take turns.  Packets are dispatched in the
order in which they were pushed.  One of another frame is published exactly if it is sent to this
frame, or is a broadcast of a session that had been recorded by then; and a session is recorded
only after the switchboard has let the frame in.  A receiver gets what is published on its topic.
-/
theorem published_iff_recorded
    (frame : FrameId) (topics : List String) (board : Switchboard) (moves : List Move) :
    ((start frame topics board).log moves).filterMap Occurrence.pushed? =
        (((start frame topics board).log moves).filterMap Occurrence.dispatched?).map (·.1) ++
          ((start frame topics board).afterMoves moves).inbox ∧
      (∀ past occurrence future,
        (start frame topics board).log moves = past ++ occurrence :: future →
          Justified frame past occurrence) ∧
      ∀ ticket topic, topics[ticket]? = some topic →
        (((start frame topics board).afterMoves moves).connector.topics.drain ticket).1 =
          publishedOn ((start frame topics board).log moves) topic := by
  rcases (follows_start frame topics board).run moves with ⟨follows, justified⟩
  rw [List.nil_append] at follows
  refine ⟨follows.order, ?_, ?_⟩
  · intro past occurrence future split
    exact justified past occurrence future split
  · intro ticket topic opened
    exact TopicRouter.drain_of_waiting? (follows.waiting ticket topic opened)

/-! ## Broadcasts that may be lost -/

/-- No broadcast that is pushed after the switchboard has let the frame into its session is
dropped. -/
def KeepsBroadcasts (frame : FrameId) (log : List Occurrence) : Prop :=
  ∀ past packet future session, log = past ++ .pushed packet :: future →
    .granted session ∈ past → packet.session = some session → packet.destination = none →
      packet.sender ≠ frame →
        ∀ outcome, (log.filterMap Occurrence.dispatched?)[
            (past.filterMap Occurrence.pushed?).length]? = some outcome → outcome = (packet, true)

/-- Every call resumes before the next packet is dispatched, once the switchboard has let the frame
in. -/
def Prompt (log : List Occurrence) : Prop :=
  ∀ past packet published future session, log = past ++ .dispatched packet published :: future →
    .granted session ∈ past → .recorded session ∈ past

/-- An entry that a list shows is at some place in it, after those that it shows before. -/
theorem exists_of_getElem?_filterMap
    {α β : Type} {view : α → Option β} {list : List α} {number : Nat} {shown : β}
    (found : (list.filterMap view)[number]? = some shown) :
    ∃ past entry future, list = past ++ entry :: future ∧ view entry = some shown ∧
      (past.filterMap view).length = number := by
  induction list generalizing number with
  | nil =>
      simp at found
  | cons first rest ih =>
      cases seen : view first with
      | none =>
          rw [List.filterMap_cons_none seen] at found
          rcases ih found with ⟨past, entry, future, rfl, same, count⟩
          exact ⟨first :: past, entry, future, rfl, same, by simpa [seen] using count⟩
      | some other =>
          rw [List.filterMap_cons_some seen] at found
          cases number with
          | zero =>
              exact ⟨[], first, rest, rfl, seen.trans found, rfl⟩
          | succ number =>
              rcases ih found with ⟨past, entry, future, rfl, same, count⟩
              exact ⟨first :: past, entry, future, rfl, same, by simpa [seen] using count⟩

/-- Nothing is lost if calls resume promptly: only a packet that is dispatched between the answer
and the resumption of a call can be. -/
theorem keepsBroadcasts_of_prompt
    (frame : FrameId) (topics : List String) (board : Switchboard) (moves : List Move)
    (prompt : Prompt ((start frame topics board).log moves)) :
    KeepsBroadcasts frame ((start frame topics board).log moves) := by
  rcases (follows_start frame topics board).run moves with ⟨_, justified⟩
  intro past packet future session pushed granted inSession broadcast foreign outcome taken
  rcases exists_of_getElem?_filterMap taken with ⟨before, occurrence, after, split, same, count⟩
  rcases outcome with ⟨other, published⟩
  obtain rfl : occurrence = .dispatched other published := by
    cases occurrence with
    | dispatched =>
        cases same
        rfl
    | granted | pushed | recorded =>
        cases same
  rcases justified before _ after split with ⟨turn, verdict⟩
  rw [List.nil_append, count] at turn
  have earlier : (past.filterMap Occurrence.pushed?).length <
      (before.filterMap Occurrence.pushed?).length := (List.getElem?_eq_some_iff.mp turn).1
  rcases List.append_eq_append_iff.mp (pushed.symm.trans split) with ⟨middle, rfl, there⟩ |
    ⟨middle, rfl, _⟩
  · -- The packet is dispatched after it was pushed, so it is the one that is next in turn.
    cases middle with
    | nil =>
        simp at earlier
    | cons first rest =>
        rcases List.cons.inj there with ⟨rfl, _⟩
        rw [List.filterMap_append, List.getElem?_append_right (Nat.le_refl _), Nat.sub_self] at turn
        obtain rfl : packet = other := Option.some.inj turn
        have granted : .granted session ∈ past ++ .pushed packet :: rest :=
          List.mem_append_left _ granted
        have recorded := prompt _ packet published after session split granted
        have accepted : published = true :=
          verdict.mpr ⟨foreign, .inr ⟨broadcast, session, inSession, recorded⟩⟩
        rw [accepted]
  · rw [List.filterMap_append, List.length_append] at earlier
    omega

/-- A broadcast that follows the answer to a wish to join is lost if it is dispatched before the
call resumes. -/
theorem broadcast_overtakes_answer :
    let news := Packet.ofSession "news" (Json.toValue .null) ⟨1⟩ ⟨"plan"⟩
    let moves : List Move :=
      [.order .register, .order .register, .order (.claim ⟨1⟩ ⟨"plan"⟩),
        .handle .epoch, .handle .epoch, .handle .epoch,
        .call (.join ⟨"plan"⟩ "guest"), .order (.deliver .broadcast news),
        .handle .epoch, .handle .epoch, .dispatch, .resume 0]
    ¬ KeepsBroadcasts ⟨2⟩ ((start ⟨2⟩ ["news"] (.empty ⟨2, 1⟩)).log moves) := by
  intro news moves keeps
  have shown : (start ⟨2⟩ ["news"] (.empty ⟨2, 1⟩)).log moves =
      [.granted ⟨"plan"⟩, .pushed news, .dispatched news false, .recorded ⟨"plan"⟩] := by
    decide
  rw [shown] at keeps
  have kept := keeps [.granted ⟨"plan"⟩] news [.dispatched news false, .recorded ⟨"plan"⟩]
    ⟨"plan"⟩ rfl (List.mem_singleton_self _) rfl rfl (by decide) (news, false) rfl
  cases kept

end Tasks

end SessionBus
