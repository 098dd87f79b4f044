import SessionBus.Proofs.Transport.Link

/-!
# Calls in flight

Many calls may be under way at a link.  A call takes a number, lists itself among the calls that
wait, queues its line, and waits for its result; when its line cannot be queued it withdraws.
Between any two of these steps other calls take theirs, the reader hears lines from the hub, and the
stream may end.

Whatever comes when, a call gets the first reply with its number that is heard after it was listed,
or else learns that the stream has ended, and no line settles another call.
-/

namespace SessionBus

/-- Results are compared as what they are made of. -/
instance decidableEqResult {ε α : Type} [DecidableEq ε] [DecidableEq α] :
    DecidableEq (Except ε α)
  | .ok a, .ok b => decidable_of_iff (a = b) ⟨congrArg Except.ok, Except.ok.inj⟩
  | .error a, .error b => decidable_of_iff (a = b) ⟨congrArg Except.error, Except.error.inj⟩
  | .ok _, .error _ | .error _, .ok _ => isFalse nofun

/-- How far a call has come.  A call that is listed may have been given its result already. -/
inductive CallStage where
  | numbered
  | listed (given? : Option (Except TransportError CallResult))
  | refused (error : TransportError) (given? : Option (Except TransportError CallResult))
  | queued (given? : Option (Except TransportError CallResult))
  | ended (result : Except TransportError CallResult)
deriving DecidableEq

/-- A call that is under way. -/
structure Caller where
  id : UInt64
  what : Call
  stage : CallStage
deriving DecidableEq

/-- A link with the calls under way, the lines that were queued for the hub, and the packets that
were passed on. -/
structure SharedLink where
  link : SocketLink
  callers : List Caller
  lines : List String
  packets : List Packet

namespace SocketLink

/-- Lists a call among those that wait. -/
def enlist (link : SocketLink) (id : UInt64) (call : Call) : SocketLink :=
  { link with waiting := link.waiting.filter (fun entry => entry.1 != id) ++ [(id, call)] }

/-- Strikes a call off the list. -/
def strike (link : SocketLink) (id : UInt64) : SocketLink :=
  { link with waiting := link.waiting.filter fun entry => entry.1 != id }

end SocketLink

/-! ## Steps -/

namespace CallStage

/-- Whether the call is listed and has not been given its result. -/
def isWaiting : CallStage → Bool
  | .listed none | .refused _ none | .queued none => true
  | _ => false

/-- A result reaches a call that is listed, unless it has been given one already. -/
def give (result? : Option (Except TransportError CallResult)) : CallStage → CallStage
  | .listed given? => .listed (given?.or result?)
  | .refused error given? => .refused error (given?.or result?)
  | .queued given? => .queued (given?.or result?)
  | stage => stage

end CallStage

def Caller.give (caller : Caller) (result? : Option (Except TransportError CallResult)) : Caller :=
  { caller with stage := caller.stage.give result? }

namespace SharedLink

/-- What happens at a link: a step of the call with some index, or of the reader or the writer. -/
inductive Move where
  | number (what : Call)
  | enlist (index : Nat)
  | queue (index : Nat)
  | withdraw (index : Nat)
  | resume (index : Nat)
  | hear (line : String)
  | finish
  | stopWriting
deriving DecidableEq

def Move.isNumber : Move → Bool
  | .number _ => true
  | _ => false

def attached (frame : FrameId) : SharedLink :=
  ⟨.attached frame, [], [], []⟩

/-- Passes on what the reader has taken. -/
def follow (shared : SharedLink) : LinkOutput → SharedLink
  | .packet packet => { shared with packets := shared.packets ++ [packet] }
  | .completed id result =>
      { shared with
        callers := shared.callers.map fun caller =>
          if caller.id = id then caller.give (some result) else caller }
  | .nothing => shared

/-- A step that its call cannot take yet, or has taken, changes nothing. -/
def perform (shared : SharedLink) : Move → SharedLink
  | .number what =>
      let id := shared.link.nextRequest
      { shared with
        link := { shared.link with nextRequest := id + 1 }
        callers := shared.callers ++ [⟨id, what, .numbered⟩] }
  | .enlist index =>
      match shared.callers[index]? with
      | some ⟨id, what, .numbered⟩ =>
          if shared.link.reading then
            { shared with
              link := shared.link.enlist id what
              callers := shared.callers.set index ⟨id, what, .listed none⟩ }
          else
            { shared with
              callers := shared.callers.set index ⟨id, what, .ended (.error .disconnected)⟩ }
      | _ => shared
  | .queue index =>
      match shared.callers[index]? with
      | some ⟨id, what, .listed given?⟩ =>
          match shared.link.lineFor (what.request id) with
          | .ok line =>
              { shared with
                callers := shared.callers.set index ⟨id, what, .queued given?⟩
                lines := shared.lines ++ [line] }
          | .error error =>
              { shared with
                callers := shared.callers.set index ⟨id, what, .refused error given?⟩ }
      | _ => shared
  | .withdraw index =>
      match shared.callers[index]? with
      | some ⟨id, what, .refused error _⟩ =>
          { shared with
            link := shared.link.strike id
            callers := shared.callers.set index ⟨id, what, .ended (.error error)⟩ }
      | _ => shared
  | .resume index =>
      match shared.callers[index]? with
      | some ⟨id, what, .queued (some result)⟩ =>
          { shared with callers := shared.callers.set index ⟨id, what, .ended result⟩ }
      | _ => shared
  | .hear line =>
      { shared with link := (shared.link.takeLine line).2 }.follow (shared.link.takeLine line).1
  | .finish =>
      shared.link.endOfStream.1.foldl follow { shared with link := shared.link.endOfStream.2 }
  | .stopWriting =>
      { shared with link := { shared.link with writing := false } }

def afterAll (shared : SharedLink) : List Move → SharedLink
  | [] => shared
  | move :: rest => (shared.perform move).afterAll rest

/-- The steps that a call takes by itself. -/
def ownMoves (index : Nat) : List Move :=
  [.enlist index, .queue index, .withdraw index, .resume index]

/-- A call that has ended takes no more steps. -/
theorem perform_of_ended
    {shared : SharedLink} {index : Nat} {id : UInt64} {what : Call}
    {result : Except TransportError CallResult}
    (here : shared.callers[index]? = some ⟨id, what, .ended result⟩) {move : Move}
    (owned : move ∈ ownMoves index) : shared.perform move = shared := by
  simp only [ownMoves, List.mem_cons, List.not_mem_nil, or_false] at owned
  rcases owned with rfl | rfl | rfl | rfl <;> simp only [perform, here]

/-- A call that takes its steps one after the other, up to waiting, is started at once. -/
theorem start_eq
    (shared : SharedLink) (what : Call)
    (fresh : ∀ entry ∈ shared.link.waiting, entry.1 ≠ shared.link.nextRequest) :
    let started := shared.link.start what
    shared.afterAll (.number what :: ownMoves shared.callers.length) =
      ⟨started.2.2,
        shared.callers ++
          [⟨started.1, what,
            match started.2.1 with
            | .ok _ => .queued none
            | .error error => .ended (.error error)⟩],
        shared.lines ++ started.2.1.toOption.toList,
        shared.packets⟩ := by
  rcases shared with ⟨⟨frame, id, waiting, reading, writing⟩, callers, lines, packets⟩
  have unlisted : waiting.filter (fun entry => entry.1 != id) = waiting :=
    List.filter_eq_self.mpr fun entry inside => by simpa using fresh entry inside
  let new (waiting : List (UInt64 × Call)) (stage : CallStage) (lines : List String) : SharedLink :=
    ⟨⟨frame, id + 1, waiting, reading, writing⟩, callers ++ [⟨id, what, stage⟩], lines, packets⟩
  have ended (waiting : List (UInt64 × Call)) (result : Except TransportError CallResult)
      (lines : List String) : (new waiting (.ended result) lines).callers[callers.length]? =
        some ⟨id, what, .ended result⟩ := by
    simp [new]
  simp only [afterAll, ownMoves]
  rw [show SharedLink.perform _ (.number what) = new waiting .numbered lines from rfl]
  cases reading with
  | false =>
      have listed : (new waiting .numbered lines).perform (.enlist callers.length) =
          new waiting (.ended (.error .disconnected)) lines := by
        simp [new, perform]
      rw [listed, perform_of_ended (ended _ _ _) (by simp [ownMoves]),
        perform_of_ended (ended _ _ _) (by simp [ownMoves]),
        perform_of_ended (ended _ _ _) (by simp [ownMoves])]
      simp [SocketLink.start, new, Except.toOption]
  | true =>
      have listed : (new waiting .numbered lines).perform (.enlist callers.length) =
          new (waiting ++ [(id, what)]) (.listed none) lines := by
        simp [new, perform, SocketLink.enlist, unlisted]
      rw [listed]
      cases written : (SocketLink.mk frame (id + 1) waiting true writing).lineFor
          (what.request id) with
      | ok line =>
          have same : (SocketLink.mk frame (id + 1) (waiting ++ [(id, what)]) true writing).lineFor
              (what.request id) = .ok line := written
          have queued : (new (waiting ++ [(id, what)]) (.listed none) lines).perform
                (.queue callers.length) =
              new (waiting ++ [(id, what)]) (.queued none) (lines ++ [line]) := by
            simp [new, perform, same]
          rw [queued]
          simp [new, perform, SocketLink.start, written, unlisted, Except.toOption]
      | error error =>
          have same : (SocketLink.mk frame (id + 1) (waiting ++ [(id, what)]) true writing).lineFor
              (what.request id) = .error error := written
          have refused : (new (waiting ++ [(id, what)]) (.listed none) lines).perform
                (.queue callers.length) =
              new (waiting ++ [(id, what)]) (.refused error none) lines := by
            simp [new, perform, same]
          have withdrawn : (new (waiting ++ [(id, what)]) (.refused error none) lines).perform
                (.withdraw callers.length) =
              new waiting (.ended (.error error)) lines := by
            simp [new, perform, SocketLink.strike, unlisted]
          rw [refused, withdrawn, perform_of_ended (ended _ _ _) (by simp [ownMoves])]
          simp [SocketLink.start, new, written, Except.toOption]

end SharedLink

/-! ## What lines are -/

namespace Line

/-- The reply to a request that a line is. -/
def replyTo? (id : UInt64) (line : String) : Option HubMessage :=
  match parseHub line with
  | .ok message => if message.request? = some id then some message else none
  | .error _ => none

/-- The packet that a line hands over. -/
def packet? (line : String) : Option Packet :=
  match parseHub line with
  | .ok (.deliver packet) => some packet
  | _ => none

/-- A line is a reply to one request at most. -/
theorem replyTo?_unique
    {line : String} {id other : UInt64} {message reply : HubMessage}
    (first : replyTo? id line = some message) (second : replyTo? other line = some reply) :
    id = other := by
  unfold replyTo? at first second
  cases read : parseHub line with
  | error error =>
      simp [read] at first
  | ok content =>
      simp only [read, Option.ite_none_right_eq_some] at first second
      exact Option.some.inj (first.1.symm.trans second.1)

theorem replyTo?_of_ne
    {line : String} {id other : UInt64} {message : HubMessage}
    (reply : replyTo? id line = some message) (different : other ≠ id) :
    replyTo? other line = none := by
  rw [Option.eq_none_iff_forall_ne_some]
  intro answer answered
  exact different (replyTo?_unique answered reply)

end Line

namespace SocketLink

variable {link : SocketLink}

theorem mem_waiting_enlist {id : UInt64} {call : Call} {entry : UInt64 × Call} :
    entry ∈ (link.enlist id call).waiting ↔
      entry ∈ link.waiting ∧ entry.1 ≠ id ∨ entry = (id, call) := by
  simp [enlist]

theorem mem_waiting_strike {id : UInt64} {entry : UInt64 × Call} :
    entry ∈ (link.strike id).waiting ↔ entry ∈ link.waiting ∧ entry.1 ≠ id := by
  simp [strike]

theorem take_of_request
    {message : HubMessage} {id : UInt64} (request : message.request? = some id) :
    link.take message =
      match link.waiting.lookup id with
      | some call => (.completed id (call.resultOf message), link.strike id)
      | none => (.nothing, link) := by
  cases found : link.waiting.lookup id with
  | none | some =>
      cases message <;> cases request <;> simp [take, HubMessage.request?, found, strike]

/-- A line that is read hands over a packet, completes a call that waits, or changes nothing. -/
theorem takeLine_cases (reading : link.reading = true) (line : String) :
    (∃ packet, Line.packet? line = some packet ∧ link.takeLine line = (.packet packet, link) ∧
        ∀ id, Line.replyTo? id line = none) ∨
      Line.packet? line = none ∧
        ((∃ id call message, link.waiting.lookup id = some call ∧
            Line.replyTo? id line = some message ∧
            link.takeLine line = (.completed id (call.resultOf message), link.strike id)) ∨
          link.takeLine line = (.nothing, link) ∧
            ∀ id message,
              Line.replyTo? id line = some message → link.waiting.lookup id = none) := by
  simp only [takeLine, reading, if_true, Line.packet?, Line.replyTo?]
  cases Line.parseHub line with
  | error error =>
      exact .inr ⟨rfl, .inr ⟨rfl, by simp⟩⟩
  | ok message =>
      cases request : message.request? with
      | none =>
          cases message with
          | deliver packet =>
              exact .inl ⟨packet, rfl, rfl, fun id => by simp [request]⟩
          | connected | rejected | pong =>
              exact .inr ⟨rfl, .inr ⟨rfl, by simp [request]⟩⟩
          | sessionClaimed | sessionJoined | sessionDescribed =>
              cases request
          | error =>
              cases request
              exact .inr ⟨rfl, .inr ⟨rfl, by simp [HubMessage.request?]⟩⟩
      | some id =>
          have plain : ∀ packet, message ≠ .deliver packet := by
            rintro packet rfl
            cases request
          refine .inr ⟨by simp [plain], ?_⟩
          simp only [take_of_request request]
          cases found : link.waiting.lookup id with
          | some call =>
              exact .inl ⟨id, call, message, found, if_pos request, rfl⟩
          | none =>
              refine .inr ⟨rfl, fun other reply replied => ?_⟩
              simp only [request, Option.ite_none_right_eq_some] at replied
              rw [← Option.some.inj replied.1]
              exact found

end SocketLink

/-! ## One call -/

namespace CallStage

def enlist (reading : Bool) : CallStage → CallStage
  | .numbered => if reading then .listed none else .ended (.error .disconnected)
  | stage => stage

def queue (line : Except TransportError String) : CallStage → CallStage
  | .listed given? =>
      match line with
      | .ok _ => .queued given?
      | .error error => .refused error given?
  | stage => stage

def withdraw : CallStage → CallStage
  | .refused error _ => .ended (.error error)
  | stage => stage

def resume : CallStage → CallStage
  | .queued (some result) => .ended result
  | stage => stage

@[simp]
theorem give_none (stage : CallStage) : stage.give none = stage := by
  cases stage <;> simp [give]

/-- Nothing is given to a call that does not wait. -/
theorem give_of_not_isWaiting
    {stage : CallStage} (settled : stage.isWaiting = false)
    (result? : Option (Except TransportError CallResult)) : stage.give result? = stage := by
  cases stage with
  | numbered | ended =>
      rfl
  | listed given? | refused _ given? | queued given? =>
      cases given? with
      | none =>
          cases settled
      | some =>
          rfl

/-- The first result that is given to a call stays. -/
theorem give_give
    (stage : CallStage) (first second : Option (Except TransportError CallResult)) :
    (stage.give first).give second = stage.give (first.or second) := by
  cases stage <;> simp [give, Option.or_assoc]

theorem isWaiting_give_some (stage : CallStage) (result : Except TransportError CallResult) :
    (stage.give (some result)).isWaiting = false := by
  cases stage with
  | numbered | ended =>
      rfl
  | listed given? | refused _ given? | queued given? =>
      cases given? <;> rfl

/-- A call that does not wait, and is not listed any more if it has only a number, has ended once it
has taken its steps. -/
theorem ended_of_settled
    {stage : CallStage} (settled : stage.isWaiting = false)
    (line : Except TransportError String) :
    ∃ result, (((stage.enlist false).queue line).withdraw).resume = .ended result := by
  cases stage with
  | numbered | ended =>
      exact ⟨_, rfl⟩
  | listed given? =>
      cases given? with
      | none =>
          cases settled
      | some result =>
          cases line <;> exact ⟨_, rfl⟩
  | refused error given? =>
      exact ⟨_, rfl⟩
  | queued given? =>
      cases given? with
      | none =>
          cases settled
      | some result =>
          exact ⟨_, rfl⟩

end CallStage

namespace Caller

/-- What a move makes of the call with some index. -/
def next (caller : Caller) (link : SocketLink) (index : Nat) : SharedLink.Move → Caller
  | .number _ | .stopWriting => caller
  | .enlist own =>
      if own = index then { caller with stage := caller.stage.enlist link.reading } else caller
  | .queue own =>
      if own = index then
        { caller with stage := caller.stage.queue (link.lineFor (caller.what.request caller.id)) }
      else caller
  | .withdraw own =>
      if own = index then { caller with stage := caller.stage.withdraw } else caller
  | .resume own =>
      if own = index then { caller with stage := caller.stage.resume } else caller
  | .hear line => caller.give ((Line.replyTo? caller.id line).map caller.what.resultOf)
  | .finish => caller.give (some (.error .disconnected))

/-- A call keeps its number and what it asks. -/
theorem next_kept
    (caller : Caller) (link : SocketLink) (index : Nat) (move : SharedLink.Move) :
    (caller.next link index move).id = caller.id ∧
      (caller.next link index move).what = caller.what := by
  cases move with
  | number | stopWriting | hear | finish =>
      exact ⟨rfl, rfl⟩
  | enlist | queue | withdraw | resume =>
      simp only [next]
      split <;> exact ⟨rfl, rfl⟩

end Caller

namespace SharedLink

variable {shared : SharedLink}

/-- The calls of a link are numbered one by one from one, those that wait are listed and no others,
and when the stream has ended none waits. -/
structure Sound (shared : SharedLink) : Prop where
  numbers :
    ∀ (index : Nat) (caller : Caller),
      shared.callers[index]? = some caller → caller.id = UInt64.ofNat (index + 1)
  next : shared.link.nextRequest = UInt64.ofNat (shared.callers.length + 1)
  owned :
    ∀ entry ∈ shared.link.waiting, ∃ caller ∈ shared.callers, entry = (caller.id, caller.what)
  listed :
    ∀ caller ∈ shared.callers,
      (caller.id, caller.what) ∈ shared.link.waiting ↔ caller.stage.isWaiting = true
  finished : shared.link.reading = false → shared.link.waiting = []

theorem sound_attached (frame : FrameId) : (attached frame).Sound where
  numbers := by simp [attached]
  next := rfl
  owned := by simp [attached, SocketLink.attached]
  listed := by simp [attached]
  finished := fun _ => rfl

/-- Calls with the same number are the same. -/
theorem Sound.unique
    (sound : shared.Sound) (few : shared.callers.length < UInt64.size)
    {first second : Caller} {index other : Nat}
    (here : shared.callers[index]? = some first) (there : shared.callers[other]? = some second)
    (same : first.id = second.id) : index = other := by
  rw [sound.numbers index first here, sound.numbers other second there] at same
  rcases List.getElem?_eq_some_iff.mp here with ⟨inside, _⟩
  rcases List.getElem?_eq_some_iff.mp there with ⟨within, _⟩
  have numbers := congrArg UInt64.toNat same
  rw [UInt64.toNat_ofNat_of_lt' (by omega), UInt64.toNat_ofNat_of_lt' (by omega)] at numbers
  omega

/-- Under the number of a call nothing but the call is listed. -/
theorem Sound.mem_waiting_iff
    (sound : shared.Sound) (few : shared.callers.length < UInt64.size)
    {caller : Caller} (inside : caller ∈ shared.callers) (what : Call) :
    (caller.id, what) ∈ shared.link.waiting ↔
      what = caller.what ∧ caller.stage.isWaiting = true := by
  constructor
  · intro listed
    rcases sound.owned _ listed with ⟨owner, owns, same⟩
    rcases Prod.mk.inj same with ⟨id, rfl⟩
    rcases List.mem_iff_getElem?.mp inside with ⟨index, here⟩
    rcases List.mem_iff_getElem?.mp owns with ⟨other, there⟩
    obtain rfl := sound.unique few here there id
    obtain rfl : caller = owner := Option.some.inj (here.symm.trans there)
    exact ⟨rfl, (sound.listed caller inside).mp listed⟩
  · rintro ⟨rfl, waits⟩
    exact (sound.listed caller inside).mpr waits

theorem Sound.lookup
    (sound : shared.Sound) (few : shared.callers.length < UInt64.size)
    {caller : Caller} (inside : caller ∈ shared.callers) :
    shared.link.waiting.lookup caller.id =
      if caller.stage.isWaiting then some caller.what else none := by
  cases found : shared.link.waiting.lookup caller.id with
  | none =>
      rw [if_neg]
      intro waits
      have absent := List.lookup_eq_none_iff.mp found _ ((sound.listed caller inside).mpr waits)
      simp at absent
  | some what =>
      rcases List.lookup_eq_some_iff.mp found with ⟨before, behind, split, _⟩
      have listed : (caller.id, what) ∈ shared.link.waiting := by
        simp [split]
      rcases (sound.mem_waiting_iff few inside what).mp listed with ⟨rfl, waits⟩
      rw [if_pos waits]

theorem Sound.give_of_unlisted
    (sound : shared.Sound) (few : shared.callers.length < UInt64.size)
    {caller : Caller} (inside : caller ∈ shared.callers)
    (unlisted : shared.link.waiting.lookup caller.id = none)
    (result? : Option (Except TransportError CallResult)) : caller.give result? = caller := by
  have settled : caller.stage.isWaiting = false := by
    rw [sound.lookup few inside] at unlisted
    simpa using unlisted
  rw [Caller.give, CallStage.give_of_not_isWaiting settled]

/-- At the end of the stream the calls that wait are given the same result. -/
theorem follow_completed
    (waiting : List (UInt64 × Call)) (result : Except TransportError CallResult)
    (shared : SharedLink) :
    (waiting.map fun (id, _) => LinkOutput.completed id result).foldl follow shared =
      { shared with
        callers := shared.callers.map fun caller =>
          if (waiting.lookup caller.id).isSome then caller.give (some result) else caller } := by
  induction waiting generalizing shared with
  | nil =>
      simp
  | cons entry rest ih =>
      rcases entry with ⟨id, call⟩
      rw [List.map_cons, List.foldl_cons, ih]
      simp only [follow, List.map_map]
      congr 1
      apply List.map_congr_left
      intro caller _
      by_cases own : caller.id = id
      · subst own
        simp [Caller.give, CallStage.give_give]
      · have skipped : (caller.id == id) = false := by
          simpa using own
        rw [Function.comp_apply, if_neg own, List.lookup_cons, skipped]

/-- What the steps of a call leave as it is. -/
structure Spares (index : Nat) (before after : SharedLink) : Prop where
  others :
    ∀ other : Nat, index ≠ other → after.callers[other]? = before.callers[other]?
  length : after.callers.length = before.callers.length
  next : after.link.nextRequest = before.link.nextRequest
  reading : after.link.reading = before.link.reading
  packets : after.packets = before.packets

theorem Spares.refl (index : Nat) (shared : SharedLink) : Spares index shared shared :=
  ⟨fun _ _ => rfl, rfl, rfl, rfl, rfl⟩

theorem Spares.of_set
    {shared : SharedLink} {link : SocketLink} (next : link.nextRequest = shared.link.nextRequest)
    (reading : link.reading = shared.link.reading) (index : Nat) (caller : Caller)
    (lines : List String) :
    Spares index shared ⟨link, shared.callers.set index caller, lines, shared.packets⟩ :=
  ⟨fun _ other => List.getElem?_set_ne other, List.length_set, next, reading, rfl⟩

theorem spares_perform
    (shared : SharedLink) (index : Nat) {move : Move} (owned : move ∈ ownMoves index) :
    Spares index shared (shared.perform move) := by
  simp only [ownMoves, List.mem_cons, List.not_mem_nil, or_false] at owned
  rcases owned with rfl | rfl | rfl | rfl
  · simp only [perform]
    split
    · split <;> exact .of_set (by rfl) (by rfl) ..
    · exact .refl index shared
  · simp only [perform]
    split
    · split <;> exact .of_set (by rfl) (by rfl) ..
    · exact .refl index shared
  · simp only [perform]
    split
    · exact .of_set (by rfl) (by rfl) ..
    · exact .refl index shared
  · simp only [perform]
    split
    · exact .of_set (by rfl) (by rfl) ..
    · exact .refl index shared

/-- A call takes its steps as it would if there were no other calls. -/
theorem caller_perform_own
    {index : Nat} {caller : Caller} (here : shared.callers[index]? = some caller) (move : Move)
    (owned : move ∈ ownMoves index) :
    (shared.perform move).callers[index]? = some (caller.next shared.link index move) := by
  rcases List.getElem?_eq_some_iff.mp here with ⟨inside, _⟩
  have set (changed : Caller) : (shared.callers.set index changed)[index]? = some changed :=
    List.getElem?_set_self inside
  rcases caller with ⟨id, what, stage⟩
  simp only [ownMoves, List.mem_cons, List.not_mem_nil, or_false] at owned
  rcases owned with rfl | rfl | rfl | rfl
  · simp only [perform, here, Caller.next, if_true]
    cases stage with
    | numbered =>
        cases reading : shared.link.reading <;> exact set _
    | listed | refused | queued | ended =>
        exact here
  · simp only [perform, here, Caller.next, if_true]
    cases stage with
    | listed given? =>
        cases written : shared.link.lineFor (what.request id) <;>
          simp [set, written, CallStage.queue]
    | numbered | refused | queued | ended =>
        exact here
  · simp only [perform, here, Caller.next, if_true]
    cases stage with
    | refused error given? =>
        exact set _
    | numbered | listed | queued | ended =>
        exact here
  · simp only [perform, here, Caller.next, if_true]
    cases stage with
    | queued given? =>
        cases given? with
        | none =>
            exact here
        | some result =>
            exact set _
    | numbered | listed | refused | ended =>
        exact here

/-- A line reaches a call as if there were no other calls. -/
theorem Sound.caller_hear
    (sound : shared.Sound) (few : shared.callers.length < UInt64.size)
    {index : Nat} {caller : Caller} (here : shared.callers[index]? = some caller) (line : String) :
    (shared.perform (.hear line)).callers[index]? =
      some (caller.next shared.link index (.hear line)) := by
  have member : caller ∈ shared.callers := List.mem_iff_getElem?.mpr ⟨index, here⟩
  have unlisted : shared.link.waiting.lookup caller.id = none →
      caller.next shared.link index (.hear line) = caller :=
    fun absent => sound.give_of_unlisted few member absent _
  cases reading : shared.link.reading with
  | false =>
      have same : shared.link.takeLine line = (.nothing, shared.link) := by
        simp [SocketLink.takeLine, reading]
      rw [unlisted (by simp [sound.finished reading])]
      simp [perform, same, follow, here]
  | true =>
      rcases SocketLink.takeLine_cases reading line with
        ⟨_, _, taken, other⟩ | ⟨_, ⟨id, call, message, found, reply, taken⟩ | ⟨taken, idle⟩⟩
      · simp [perform, taken, follow, here, Caller.next, other, Caller.give]
      · have given : (shared.perform (.hear line)).callers[index]? =
            some (if caller.id = id then caller.give (some (call.resultOf message))
              else caller) := by
          simp [perform, taken, follow, here]
        rw [given]
        by_cases own : caller.id = id
        · subst own
          have waits := sound.lookup few member
          rw [found] at waits
          obtain rfl : call = caller.what := by
            simp only [Option.some_eq_ite_none_right, Option.some.injEq] at waits
            exact waits.2
          simp [Caller.next, reply]
        · have other := Line.replyTo?_of_ne reply own
          simp [own, Caller.next, other, Caller.give]
      · have same : (shared.perform (.hear line)).callers[index]? = some caller := by
          simp [perform, taken, follow, here]
        rw [same]
        cases reply : Line.replyTo? caller.id line with
        | none =>
            simp [Caller.next, reply, Caller.give]
        | some message =>
            rw [unlisted (idle _ _ reply)]

/-- A move makes of a call what it would make of it if there were no other calls. -/
theorem Sound.caller_perform
    (sound : shared.Sound) (few : shared.callers.length < UInt64.size)
    {index : Nat} {caller : Caller} (here : shared.callers[index]? = some caller) (move : Move) :
    (shared.perform move).callers[index]? = some (caller.next shared.link index move) := by
  cases move with
  | number what =>
      rcases List.getElem?_eq_some_iff.mp here with ⟨inside, _⟩
      exact (List.getElem?_append_left inside).trans here
  | stopWriting =>
      exact here
  | enlist own | queue own | withdraw own | resume own =>
      by_cases same : own = index
      · subst same
        exact caller_perform_own here _ (by simp [ownMoves])
      · rw [(shared.spares_perform own (by simp [ownMoves])).others index same, here, Caller.next,
          if_neg same]
  | hear line =>
      exact sound.caller_hear few here line
  | finish =>
      have member : caller ∈ shared.callers := List.mem_iff_getElem?.mpr ⟨index, here⟩
      have given : (shared.perform .finish).callers[index]? =
          some (if (shared.link.waiting.lookup caller.id).isSome then
            caller.give (some (.error .disconnected)) else caller) := by
        simp [perform, SocketLink.endOfStream, follow_completed, here]
      rw [given, Caller.next]
      cases found : shared.link.waiting.lookup caller.id with
      | none =>
          rw [sound.give_of_unlisted few member found]
          rfl
      | some =>
          rfl

theorem length_perform (shared : SharedLink) (move : Move) :
    (shared.perform move).callers.length =
      shared.callers.length + if move.isNumber then 1 else 0 := by
  cases move with
  | number what =>
      simp [perform, Move.isNumber]
  | stopWriting =>
      rfl
  | enlist own | queue own | withdraw own | resume own =>
      exact (shared.spares_perform own (by simp [ownMoves])).length
  | hear line =>
      simp only [perform]
      cases (shared.link.takeLine line).1 <;> simp [follow, Move.isNumber]
  | finish =>
      simp [perform, SocketLink.endOfStream, follow_completed, Move.isNumber]

/-- A move that leaves the calls with their numbers keeps a link sound if those that wait afterwards
are listed. -/
theorem Sound.perform_of_listed
    (sound : shared.Sound) (few : shared.callers.length < UInt64.size) {move : Move}
    (plain : move.isNumber = false)
    (next : (shared.perform move).link.nextRequest = shared.link.nextRequest)
    (owned : ∀ entry ∈ (shared.perform move).link.waiting,
      ∃ caller ∈ shared.callers, entry = (caller.id, caller.what))
    (listed : ∀ (index : Nat) (caller : Caller), shared.callers[index]? = some caller →
      ((caller.id, caller.what) ∈ (shared.perform move).link.waiting ↔
        (caller.next shared.link index move).stage.isWaiting = true))
    (finished : (shared.perform move).link.reading = false →
      (shared.perform move).link.waiting = []) :
    (shared.perform move).Sound := by
  have length : (shared.perform move).callers.length = shared.callers.length := by
    simp [length_perform, plain]
  have earlier : ∀ (index : Nat) after, (shared.perform move).callers[index]? = some after →
      ∃ caller, shared.callers[index]? = some caller ∧
        after = caller.next shared.link index move := by
    intro index after here
    rcases List.getElem?_eq_some_iff.mp here with ⟨inside, _⟩
    rw [length] at inside
    have found : shared.callers[index]? = some shared.callers[index] :=
      List.getElem?_eq_getElem inside
    rw [sound.caller_perform few found] at here
    exact ⟨_, found, (Option.some.inj here).symm⟩
  constructor
  · intro index after here
    rcases earlier index after here with ⟨caller, before, rfl⟩
    rw [(caller.next_kept _ _ _).1]
    exact sound.numbers index caller before
  · rw [next, length]
    exact sound.next
  · intro entry waits
    rcases owned entry waits with ⟨caller, inside, rfl⟩
    rcases List.mem_iff_getElem?.mp inside with ⟨index, before⟩
    have after := sound.caller_perform few before move
    refine ⟨_, List.mem_iff_getElem?.mpr ⟨index, after⟩, ?_⟩
    rw [(caller.next_kept _ _ _).1, (caller.next_kept _ _ _).2]
  · intro after inside
    rcases List.mem_iff_getElem?.mp inside with ⟨index, here⟩
    rcases earlier index after here with ⟨caller, before, rfl⟩
    rw [(caller.next_kept _ _ _).1, (caller.next_kept _ _ _).2]
    exact listed index caller before
  · exact finished

/-- A step of a call keeps the link sound if the call is listed afterwards just when it waits. -/
theorem Sound.perform_own
    (sound : shared.Sound) (few : shared.callers.length < UInt64.size)
    {index : Nat} {caller : Caller} (here : shared.callers[index]? = some caller) {move : Move}
    (owned : move ∈ ownMoves index)
    (others : ∀ entry, entry.1 ≠ caller.id →
      (entry ∈ (shared.perform move).link.waiting ↔ entry ∈ shared.link.waiting))
    (own : ∀ what, (caller.id, what) ∈ (shared.perform move).link.waiting ↔
      what = caller.what ∧ (caller.next shared.link index move).stage.isWaiting = true)
    (finished : shared.link.reading = false → (shared.perform move).link.waiting = []) :
    (shared.perform move).Sound := by
  have spares := shared.spares_perform index owned
  have plain : move.isNumber = false := by
    simp only [ownMoves, List.mem_cons, List.not_mem_nil, or_false] at owned
    rcases owned with rfl | rfl | rfl | rfl <;> rfl
  have member : caller ∈ shared.callers := List.mem_iff_getElem?.mpr ⟨index, here⟩
  refine sound.perform_of_listed few plain spares.next ?_ ?_ (spares.reading ▸ finished)
  · rintro ⟨id, what⟩ waits
    by_cases same : id = caller.id
    · subst same
      exact ⟨caller, member, by rw [((own what).mp waits).1]⟩
    · exact sound.owned _ ((others _ same).mp waits)
  · intro other another there
    by_cases same : index = other
    · subst same
      obtain rfl : caller = another := Option.some.inj (here.symm.trans there)
      simp [own]
    · have apart : another.id ≠ caller.id := by
        intro equal
        exact same (sound.unique few there here equal).symm
      have kept := sound.caller_perform few there move
      rw [spares.others other same, there] at kept
      rw [← Option.some.inj kept, others _ apart]
      exact sound.listed another (List.mem_iff_getElem?.mpr ⟨other, there⟩)

/-- A step of a call that leaves the list keeps the link sound if the call neither begins nor ceases
to wait. -/
theorem Sound.perform_own_of_same
    (sound : shared.Sound) (few : shared.callers.length < UInt64.size)
    {index : Nat} {caller : Caller} (here : shared.callers[index]? = some caller) {move : Move}
    (owned : move ∈ ownMoves index) (same : (shared.perform move).link = shared.link)
    (still : (caller.next shared.link index move).stage.isWaiting = caller.stage.isWaiting) :
    (shared.perform move).Sound := by
  have member : caller ∈ shared.callers := List.mem_iff_getElem?.mpr ⟨index, here⟩
  refine sound.perform_own few here owned ?_ ?_ ?_
  · intro entry _
    rw [same]
  · intro what
    rw [same, still]
    exact sound.mem_waiting_iff few member what
  · rw [same]
    exact sound.finished

theorem Sound.number
    (sound : shared.Sound) {what : Call}
    (few : (shared.perform (.number what)).callers.length < UInt64.size) :
    (shared.perform (.number what)).Sound := by
  have fewer : shared.callers.length + 1 < UInt64.size := by
    simpa [length_perform, Move.isNumber] using few
  constructor
  · intro index caller here
    rcases Nat.lt_or_ge index shared.callers.length with old | new
    · exact sound.numbers index caller ((List.getElem?_append_left old).symm.trans here)
    · have last : [(⟨shared.link.nextRequest, what, .numbered⟩ : Caller)][index -
          shared.callers.length]? = some caller := (List.getElem?_append_right new).symm.trans here
      have position : index = shared.callers.length := by
        have inside := (List.getElem?_eq_some_iff.mp last).1
        simp at inside
        omega
      subst position
      simp only [Nat.sub_self, List.getElem?_cons_zero, Option.some.injEq] at last
      rw [← last]
      exact sound.next
  · simp only [SharedLink.perform, sound.next, List.length_append, List.length_singleton]
    exact (UInt64.ofNat_add _ 1).symm
  · intro entry waits
    rcases sound.owned entry waits with ⟨caller, inside, same⟩
    exact ⟨caller, List.mem_append_left _ inside, same⟩
  · intro caller inside
    rcases List.mem_append.mp inside with old | new
    · exact sound.listed caller old
    · obtain rfl := List.mem_singleton.mp new
      refine iff_of_false (fun waits => ?_) nofun
      rcases sound.owned _ waits with ⟨owner, owns, same⟩
      rcases List.mem_iff_getElem?.mp owns with ⟨index, here⟩
      have inside := (List.getElem?_eq_some_iff.mp here).1
      have numbers := congrArg (fun entry => entry.1.toNat) same
      simp only [sound.next, sound.numbers index owner here] at numbers
      rw [UInt64.toNat_ofNat_of_lt' fewer, UInt64.toNat_ofNat_of_lt' (by omega)] at numbers
      omega
  · exact sound.finished

theorem link_hear (shared : SharedLink) (line : String) :
    (shared.perform (.hear line)).link = (shared.link.takeLine line).2 := by
  simp only [SharedLink.perform]
  cases (shared.link.takeLine line).1 <;> rfl

theorem Sound.hear
    (sound : shared.Sound) (few : shared.callers.length < UInt64.size) (line : String) :
    (shared.perform (.hear line)).Sound := by
  -- A line that leaves the list settles no call.
  have unchanged (same : (shared.link.takeLine line).2 = shared.link)
      (still : ∀ caller ∈ shared.callers,
        caller.give ((Line.replyTo? caller.id line).map caller.what.resultOf) = caller) :
      (shared.perform (.hear line)).Sound := by
    have link := (shared.link_hear line).trans same
    refine sound.perform_of_listed few rfl (by rw [link]) ?_ ?_ (by rw [link]; exact sound.finished)
    · rw [link]
      exact sound.owned
    · intro index caller here
      have member : caller ∈ shared.callers := List.mem_iff_getElem?.mpr ⟨index, here⟩
      rw [link, Caller.next, still caller member]
      exact sound.listed caller member
  cases reading : shared.link.reading with
  | false =>
      refine unchanged (by simp [SocketLink.takeLine, reading]) fun caller member => ?_
      exact sound.give_of_unlisted few member (by simp [sound.finished reading]) _
  | true =>
      rcases SocketLink.takeLine_cases reading line with
        ⟨packet, _, taken, other⟩ | ⟨_, ⟨id, call, message, found, reply, taken⟩ | ⟨taken, idle⟩⟩
      · refine unchanged (by rw [taken]) fun caller _ => ?_
        simp [other, Caller.give]
      · have struck : (shared.perform (.hear line)).link = shared.link.strike id := by
          rw [link_hear, taken]
        refine sound.perform_of_listed few rfl (by rw [struck]; rfl) ?_ ?_ ?_
        · intro entry waits
          rw [struck, SocketLink.mem_waiting_strike] at waits
          exact sound.owned entry waits.1
        · intro index caller here
          have member : caller ∈ shared.callers := List.mem_iff_getElem?.mpr ⟨index, here⟩
          rw [struck, SocketLink.mem_waiting_strike, sound.listed caller member, Caller.next]
          by_cases own : caller.id = id
          · subst own
            simp [reply, Caller.give, CallStage.isWaiting_give_some]
          · have other := Line.replyTo?_of_ne reply own
            simp [other, own, Caller.give]
        · rw [struck]
          intro finished
          cases finished.symm.trans reading
      · refine unchanged (by rw [taken]) fun caller member => ?_
        cases reply : Line.replyTo? caller.id line with
        | none =>
            simp [Caller.give]
        | some message =>
            exact sound.give_of_unlisted few member (idle _ _ reply) _

theorem Sound.enlist
    (sound : shared.Sound) (few : shared.callers.length < UInt64.size) (index : Nat) :
    (shared.perform (.enlist index)).Sound := by
  cases here : shared.callers[index]? with
  | none =>
      simpa [SharedLink.perform, here] using sound
  | some caller =>
      rcases caller with ⟨id, what, stage⟩
      cases stage with
      | numbered =>
          cases reading : shared.link.reading with
          | false =>
              refine sound.perform_own_of_same few here (by simp [ownMoves]) ?_ ?_
              · simp [SharedLink.perform, here, reading]
              · simp [Caller.next, CallStage.enlist, reading, CallStage.isWaiting]
          | true =>
              have listed : (shared.perform (.enlist index)).link = shared.link.enlist id what := by
                simp [SharedLink.perform, here, reading]
              refine sound.perform_own few here (by simp [ownMoves]) ?_ ?_ ?_
              · intro entry other
                have apart : entry ≠ (id, what) := by
                  rintro rfl
                  exact other rfl
                simp only [listed, SocketLink.mem_waiting_enlist, apart, or_false,
                  and_iff_left other]
              · intro what
                simp [listed, SocketLink.mem_waiting_enlist, Caller.next, CallStage.enlist,
                  reading, CallStage.isWaiting]
              · rw [reading]
                nofun
      | listed | refused | queued | ended =>
          simpa [SharedLink.perform, here] using sound

theorem Sound.queue
    (sound : shared.Sound) (few : shared.callers.length < UInt64.size) (index : Nat) :
    (shared.perform (.queue index)).Sound := by
  cases here : shared.callers[index]? with
  | none =>
      simpa [SharedLink.perform, here] using sound
  | some caller =>
      rcases caller with ⟨id, what, stage⟩
      cases stage with
      | listed given? =>
          refine sound.perform_own_of_same few here (by simp [ownMoves]) ?_ ?_
          · simp only [SharedLink.perform, here]
            split <;> rfl
          · simp only [Caller.next, if_true, CallStage.queue]
            split <;> cases given? <;> rfl
      | numbered | refused | queued | ended =>
          simpa [SharedLink.perform, here] using sound

theorem Sound.withdraw
    (sound : shared.Sound) (few : shared.callers.length < UInt64.size) (index : Nat) :
    (shared.perform (.withdraw index)).Sound := by
  cases here : shared.callers[index]? with
  | none =>
      simpa [SharedLink.perform, here] using sound
  | some caller =>
      rcases caller with ⟨id, what, stage⟩
      cases stage with
      | refused error given? =>
          have struck : (shared.perform (.withdraw index)).link = shared.link.strike id := by
            simp [SharedLink.perform, here]
          refine sound.perform_own few here (by simp [ownMoves]) ?_ ?_ ?_
          · intro entry other
            simp only [struck, SocketLink.mem_waiting_strike, and_iff_left other]
          · intro what
            simp [struck, SocketLink.mem_waiting_strike, Caller.next, CallStage.withdraw,
              CallStage.isWaiting]
          · intro finished
            simp [struck, SocketLink.strike, sound.finished finished]
      | numbered | listed | queued | ended =>
          simpa [SharedLink.perform, here] using sound

theorem Sound.resume
    (sound : shared.Sound) (few : shared.callers.length < UInt64.size) (index : Nat) :
    (shared.perform (.resume index)).Sound := by
  cases here : shared.callers[index]? with
  | none =>
      simpa [SharedLink.perform, here] using sound
  | some caller =>
      rcases caller with ⟨id, what, stage⟩
      refine sound.perform_own_of_same few here (by simp [ownMoves]) ?_ ?_
      · simp only [SharedLink.perform, here]
        split <;> rfl
      · simp only [Caller.next, if_true, CallStage.resume]
        split <;> rfl

theorem Sound.finish
    (sound : shared.Sound) (few : shared.callers.length < UInt64.size) :
    (shared.perform .finish).Sound := by
  have ended : (shared.perform .finish).link = shared.link.endOfStream.2 := by
    simp [SharedLink.perform, SocketLink.endOfStream, follow_completed]
  refine sound.perform_of_listed few rfl ?_ ?_ ?_ ?_
  · rw [ended]
    rfl
  · simp [ended, SocketLink.endOfStream]
  · intro index caller _
    simp [ended, SocketLink.endOfStream, Caller.next, Caller.give, CallStage.isWaiting_give_some]
  · rw [ended]
    exact fun _ => rfl

theorem Sound.perform
    (sound : shared.Sound) (move : Move)
    (few : (shared.perform move).callers.length < UInt64.size) :
    (shared.perform move).Sound := by
  have fewer : shared.callers.length < UInt64.size := by
    rw [length_perform] at few
    omega
  cases move with
  | number what =>
      exact sound.number few
  | enlist index =>
      exact sound.enlist fewer index
  | queue index =>
      exact sound.queue fewer index
  | withdraw index =>
      exact sound.withdraw fewer index
  | resume index =>
      exact sound.resume fewer index
  | hear line =>
      exact sound.hear fewer line
  | finish =>
      exact sound.finish fewer
  | stopWriting =>
      exact sound.perform_of_listed fewer rfl rfl sound.owned
        (fun index caller here => sound.listed caller (List.mem_iff_getElem?.mpr ⟨index, here⟩))
        sound.finished

end SharedLink

end SessionBus
