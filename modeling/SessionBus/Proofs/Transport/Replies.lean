import SessionBus.Proofs.Transport.InFlight

/-!
# Replies under any order

What becomes of a call is told by what happens after it is listed: by the first reply with its
number, by the end of the stream, and by whether its line could be queued.  Nothing that other calls
do matters for it, and neither do lines that carry another number or none.
-/

namespace SessionBus.SharedLink

variable {shared : SharedLink}

/-! ## What a history tells -/

/-- The replies to a request that are heard before the stream ends. -/
def replies (id : UInt64) : List Move → List HubMessage
  | [] => []
  | .finish :: _ => []
  | .hear line :: rest => (Line.replyTo? id line).toList ++ replies id rest
  | _ :: rest => replies id rest

/-- The packets of the lines that are heard before the stream ends. -/
def delivered : List Move → List Packet
  | [] => []
  | .finish :: _ => []
  | .hear line :: rest => (Line.packet? line).toList ++ delivered rest
  | _ :: rest => delivered rest

/-- The result that a call is given which is listed before some moves: what the first reply to it
means, or else that the stream has ended. -/
def resultIn? (id : UInt64) (what : Call) (moves : List Move) :
    Option (Except TransportError CallResult) :=
  match replies id moves with
  | message :: _ => some (what.resultOf message)
  | [] => if .finish ∈ moves then some (.error .disconnected) else none

/-- What a call comes to that first queues its line along some moves. -/
def tried? (shared : SharedLink) (index : Nat) (request : Request) :
    List Move → Option (Except TransportError String)
  | [] => none
  | move :: rest =>
      if move = .queue index then some (shared.link.lineFor request)
      else (shared.perform move).tried? index request rest

theorem replies_append (id : UInt64) (moves more : List Move) :
    replies id (moves ++ more) =
      replies id moves ++ if .finish ∈ moves then [] else replies id more := by
  induction moves with
  | nil =>
      simp [replies]
  | cons move rest ih =>
      cases move with
      | finish =>
          simp [replies]
      | hear line =>
          simp [replies, ih]
      | number | enlist | queue | withdraw | resume | stopWriting =>
          simp [replies, ih]

theorem resultIn?_append (id : UInt64) (what : Call) (moves more : List Move) :
    resultIn? id what (moves ++ more) = (resultIn? id what moves).or (resultIn? id what more) := by
  unfold resultIn?
  rw [replies_append]
  cases replies id moves with
  | cons message others =>
      rfl
  | nil =>
      by_cases finished : .finish ∈ moves
      · simp [finished]
      · simp [finished]

theorem tried?_append
    (shared : SharedLink) (index : Nat) (request : Request) (moves more : List Move) :
    shared.tried? index request (moves ++ more) =
      (shared.tried? index request moves).or
        ((shared.afterAll moves).tried? index request more) := by
  induction moves generalizing shared with
  | nil =>
      simp [tried?, afterAll]
  | cons move rest ih =>
      simp only [List.cons_append, tried?, afterAll]
      split
      · rfl
      · exact ih _

theorem afterAll_append (shared : SharedLink) (moves more : List Move) :
    shared.afterAll (moves ++ more) = (shared.afterAll moves).afterAll more := by
  induction moves generalizing shared with
  | nil =>
      rfl
  | cons move rest ih =>
      exact ih _

/-- The stage of a listed call accords with what its line has come to and with the result that it
has been given. -/
def Accords
    (tried? : Option (Except TransportError String))
    (result? : Option (Except TransportError CallResult)) (stage : CallStage) : Prop :=
  match stage, tried? with
  | .listed given?, none => given? = result?
  | .refused error given?, some (.error reason) => error = reason ∧ given? = result?
  | .queued given?, some (.ok _) => given? = result?
  | .ended result, some (.error reason) => result = .error reason
  | .ended result, some (.ok _) => result? = some result
  | _, _ => False

theorem Accords.give
    {tried? : Option (Except TransportError String)}
    {result? : Option (Except TransportError CallResult)} {stage : CallStage}
    (accords : Accords tried? result? stage)
    (more? : Option (Except TransportError CallResult)) :
    Accords tried? (result?.or more?) (stage.give more?) := by
  cases stage with
  | numbered =>
      exact accords.elim
  | listed given? =>
      cases tried? with
      | none =>
          exact congrArg (Option.or · more?) accords
      | some =>
          exact accords.elim
  | refused error given? =>
      rcases tried? with _ | reason | line
      · exact accords.elim
      · exact ⟨accords.1, congrArg (Option.or · more?) accords.2⟩
      · exact accords.elim
  | queued given? =>
      rcases tried? with _ | reason | line
      · exact accords.elim
      · exact accords.elim
      · exact congrArg (Option.or · more?) accords
  | ended result =>
      rcases tried? with _ | reason | line
      · exact accords.elim
      · exact accords
      · obtain rfl : result? = some result := accords
        rfl

/-- A call that queues its line does so once. -/
theorem Accords.queue
    {tried? : Option (Except TransportError String)}
    {result? : Option (Except TransportError CallResult)} {stage : CallStage}
    (accords : Accords tried? result? stage) (line : Except TransportError String) :
    Accords (tried?.or (some line)) result? (stage.queue line) := by
  cases tried? with
  | none =>
      cases stage with
      | listed given? =>
          cases line with
          | ok text =>
              exact accords
          | error error =>
              exact ⟨rfl, accords⟩
      | numbered | refused | queued | ended =>
          exact accords.elim
  | some first =>
      cases stage with
      | listed given? =>
          exact accords.elim
      | numbered | refused | queued | ended =>
          exact accords

theorem Accords.withdraw
    {tried? : Option (Except TransportError String)}
    {result? : Option (Except TransportError CallResult)} {stage : CallStage}
    (accords : Accords tried? result? stage) : Accords tried? result? stage.withdraw := by
  cases stage with
  | refused error given? =>
      rcases tried? with _ | reason | line
      · exact accords.elim
      · exact congrArg Except.error accords.1
      · exact accords.elim
  | numbered | listed | queued | ended =>
      exact accords

theorem Accords.resume
    {tried? : Option (Except TransportError String)}
    {result? : Option (Except TransportError CallResult)} {stage : CallStage}
    (accords : Accords tried? result? stage) : Accords tried? result? stage.resume := by
  cases stage with
  | queued given? =>
      rcases tried? with _ | reason | line
      · exact accords.elim
      · exact accords.elim
      · cases given? with
        | none =>
            exact accords
        | some result =>
            exact Eq.symm accords
  | numbered | listed | refused | ended =>
      exact accords

/-- One move keeps the accord of a call. -/
theorem Accords.next
    {tried? : Option (Except TransportError String)} {caller : Caller} {moves : List Move}
    (accords : Accords tried? (resultIn? caller.id caller.what moves) caller.stage)
    (shared : SharedLink) (index : Nat) (move : Move) :
    Accords (tried?.or (shared.tried? index (caller.what.request caller.id) [move]))
      (resultIn? caller.id caller.what (moves ++ [move]))
      (caller.next shared.link index move).stage := by
  rcases caller with ⟨id, what, stage⟩
  rw [resultIn?_append]
  cases move with
  | hear line =>
      have given : resultIn? id what [.hear line] =
          (Line.replyTo? id line).map what.resultOf := by
        cases reply : Line.replyTo? id line <;> simp [resultIn?, replies, reply]
      simp only [SharedLink.tried?, given, reduceCtorEq, if_false, Option.or_none]
      exact accords.give _
  | finish =>
      simp only [SharedLink.tried?, reduceCtorEq, if_false, Option.or_none]
      exact accords.give _
  | number | stopWriting =>
      simpa [SharedLink.tried?, resultIn?, replies, Caller.next] using accords
  | enlist own =>
      cases stage with
      | numbered =>
          exact accords.elim
      | listed | refused | queued | ended =>
          simpa [SharedLink.tried?, resultIn?, replies, Caller.next, CallStage.enlist] using accords
  | queue own =>
      by_cases same : own = index
      · simpa [SharedLink.tried?, resultIn?, replies, Caller.next, same] using accords.queue _
      · simpa [SharedLink.tried?, resultIn?, replies, Caller.next, same] using accords
  | withdraw own =>
      by_cases same : own = index
      · simpa [SharedLink.tried?, resultIn?, replies, Caller.next, same] using accords.withdraw
      · simpa [SharedLink.tried?, resultIn?, replies, Caller.next, same] using accords
  | resume own =>
      by_cases same : own = index
      · simpa [SharedLink.tried?, resultIn?, replies, Caller.next, same] using accords.resume
      · simpa [SharedLink.tried?, resultIn?, replies, Caller.next, same] using accords

/-- A call whose line was queued and whose result is known ends with it once it takes its steps. -/
theorem Accords.resumed
    {line : String} {result : Except TransportError CallResult} {stage : CallStage}
    (accords : Accords (some (.ok line)) (some result) stage)
    (reading : Bool) (again : Except TransportError String) :
    (((stage.enlist reading).queue again).withdraw).resume = .ended result := by
  cases stage with
  | queued given? =>
      obtain rfl : given? = some result := accords
      rfl
  | ended known =>
      obtain rfl : result = known := Option.some.inj accords
      rfl
  | numbered | listed | refused =>
      exact accords.elim

/-! ## Whole histories -/

theorem length_afterAll (shared : SharedLink) (moves : List Move) :
    (shared.afterAll moves).callers.length =
      shared.callers.length + moves.countP Move.isNumber := by
  induction moves generalizing shared with
  | nil =>
      rfl
  | cons move rest ih =>
      rw [afterAll, ih, length_perform, List.countP_cons]
      omega

theorem Sound.afterAll
    (sound : shared.Sound) (moves : List Move)
    (few : (shared.afterAll moves).callers.length < UInt64.size) :
    (shared.afterAll moves).Sound := by
  induction moves generalizing shared with
  | nil =>
      exact sound
  | cons move rest ih =>
      refine ih (sound.perform move ?_) few
      rw [SharedLink.afterAll, length_afterAll] at few
      omega

/-- What holds of a call at first and is kept by each of its moves holds of it along a history. -/
theorem Sound.caller_afterAll
    (sound : shared.Sound) {index : Nat} {caller : Caller}
    (here : shared.callers[index]? = some caller) (invariant : List Move → Caller → Prop)
    (start : invariant [] caller)
    (step : ∀ moves caller move, invariant moves caller →
      invariant (moves ++ [move]) (caller.next (shared.afterAll moves).link index move))
    (moves : List Move) (few : (shared.afterAll moves).callers.length < UInt64.size) :
    ∃ after, (shared.afterAll moves).callers[index]? = some after ∧ invariant moves after := by
  suffices goesOn : ∀ rest past caller, (shared.afterAll past).callers[index]? = some caller →
      invariant past caller → (shared.afterAll (past ++ rest)).callers.length < UInt64.size →
      ∃ after, (shared.afterAll (past ++ rest)).callers[index]? = some after ∧
        invariant (past ++ rest) after from
    goesOn moves [] caller here start few
  -- The moves that are past grow at their end while those that are to come are taken away.
  intro rest
  induction rest with
  | nil =>
      intro past caller here holds _
      rw [List.append_nil]
      exact ⟨caller, here, holds⟩
  | cons move rest ih =>
      intro past caller here holds few
      rw [List.append_cons] at few ⊢
      have early : (shared.afterAll past).callers.length < UInt64.size := by
        rw [afterAll_append, afterAll_append, length_afterAll, length_afterAll] at few
        omega
      refine ih (past ++ [move]) _ ?_ (step past caller move holds) few
      rw [afterAll_append]
      exact (sound.afterAll past early).caller_perform early here move

/-! ## The end of the stream -/

/-- The link reads until the stream ends. -/
theorem reading_perform (shared : SharedLink) (move : Move) :
    (shared.perform move).link.reading = true ↔
      shared.link.reading = true ∧ move ≠ .finish := by
  cases move with
  | number | stopWriting =>
      simp [perform]
  | enlist own | queue own | withdraw own | resume own =>
      rw [(shared.spares_perform own (by simp [ownMoves])).reading]
      simp
  | hear line =>
      rw [link_hear, (shared.link.waiting_takeLine line).1]
      simp
  | finish =>
      simp [perform, SocketLink.endOfStream, follow_completed]

theorem reading_afterAll (shared : SharedLink) (moves : List Move) :
    (shared.afterAll moves).link.reading = true ↔
      shared.link.reading = true ∧ .finish ∉ moves := by
  induction moves generalizing shared with
  | nil =>
      simp [afterAll]
  | cons move rest ih =>
      rw [afterAll, ih, reading_perform, List.mem_cons, not_or, and_assoc, ne_comm]

theorem packets_perform (shared : SharedLink) (move : Move) :
    (shared.perform move).packets =
      shared.packets ++ if shared.link.reading then delivered [move] else [] := by
  cases move with
  | number | stopWriting =>
      simp [perform, delivered]
  | enlist own | queue own | withdraw own | resume own =>
      rw [(shared.spares_perform own (by simp [ownMoves])).packets]
      simp [delivered]
  | hear line =>
      cases reading : shared.link.reading with
      | false =>
          simp [perform, SocketLink.takeLine, reading, follow]
      | true =>
          rcases SocketLink.takeLine_cases reading line with
            ⟨packet, own, taken, _⟩ | ⟨other, ⟨_, _, _, _, _, taken⟩ | ⟨taken, _⟩⟩
          · simp [perform, taken, follow, delivered, own]
          · simp [perform, taken, follow, delivered, other]
          · simp [perform, taken, follow, delivered, other]
  | finish =>
      simp [perform, SocketLink.endOfStream, follow_completed, delivered]

theorem delivered_cons (move : Move) (rest : List Move) :
    delivered (move :: rest) =
      delivered [move] ++ if move = .finish then [] else delivered rest := by
  cases move <;> simp [delivered]

/-- The packets are passed on as they come. -/
theorem packets_afterAll (shared : SharedLink) (moves : List Move) :
    (shared.afterAll moves).packets =
      shared.packets ++ if shared.link.reading then delivered moves else [] := by
  induction moves generalizing shared with
  | nil =>
      simp [afterAll, delivered]
  | cons move rest ih =>
      have still := shared.reading_perform move
      rw [afterAll, ih, packets_perform, delivered_cons move rest]
      cases reading : shared.link.reading with
      | false =>
          simp [still, reading]
      | true =>
          by_cases finished : move = .finish
          · subst finished
            simp [still]
          · simp [still, reading, finished]

/-! ## Calls along a history -/

/-- A call that has ended keeps its result. -/
theorem Sound.ended_afterAll
    (sound : shared.Sound) {index : Nat} {id : UInt64} {what : Call}
    {result : Except TransportError CallResult}
    (here : shared.callers[index]? = some ⟨id, what, .ended result⟩) (moves : List Move)
    (few : (shared.afterAll moves).callers.length < UInt64.size) :
    (shared.afterAll moves).callers[index]? = some ⟨id, what, .ended result⟩ := by
  have kept : ∀ (link : SocketLink) (move : Move),
      (Caller.mk id what (.ended result)).next link index move =
        ⟨id, what, .ended result⟩ := by
    intro link move
    cases move <;> simp [Caller.next, Caller.give, CallStage.give, CallStage.enlist,
      CallStage.queue, CallStage.withdraw, CallStage.resume]
  rcases sound.caller_afterAll here (fun _ after => after = ⟨id, what, .ended result⟩) rfl
    (fun _ _ _ same => by rw [same, kept]) moves few with ⟨after, found, rfl⟩
  exact found

/-- What a call comes to that takes its steps. -/
theorem caller_ownMoves
    {index : Nat} {caller : Caller} (here : shared.callers[index]? = some caller) :
    ∃ line, (shared.afterAll (ownMoves index)).callers[index]? =
      some { caller with
        stage := (((caller.stage.enlist shared.link.reading).queue line).withdraw).resume } := by
  have enlisted := caller_perform_own here (.enlist index) (by simp [ownMoves])
  have queued := caller_perform_own enlisted (.queue index) (by simp [ownMoves])
  have withdrawn := caller_perform_own queued (.withdraw index) (by simp [ownMoves])
  have resumed := caller_perform_own withdrawn (.resume index) (by simp [ownMoves])
  simp only [Caller.next, if_true] at resumed
  exact ⟨_, resumed⟩

/-- A line changes only the call whose number it carries. -/
theorem Sound.hear_changes
    (sound : shared.Sound) (few : shared.callers.length < UInt64.size) {line : String}
    {index : Nat}
    (changed : (shared.perform (.hear line)).callers[index]? ≠ shared.callers[index]?) :
    ∃ caller message, shared.callers[index]? = some caller ∧
      Line.replyTo? caller.id line = some message := by
  cases here : shared.callers[index]? with
  | none =>
      have absent : (shared.perform (.hear line)).callers[index]? = none := by
        rw [List.getElem?_eq_none_iff] at here ⊢
        rw [length_perform]
        exact here
      exact absurd (absent.trans here.symm) changed
  | some caller =>
      have after := sound.caller_perform few here (.hear line)
      cases reply : Line.replyTo? caller.id line with
      | none =>
          refine absurd (after.trans ?_) changed
          simp [Caller.next, reply, Caller.give, here]
      | some message =>
          exact ⟨caller, message, rfl, reply⟩

/-- The call of an index accords with what has happened since it was listed, and ends as soon as its
line is queued and its result is known. -/
def Told
    (listed : SharedLink) (index : Nat) (id : UInt64) (what : Call) (since : List Move) : Prop :=
  ∃ stage, (listed.afterAll since).callers[index]? = some ⟨id, what, stage⟩ ∧
    Accords (listed.tried? index (what.request id) since) (resultIn? id what since) stage ∧
    ∀ line result, listed.tried? index (what.request id) since = some (.ok line) →
      resultIn? id what since = some result →
      ((listed.afterAll since).afterAll (ownMoves index)).callers[index]? =
        some ⟨id, what, .ended result⟩

/-- What becomes of a call that is listed while the link reads. -/
theorem Sound.told_afterAll
    (sound : shared.Sound) {index : Nat} {id : UInt64} {what : Call}
    (here : shared.callers[index]? = some ⟨id, what, .listed none⟩) (moves : List Move)
    (few : (shared.afterAll moves).callers.length < UInt64.size) :
    shared.Told index id what moves := by
  let accorded (moves : List Move) (after : Caller) : Prop :=
    after.id = id ∧ after.what = what ∧
      Accords (shared.tried? index (what.request id) moves) (resultIn? id what moves) after.stage
  have step (past : List Move) (caller : Caller) (move : Move) (before : accorded past caller) :
      accorded (past ++ [move]) (caller.next (shared.afterAll past).link index move) := by
    rcases caller with ⟨_, _, stage⟩
    rcases before with ⟨rfl, rfl, accords⟩
    refine ⟨(Caller.next_kept _ _ _ _).1, (Caller.next_kept _ _ _ _).2, ?_⟩
    rw [tried?_append]
    exact accords.next (shared.afterAll past) index move
  rcases sound.caller_afterAll here accorded ⟨rfl, rfl, rfl⟩ step moves few with
    ⟨⟨_, _, stage⟩, found, rfl, rfl, accords⟩
  refine ⟨stage, found, accords, fun line result sent known => ?_⟩
  simp only at accords
  rw [sent, known] at accords
  rcases caller_ownMoves found with ⟨again, resumed⟩
  rw [resumed, accords.resumed]

/-- What becomes of a call from the time when it lists itself. -/
theorem Sound.enlisted_afterAll
    (sound : shared.Sound) {index : Nat} {id : UInt64} {what : Call}
    (here : shared.callers[index]? = some ⟨id, what, .numbered⟩) (since : List Move)
    (few : ((shared.perform (.enlist index)).afterAll since).callers.length < UInt64.size) :
    (shared.link.reading = false →
        ((shared.perform (.enlist index)).afterAll since).callers[index]? =
          some ⟨id, what, .ended (.error .disconnected)⟩) ∧
      (shared.link.reading = true →
        (shared.perform (.enlist index)).Told index id what since) := by
  have fewer : (shared.perform (.enlist index)).callers.length < UInt64.size := by
    rw [length_afterAll] at few
    exact Nat.lt_of_le_of_lt (Nat.le_add_right _ _) few
  have next := sound.perform (.enlist index) fewer
  have enlisted := caller_perform_own here (.enlist index) (by simp [ownMoves])
  simp only [Caller.next, if_true, CallStage.enlist] at enlisted
  constructor
  · intro closed
    simp only [closed, Bool.false_eq_true, if_false] at enlisted
    exact next.ended_afterAll enlisted since few
  · intro reading
    simp only [reading, if_true] at enlisted
    exact next.told_afterAll enlisted since few

/-- Replies reach their calls under any order.  A call that is listed after the end of the stream
learns of it at once.  Any other gets what the first reply with its number means that is heard after
it was listed, or learns that the stream has ended, unless its line cannot be queued.  A line
changes one call at most, one whose number it carries.  Packets are passed on once each and in
order.  A call that has ended, one whose line could not be queued among them, waits no more; and
after the end of the stream no call waits, and every one ends as soon as it takes its steps. -/
theorem replies_reach_their_calls
    (frame : FrameId) (history : List Move)
    (few : history.countP Move.isNumber < UInt64.size) :
    let shared := (attached frame).afterAll history
    (∀ (before : List Move) (index : Nat) (since : List Move) (id : UInt64) (what : Call),
      history = before ++ .enlist index :: since →
      ((attached frame).afterAll before).callers[index]? = some ⟨id, what, .numbered⟩ →
      if .finish ∈ before then
        shared.callers[index]? = some ⟨id, what, .ended (.error .disconnected)⟩
      else ((attached frame).afterAll (before ++ [.enlist index])).Told index id what since) ∧
    (∀ (line : String) (index : Nat),
      (shared.perform (.hear line)).callers[index]? ≠ shared.callers[index]? →
      (∃ caller message, shared.callers[index]? = some caller ∧
          Line.replyTo? caller.id line = some message) ∧
        ∀ other, other ≠ index →
          (shared.perform (.hear line)).callers[other]? = shared.callers[other]?) ∧
    shared.packets = delivered history ∧
    (∀ caller ∈ shared.callers, ∀ result, caller.stage = .ended result →
      ∀ entry ∈ shared.link.waiting, entry.1 ≠ caller.id) ∧
    (.finish ∈ history →
      shared.link.waiting = [] ∧
        ∀ (index : Nat) (caller : Caller), shared.callers[index]? = some caller →
          ∃ result, (shared.afterAll (ownMoves index)).callers[index]? =
            some ⟨caller.id, caller.what, .ended result⟩) := by
  intro shared
  have counted (moves : List Move) :
      ((attached frame).afterAll moves).callers.length = moves.countP Move.isNumber := by
    rw [length_afterAll]
    exact Nat.zero_add _
  have fewer : shared.callers.length < UInt64.size := by
    rw [counted]
    exact few
  have sound : shared.Sound := (sound_attached frame).afterAll history fewer
  refine ⟨?_, fun line index changed => ⟨?_, fun other different => ?_⟩, ?_, ?_, fun finished => ?_⟩
  · rintro before index since id what rfl numbered
    have early : ((attached frame).afterAll before).callers.length < UInt64.size := by
      rw [counted]
      rw [List.countP_append] at few
      omega
    have moved : (attached frame).afterAll (before ++ [.enlist index]) =
        ((attached frame).afterAll before).perform (.enlist index) := afterAll_append _ _ _
    have later : (((attached frame).afterAll before).perform (.enlist index)).afterAll since =
        shared := by
      rw [← moved, ← afterAll_append, List.append_assoc, List.singleton_append]
    have reads := reading_afterAll (attached frame) before
    rcases ((sound_attached frame).afterAll before early).enlisted_afterAll numbered since
      (by rw [later]; exact fewer) with ⟨refused, told⟩
    rw [later] at refused
    by_cases finished : .finish ∈ before
    · rw [if_pos finished]
      refine refused ?_
      rw [Bool.eq_false_iff, Ne, reads]
      exact fun still => still.2 finished
    · rw [if_neg finished, moved]
      exact told (reads.mpr ⟨rfl, finished⟩)
  · exact sound.hear_changes fewer changed
  · rcases sound.hear_changes fewer changed with ⟨caller, message, here, reply⟩
    refine Classical.byContradiction fun also => ?_
    rcases sound.hear_changes fewer also with ⟨another, answer, there, replied⟩
    have same := Line.replyTo?_unique replied reply
    exact different (sound.unique fewer there here same)
  · rw [packets_afterAll]
    rfl
  · intro caller member result ended entry waits same
    rcases entry with ⟨id, what⟩
    obtain rfl : id = caller.id := same
    have waiting := ((sound.mem_waiting_iff fewer member what).mp waits).2
    rw [ended] at waiting
    cases waiting
  · have closed : shared.link.reading = false := by
      rw [Bool.eq_false_iff, Ne, reading_afterAll]
      exact fun still => still.2 finished
    have nobody := sound.finished closed
    refine ⟨nobody, fun index caller here => ?_⟩
    have member : caller ∈ shared.callers := List.mem_iff_getElem?.mpr ⟨index, here⟩
    have settled : caller.stage.isWaiting = false := by
      rw [Bool.eq_false_iff, Ne, ← sound.listed caller member, nobody]
      exact List.not_mem_nil
    rcases caller_ownMoves here with ⟨line, taken⟩
    rcases CallStage.ended_of_settled settled line with ⟨result, ended⟩
    rw [closed, ended] at taken
    exact ⟨result, taken⟩

/-- Of two calls the second is listed first.  It gets its reply, and the stream ends before there is
one to the first. -/
def crossing : List Move :=
  [.number (.describe ⟨"editor"⟩), .number (.claim ⟨"editor"⟩), .enlist 1, .enlist 0, .queue 1,
    .queue 0, .hear (Line.ofHub (.sessionClaimed 2 true)), .resume 1, .finish, .resume 0]

theorem crossing_calls_end :
    crossing.countP Move.isNumber < UInt64.size ∧
      ((attached ⟨7⟩).afterAll crossing).callers =
        [⟨1, .describe ⟨"editor"⟩, .ended (.error .disconnected)⟩,
          ⟨2, .claim ⟨"editor"⟩, .ended (.ok (.claimed true))⟩] ∧
      ((attached ⟨7⟩).afterAll crossing).link.waiting = [] ∧
      resultIn? 2 (.claim ⟨"editor"⟩) (crossing.drop 3) = some (.ok (.claimed true)) := by
  have few : crossing.countP Move.isNumber < UInt64.size := by decide
  have callers : ((attached ⟨7⟩).afterAll crossing).callers =
      [⟨1, .describe ⟨"editor"⟩, .ended (.error .disconnected)⟩,
        ⟨2, .claim ⟨"editor"⟩, .ended (.ok (.claimed true))⟩] := by
    decide +kernel
  rcases replies_reach_their_calls ⟨7⟩ crossing few with ⟨results, _, _, _, finished⟩
  have result := results (crossing.take 2) 1 (crossing.drop 3) 2 (.claim ⟨"editor"⟩) rfl rfl
  rw [if_neg (by decide)] at result
  rcases result with ⟨stage, found, accords, _⟩
  have whole : crossing.take 2 ++ [.enlist 1] ++ crossing.drop 3 = crossing := rfl
  rw [← afterAll_append, whole, callers] at found
  obtain rfl : CallStage.ended (.ok (.claimed true)) = stage := by
    simpa using found
  have sent : ((attached ⟨7⟩).afterAll (crossing.take 2 ++ [.enlist 1])).tried? 1
      ((Call.claim ⟨"editor"⟩).request 2) (crossing.drop 3) =
        some (.ok (Line.ofFrame (.ofRequest ((Call.claim ⟨"editor"⟩).request 2)))) := by
    decide +kernel
  rw [sent] at accords
  exact ⟨few, callers, (finished (by decide)).1, accords⟩

end SessionBus.SharedLink
