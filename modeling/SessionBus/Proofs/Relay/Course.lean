import SessionBus.Proofs.Hub.LineReader
import SessionBus.Proofs.Relay.Hearing

/-!
# The course of a connection

On the connection of a link, what is on its way to the hub is a list of messages, and so is what is
on its way back, however the bytes are cut.  A connection goes through few phases: the greeting is
on its way, the switchboard is asked, the answer is written and read; then requests come one after
the other until the farewell, after which nothing comes any more.
-/

namespace SessionBus

/-! ## What the hub makes of a message -/

/-- A commission that somebody waits for tells what was heard. -/
theorem Commission.exists_of_isAwaited
    (commission : Commission) {max : Nat} (awaited : commission.isAwaited max = true) :
    ∃ incoming command, commission.incoming = some incoming ∧
      Connection.command? max commission.stage incoming = some command ∧
        command.isAwaited = true := by
  rcases commission with ⟨number, stage, incoming⟩
  cases incoming with
  | none =>
      cases stage <;> cases awaited
  | some incoming =>
      rcases (Option.any_eq_true ..).mp awaited with ⟨command, given, waits⟩
      exact ⟨incoming, command, rfl, given, waits⟩

namespace Connection

/-- The hub does not take any other message for a farewell. -/
theorem isFarewell_seen_of_ne
    {message : FrameMessage} (other : message.request ≠ .disconnect) (max : Nat) :
    isFarewell max (LineReader.seen max message.toJson) = false := by
  unfold LineReader.seen
  split
  · simp only [isFarewell]
    split
    · rename_i found read
      simpa using Line.request_ne_disconnect read other
    · rfl
  · rfl

theorem isFarewell_seen_farewell {max : Nat} (large : Line.maxSize ≤ max) :
    isFarewell max (LineReader.seen max FrameMessage.farewell.toJson) = true := by
  have short : FrameMessage.farewell.toJson.compact.utf8ByteSize ≤ max :=
    Nat.le_trans FrameMessage.farewell_short large
  rw [LineReader.seen, if_pos short, isFarewell,
    parseFrame_compact (FrameMessage.isPortable_of_plain rfl) short]
  rfl

/-- A task that waits for the switchboard has heard no farewell. -/
theorem isFarewell_of_isAwaited
    {max : Nat} {frame : FrameId} {incoming : Incoming} {command : Command}
    (given : command? max (.serving frame) incoming = some command)
    (awaited : command.isAwaited = true) : isFarewell max incoming = false := by
  cases incoming with
  | tooLong =>
      rfl
  | notText =>
      cases given
      cases awaited
  | line text =>
      simp only [command?] at given
      simp only [isFarewell]
      split at given
      · rename_i message read
        rw [decide_eq_false_iff_not]
        intro farewell
        rw [farewell] at given
        cases given
        cases awaited
      · rfl

/-- The greeting of a link asks the switchboard to take the frame in, unless it is too long. -/
theorem command?_seen_connect (max deadline : Nat) (displayName : Option String) :
    let greeting := FrameMessage.ofRequest (.connect displayName)
    command? max (.greeting deadline) (LineReader.seen max greeting.toJson) = some .register ∨
      LineReader.seen max greeting.toJson = .tooLong := by
  intro greeting
  by_cases short : greeting.toJson.compact.utf8ByteSize ≤ max
  · left
    have portable : greeting.IsPortable := FrameMessage.isPortable_of_plain rfl
    have asks : greeting.asksToConnect = true := rfl
    simp only [LineReader.seen, if_pos short, command?, parseFrame_compact portable short, asks,
      if_true]
  · exact .inr (if_neg short)

/-- What the switchboard makes of a greeting: the frame is refused, or taken in. -/
theorem handle_of_register
    {max deadline : Nat} {incoming : Incoming}
    (given : command? max (.greeting deadline) incoming = some .register) (exchange : Exchange)
    (now : Instant) :
    (∃ reason, handle exchange max now (.greeting deadline) incoming =
        refuse (.reject reason) exchange.register.2) ∨
      ∃ frame, exchange.register.1 = .ok frame ∧
        handle exchange max now (.greeting deadline) incoming =
          goOn exchange.register.2 frame [.accept frame] := by
  rcases handle_greeting_cases exchange now max deadline incoming with
    ⟨_, unread⟩ | ⟨text, message, rfl, read, ⟨_, other, _⟩ | ⟨_, ⟨error, _, refused⟩ | taken⟩⟩
  · cases incoming with
    | tooLong | notText =>
        cases given
    | line text =>
        simp only [command?] at given
        split at given
        · exact absurd ‹_› (unread text _ rfl)
        · cases given
  · simp only [command?, read, other] at given
    cases given
  · exact .inl ⟨error.message, refused⟩
  · exact .inr taken

end Connection

/-! ## What a frame hears -/

/-- Some packets were handed on, no line was sent, and the stream ended with a refusal only. -/
structure FrameEnd.Heard (before : FrameEnd) (done : List FrameNotice × FrameEnd)
    (packets : List Packet) : Prop where
  lines : done.1.filterMap FrameNotice.line? = []
  closed : done.1.any FrameNotice.isClosed = true → done.2.stage.IsParted
  parted : before.stage.IsParted → done.2.stage.IsParted
  isOpen : before.stage.IsOpen →
    done.2.stage.IsOpen ∧ done.1.filterMap FrameNotice.packet? = packets
  released : done.2.released = before.released

namespace FrameEnd.Heard

theorem nothing (frameEnd : FrameEnd) : frameEnd.Heard ([], frameEnd) [] :=
  ⟨rfl, nofun, id, fun isOpen => ⟨isOpen, rfl⟩, rfl⟩

theorem append
    {before : FrameEnd} {first later : List FrameNotice × FrameEnd} {packets more : List Packet}
    (heard : before.Heard first packets) (next : first.2.Heard later more) :
    before.Heard (first.1 ++ later.1, later.2) (packets ++ more) where
  lines := by rw [List.filterMap_append, heard.lines, next.lines, List.append_nil]
  closed := by
    intro closed
    rw [List.any_append, Bool.or_eq_true] at closed
    exact closed.elim (fun before => next.parted (heard.closed before)) next.closed
  parted := fun parted => next.parted (heard.parted parted)
  isOpen := by
    intro isOpen
    rcases heard.isOpen isOpen with ⟨stays, some⟩
    rcases next.isOpen stays with ⟨remains, others⟩
    exact ⟨remains, by rw [List.filterMap_append, some, others]⟩
  released := next.released.trans heard.released

theorem ofLink
    {frameEnd : FrameEnd} {link : SocketLink} (stands : frameEnd.stage = .attached link)
    (waiting : List (UInt64 × Call)) {notices : List FrameNotice} {packets : List Packet}
    (lines : notices.filterMap FrameNotice.line? = [])
    (stillOpen : notices.any FrameNotice.isClosed = false)
    (some : notices.filterMap FrameNotice.packet? = packets) :
    frameEnd.Heard (notices, frameEnd.withLink { link with waiting }) packets where
  lines := lines
  closed := by
    rw [stillOpen]
    nofun
  parted := by
    refine fun parted => ⟨nofun, ?_⟩
    rintro other ⟨⟩
    exact parted.2 link stands
  isOpen := by
    refine fun isOpen => ⟨?_, some⟩
    rintro other ⟨⟩
    exact isOpen link stands
  released := rfl

end FrameEnd.Heard

/-! ## Phases -/

/-- What a link sends: requests, and a farewell after them if it writes no more. -/
def Speaking (writing : Bool) (ahead : List FrameMessage) : Prop :=
  ∃ requests, (∀ message ∈ requests, message.request ≠ .disconnect) ∧
    ahead = requests ++ if writing then [] else [.farewell]

namespace Speaking

variable {writing : Bool} {ahead : List FrameMessage}

/-- The next message is a request, or it is the farewell and the last. -/
theorem next {message : FrameMessage} (speaking : Speaking writing (message :: ahead)) :
    message.request ≠ .disconnect ∧ Speaking writing ahead ∨
      message = .farewell ∧ ahead = [] ∧ writing = false := by
  rcases speaking with ⟨requests, plain, same⟩
  cases requests with
  | nil =>
      cases writing with
      | true =>
          cases same
      | false =>
          cases same
          exact .inr ⟨rfl, rfl, rfl⟩
  | cons first requests =>
      cases same
      rw [List.forall_mem_cons] at plain
      exact .inl ⟨plain.1, requests, plain.2, rfl⟩

theorem push_request
    (speaking : Speaking true ahead) {request : Request} (other : request ≠ .disconnect) :
    Speaking true (ahead ++ [.ofRequest request]) := by
  rcases speaking with ⟨requests, plain, rfl⟩
  refine ⟨requests ++ [.ofRequest request], ?_, by simp⟩
  intro message inside
  rcases List.mem_append.mp inside with old | new
  · exact plain message old
  · rw [List.mem_singleton.mp new]
    exact other

theorem push_farewell (speaking : Speaking true ahead) : Speaking false (ahead ++ [.farewell]) := by
  rcases speaking with ⟨requests, plain, rfl⟩
  exact ⟨requests, plain, by simp⟩

end Speaking

/-- How far a connection has come, by the identity that was given out on it, the frame's and the
hub's standing, the task that hears it, and the messages on their way there and back. -/
inductive Progress (identity : Option FrameId) (standing : FrameStage) (stage : Stage)
    (task : HubTask) (ahead : List FrameMessage) (told : List HubMessage) : Prop where
  | opening (deadline : Nat) (displayName : Option String) (unknown : identity = none)
      (fresh : standing = .greeting) (open' : stage = .greeting deadline) (free : task = .free)
      (greets : ahead = [.ofRequest (.connect displayName)]) (silent : told = [])
  | asking (deadline : Nat) (unknown : identity = none) (fresh : standing = .greeting)
      (open' : stage = .greeting deadline) (waits : task = .waiting) (greeted : ahead = [])
      (silent : told = [])
  | taken (deadline : Nat) (frame : FrameId) (known : identity = some frame)
      (fresh : standing = .greeting) (open' : stage = .greeting deadline)
      (answered : task = .answered [.accept frame] (.serving frame)) (greeted : ahead = [])
      (silent : told = [])
  | accepted (frame : FrameId) (later : List HubMessage) (known : identity = some frame)
      (fresh : standing = .greeting) (serving : stage = .serving frame) (free : task = .free)
      (greeted : ahead = []) (accepts : told = .accept frame :: later)
  | attached (link : SocketLink) (known : identity = some link.frame)
      (stands : standing = .attached link) (reads : link.reading = true)
      (serving : stage = .serving link.frame)
      (stays : ∀ messages after, task = .answered messages after → after = .serving link.frame)
      (speaking : Speaking link.writing ahead)
  | refused (unknown : identity = none) (stands : standing = .greeting ∨ standing = .refused)
      (ends : stage = .ended ∧ task = .free ∨
        ∃ deadline reason, stage = .greeting deadline ∧
          task = .answered [.reject reason] .ended ∧ told = [])
      (greeted : ahead = [])
      (rejects : ∀ message ∈ told, ∃ reason, message = .reject reason)
  | gone (link : SocketLink) (known : identity = some link.frame)
      (stands : standing = .attached link) (ended : link.writing = false) (ends : stage = .ended)
      (free : task = .free) (nothing : ahead = [])

namespace Progress

variable {identity : Option FrameId} {standing : FrameStage} {stage : Stage} {task : HubTask}
  {ahead : List FrameMessage} {told : List HubMessage} {frameEnd : FrameEnd}

/-- A message brings a connection on at the frame's end. -/
theorem hear {message : HubMessage}
    (progress : Progress identity frameEnd.stage stage task ahead (message :: told)) :
    Progress identity (frameEnd.hear message).2.stage stage task ahead told ∧
      frameEnd.Heard (frameEnd.hear message) message.relayed?.toList := by
  cases progress with
  | opening _ _ _ _ _ _ _ silent | asking _ _ _ _ _ _ silent | taken _ _ _ _ _ _ _ silent =>
      cases silent
  | accepted frame later known fresh serving free greeted accepts =>
      cases accepts
      have plain : (HubMessage.accept frame).isDelivery = false := rfl
      rw [FrameEnd.hear_accept fresh, HubMessage.relayed?_of_plain plain]
      constructor
      · refine .attached (.attached frame) known rfl rfl serving ?_ ⟨[], nofun, greeted⟩
        rw [free]
        nofun
      · refine ⟨rfl, nofun, fun parted => absurd fresh parted.1, fun _ => ⟨?_, rfl⟩, rfl⟩
        rintro link ⟨⟩
        rfl
  | attached link known stands reads serving stays speaking =>
      rcases FrameEnd.hear_attached stands message with
        ⟨notices, waiting, heard, lines, stillOpen, packets⟩
      rw [heard]
      exact ⟨.attached { link with waiting } known rfl reads serving stays speaking,
        .ofLink stands waiting lines stillOpen (packets reads)⟩
  | refused unknown stands ends greeted rejects =>
      rcases rejects message List.mem_cons_self with ⟨reason, rfl⟩
      have rest : ∀ message ∈ told, ∃ reason, message = .reject reason :=
        fun message inside => rejects message (List.mem_cons_of_mem _ inside)
      have plain : (HubMessage.reject reason).isDelivery = false := rfl
      have closed : stage = .ended ∧ task = .free := by
        rcases ends with closed | ⟨_, _, _, _, silent⟩
        · exact closed
        · cases silent
      rw [HubMessage.relayed?_of_plain plain]
      rcases stands with fresh | refused
      · rcases FrameEnd.hear_reject fresh reason with ⟨error, heard⟩
        rw [heard]
        refine ⟨.refused unknown (.inr rfl) (.inl closed) greeted rest, rfl, ?_, ?_, ?_, rfl⟩
        · exact fun _ => ⟨nofun, nofun⟩
        · exact fun _ => ⟨nofun, nofun⟩
        · exact fun _ => ⟨nofun, rfl⟩
      · rw [FrameEnd.hear_refused refused]
        exact ⟨.refused unknown (.inr refused) (.inl closed) greeted rest, .nothing frameEnd⟩
  | gone link known stands ended ends free nothing =>
      rcases FrameEnd.hear_attached stands message with
        ⟨notices, waiting, heard, lines, stillOpen, _⟩
      rw [heard]
      refine ⟨.gone { link with waiting } known rfl ended ends free nothing, lines, ?_, ?_, ?_, rfl⟩
      · rw [stillOpen]
        nofun
      · refine fun _ => ⟨nofun, ?_⟩
        rintro other ⟨⟩
        exact ended
      · intro isOpen
        rw [isOpen link stands] at ended
        cases ended

/-- Messages bring a connection on one after the other. -/
theorem hearAll {heard later : List HubMessage}
    (progress : Progress identity frameEnd.stage stage task ahead (heard ++ later)) :
    Progress identity (frameEnd.hearAll heard).2.stage stage task ahead later ∧
      frameEnd.Heard (frameEnd.hearAll heard) (heard.filterMap HubMessage.relayed?) := by
  induction heard generalizing frameEnd with
  | nil =>
      exact ⟨progress, .nothing frameEnd⟩
  | cons message rest ih =>
      rcases progress.hear with ⟨next, first⟩
      rcases ih next with ⟨last, others⟩
      refine ⟨last, ?_⟩
      rw [filterMap_cons_toList]
      exact first.append others

/-- The end of the stream leaves a connection that the hub has closed as it is. -/
theorem endOfStream (progress : Progress identity frameEnd.stage .ended task ahead told) :
    Progress identity frameEnd.endOfStream.2.stage .ended task ahead told ∧
      frameEnd.Heard frameEnd.endOfStream [] := by
  cases progress with
  | opening _ _ _ _ open' | asking _ _ _ open' | taken _ _ _ _ open' =>
      cases open'
  | accepted _ _ _ _ serving | attached _ _ _ _ serving =>
      cases serving
  | refused unknown stands ends greeted rejects =>
      rcases stands with fresh | refused
      · have settled : frameEnd.endOfStream =
            ([.greeted (.error .disconnected), .closed], { frameEnd with stage := .refused }) := by
          simp only [FrameEnd.endOfStream, fresh]
          rfl
        rw [settled]
        refine ⟨.refused unknown (.inr rfl) ends greeted rejects, rfl, ?_, ?_, ?_, rfl⟩
        · exact fun _ => ⟨nofun, nofun⟩
        · exact fun _ => ⟨nofun, nofun⟩
        · exact fun _ => ⟨nofun, rfl⟩
      · have settled : frameEnd.endOfStream = ([], frameEnd) := by
          simp only [FrameEnd.endOfStream, refused]
        rw [settled]
        exact ⟨.refused unknown (.inr refused) ends greeted rejects, .nothing frameEnd⟩
  | gone link known stands ended ends free nothing =>
      have settled : frameEnd.endOfStream =
          (link.endOfStream.1.filterMap FrameNotice.ofOutput?,
            frameEnd.withLink { link with waiting := [], reading := false }) := by
        simp only [FrameEnd.endOfStream, stands]
        rfl
      have failed : ∀ notice ∈ link.endOfStream.1.filterMap FrameNotice.ofOutput?,
          ∃ request result, notice = .completed request result := by
        intro notice inside
        rcases List.mem_filterMap.mp inside with ⟨output, known, same⟩
        rcases List.mem_map.mp known with ⟨entry, _, rfl⟩
        exact ⟨_, _, (Option.some.inj same).symm⟩
      rw [settled]
      refine ⟨.gone { link with waiting := [], reading := false } known rfl ended ends free nothing,
        ?_, ?_, ?_, ?_, rfl⟩
      · refine List.filterMap_eq_nil_iff.mpr fun notice inside => ?_
        rcases failed notice inside with ⟨request, result, rfl⟩
        rfl
      · intro closed
        rcases List.any_eq_true.mp closed with ⟨notice, inside, closes⟩
        rcases failed notice inside with ⟨request, result, rfl⟩
        cases closes
      · refine fun _ => ⟨nofun, ?_⟩
        rintro other ⟨⟩
        exact ended
      · intro isOpen
        rw [isOpen link stands] at ended
        cases ended

/-- The connection of an attached link is served, or it has ended after the farewell. -/
theorem of_attached {link : SocketLink}
    (progress : Progress identity (.attached link) stage task ahead told) :
    identity = some link.frame ∧
      (link.reading = true ∧ stage = .serving link.frame ∧
          (∀ messages after, task = .answered messages after → after = .serving link.frame) ∧
            Speaking link.writing ahead ∨
        link.writing = false ∧ stage = .ended ∧ task = .free ∧ ahead = []) := by
  cases progress with
  | opening _ _ _ fresh | asking _ _ fresh | taken _ _ _ fresh | accepted _ _ _ fresh =>
      cases fresh
  | refused _ stands =>
      rcases stands with stands | stands <;> cases stands
  | attached other known stands reads serving stays speaking =>
      cases stands
      exact ⟨known, .inl ⟨reads, serving, stays, speaking⟩⟩
  | gone other known stands ended ends free nothing =>
      cases stands
      exact ⟨known, .inr ⟨ended, ends, free, nothing⟩⟩

/-- What is done at the frame's end brings a connection on. -/
theorem speak {standing after : FrameStage} {messages : List FrameMessage}
    (progress : Progress identity standing stage task ahead told)
    (speaks : standing.Speaks messages after) :
    Progress identity after stage task (ahead ++ messages) told := by
  cases speaks with
  | silent =>
      rw [List.append_nil]
      exact progress
  | @quiet link next same reading writing =>
      rw [List.append_nil]
      rcases progress.of_attached with
        ⟨known, ⟨reads, serving, stays, speaking⟩ | ⟨ended, ends, free, nothing⟩⟩
      · rw [← same] at known serving stays
        exact .attached next known rfl (reading.trans reads) serving stays (writing ▸ speaking)
      · rw [← same] at known
        exact .gone next known rfl (writing.trans ended) ends free nothing
  | @request link next request same reading writes writing other =>
      rcases progress.of_attached with ⟨known, ⟨reads, serving, stays, speaking⟩ | ⟨ended, _⟩⟩
      · rw [writes] at speaking
        rw [← same] at known serving stays
        exact .attached next known rfl (reading.trans reads) serving stays
          (writing ▸ speaking.push_request other)
      · rw [writes] at ended
        cases ended
  | @farewell link next same reading writes ended =>
      rcases progress.of_attached with ⟨known, ⟨reads, serving, stays, speaking⟩ | ⟨closed, _⟩⟩
      · rw [writes] at speaking
        rw [← same] at known serving stays
        exact .attached next known rfl (reading.trans reads) serving stays
          (ended ▸ speaking.push_farewell)
      · rw [writes] at closed
        cases closed

/-- What the hub tells a frame that it serves comes after all that it has told it before. -/
theorem tell {frame : FrameId}
    (progress : Progress identity standing stage task ahead told) (serving : stage = .serving frame)
    (messages : List HubMessage) :
    Progress identity standing stage task ahead (told ++ messages) := by
  cases progress with
  | opening _ _ _ _ open' | asking _ _ _ open' | taken _ _ _ _ open' =>
      rw [open'] at serving
      cases serving
  | accepted frame later known fresh serving free greeted accepts =>
      exact .accepted frame (later ++ messages) known fresh serving free greeted (by simp [accepts])
  | attached link known stands reads serving stays speaking =>
      exact .attached link known stands reads serving stays speaking
  | refused _ _ ends =>
      rcases ends with ⟨ends, _⟩ | ⟨_, _, open', _⟩
      · rw [ends] at serving
        cases serving
      · rw [open'] at serving
        cases serving
  | gone _ _ _ _ ends =>
      rw [ends] at serving
      cases serving

/-- The task that waited writes its answer. -/
theorem resume {messages : List HubMessage} {after : Stage}
    (progress : Progress identity standing stage (.answered messages after) ahead told) :
    Progress identity standing after .free ahead (told ++ messages) := by
  cases progress with
  | opening _ _ _ _ _ free | asking _ _ _ _ free | accepted _ _ _ _ _ free
  | gone _ _ _ _ _ free =>
      cases free
  | taken deadline frame known fresh open' answered greeted silent =>
      cases answered
      exact .accepted frame [] known fresh rfl rfl greeted (by rw [silent]; rfl)
  | attached link known stands reads serving stays speaking =>
      cases stays messages after rfl
      exact .attached link known stands reads rfl nofun speaking
  | refused unknown stands ends greeted rejects =>
      rcases ends with ⟨_, free⟩ | ⟨deadline, reason, _, answered, silent⟩
      · cases free
      · cases answered
        refine .refused unknown stands (.inl ⟨rfl, rfl⟩) greeted ?_
        rw [silent]
        intro message inside
        exact ⟨reason, List.mem_singleton.mp inside⟩

/-- The switchboard answers a task that waits. -/
theorem await
    (progress : Progress identity standing stage .waiting ahead told) {max : Nat}
    {commission : Commission} (same : commission.stage = stage)
    (awaited : commission.isAwaited max = true) (exchange : Exchange) (now : Instant) :
    let answer := commission.answer exchange max now
    Progress (answer.stage.identity?.or identity) standing stage
      (.answered answer.messages answer.stage) ahead told := by
  intro answer
  rcases commission.exists_of_isAwaited awaited with ⟨incoming, command, heard, given, waits⟩
  rw [same] at given
  have handled : answer = Connection.handle exchange max now stage incoming := by
    simp only [answer, Commission.answer, heard, same]
  clear_value answer
  subst handled
  cases progress with
  | opening _ _ _ _ _ free | taken _ _ _ _ _ free | accepted _ _ _ _ _ free
  | gone _ _ _ _ _ free =>
      cases free
  | asking deadline unknown fresh open' _ greeted silent =>
      subst open'
      rcases Connection.command?_cases given with ⟨rfl, _⟩ | ⟨_, serving, _⟩
      · rcases Connection.handle_of_register given exchange now with
          ⟨reason, refused⟩ | ⟨frame, _, accepted⟩
        · rw [refused]
          refine .refused unknown (.inl fresh) (.inr ⟨deadline, reason, rfl, rfl, silent⟩)
            greeted ?_
          rw [silent]
          exact fun _ inside => absurd inside List.not_mem_nil
        · rw [accepted]
          exact .taken deadline frame rfl fresh rfl rfl greeted silent
      · cases serving
  | attached link known stands reads serving stays speaking =>
      subst serving
      have goesOn := Connection.stage_handle_serving exchange now max link.frame incoming
      rw [Connection.isFarewell_of_isAwaited given waits, if_neg Bool.false_ne_true] at goesOn
      rw [goesOn]
      refine .attached link rfl stands reads rfl ?_ speaking
      intro messages after same
      exact (HubTask.answered.inj same).2.symm
  | refused _ _ ends =>
      rcases ends with ⟨_, free⟩ | ⟨_, _, _, answered, _⟩
      · cases free
      · cases answered

/-- The hub hears the next message. -/
theorem heard
    {message : FrameMessage} {rest : List FrameMessage}
    (progress : Progress identity standing stage .free (message :: rest) told) {max : Nat}
    (large : Line.maxSize ≤ max) (number : Nat) (exchange : Exchange) (now : Instant) :
    let commission : Commission := ⟨number, stage, some (LineReader.seen max message.toJson)⟩
    let answer := commission.answer exchange max now
    (commission.isAwaited max = true → Progress identity standing stage .waiting rest told) ∧
      (commission.isAwaited max = false →
        Progress identity standing answer.stage .free rest (told ++ answer.messages)) := by
  intro commission answer
  cases progress with
  | asking _ _ _ _ waits | taken _ _ _ _ _ waits =>
      cases waits
  | accepted _ _ _ _ _ _ greeted | refused _ _ _ greeted | gone _ _ _ _ _ _ greeted =>
      cases greeted
  | opening deadline displayName unknown fresh open' free greets silent =>
      subst open'
      cases greets
      constructor
      · exact fun _ => .asking deadline unknown fresh rfl rfl rfl silent
      · intro unheard
        -- A greeting that is too long for the hub ends the connection without a question.
        rcases Connection.command?_seen_connect max deadline displayName with given | long
        · have awaited : commission.isAwaited max = true := by
            simp only [commission, Commission.isAwaited, Commission.command?, given]
            rfl
          rw [awaited] at unheard
          cases unheard
        · have hungUp : answer = Connection.hangUp exchange := by
            simp only [answer, commission, Commission.answer, long]
            rfl
          rw [hungUp]
          refine .refused unknown (.inl fresh) (.inl ⟨rfl, rfl⟩) rfl ?_
          rw [silent]
          exact fun _ inside => absurd inside List.not_mem_nil
  | attached link known stands reads serving stays speaking =>
      subst serving
      have goesOn := Connection.stage_handle_serving exchange now max link.frame
        (LineReader.seen max message.toJson)
      -- Only a farewell ends the connection, and it is the last that the link says.
      rcases speaking.next with ⟨other, speaking⟩ | ⟨rfl, rfl, ended⟩
      · rw [Connection.isFarewell_seen_of_ne other, if_neg Bool.false_ne_true] at goesOn
        constructor
        · exact fun _ => .attached link known stands reads rfl nofun speaking
        · refine fun _ => .attached link known stands reads goesOn nofun speaking
      · rw [Connection.isFarewell_seen_farewell large, if_pos rfl] at goesOn
        constructor
        · intro awaited
          rcases commission.exists_of_isAwaited awaited with
            ⟨incoming, command, heard, given, waits⟩
          obtain rfl := Option.some.inj heard
          have unheard := Connection.isFarewell_of_isAwaited given waits
          rw [Connection.isFarewell_seen_farewell large] at unheard
          cases unheard
        · exact fun _ => .gone link known stands ended goesOn rfl rfl

/-- A connection on which everything has been heard, the farewell too, has ended. -/
theorem ended_of_parted
    (progress : Progress identity standing stage .free [] told) (parted : standing.IsParted) :
    stage = .ended := by
  cases progress with
  | opening _ _ _ fresh | asking _ _ fresh | taken _ _ _ fresh | accepted _ _ _ fresh =>
      exact absurd fresh parted.1
  | attached link known stands reads serving stays speaking =>
      rw [parted.2 link stands] at speaking
      rcases speaking with ⟨requests, _, same⟩
      simp at same
  | refused _ _ ends =>
      rcases ends with ⟨ended, _⟩ | ⟨_, _, _, answered, _⟩
      · exact ended
      · cases answered
  | gone _ _ _ _ ends =>
      exact ends

end Progress

end SessionBus
