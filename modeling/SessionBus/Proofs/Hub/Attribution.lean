import SessionBus.Connector
import SessionBus.Proofs.Hub.Lines
import SessionBus.Proofs.Message.Delivered
import SessionBus.Proofs.Registry.Entries
import SessionBus.Transport.Link

/-!
# Nobody speaks for another frame

Whatever bytes come on the connections of a hub, a frame is held responsible only for what was heard
on its own connection, after the hub had told it its identity there.  The invariant asks where
things come from: every packet that waits in an inbox was sent by the frame that it names as its
sender, and every owner and every entry of the sessions is there because that very frame has asked
for it.

The identity that a packet carries on the wire, its route and the keys of sessions are free for the
sender to choose; none of them is used to tell who speaks.
-/

namespace SessionBus

/-! ## What frames say -/

namespace Hub

variable {hub : Hub} {limits : Limits} {max : Nat} {past future : List Moment} {act : Act}

/-- A frame says something at a moment: the hub hears a line on an open connection on which it has
told this frame its identity, and no other. -/
def Says (max : Nat) (past : List Moment) (act : Act) (frame : FrameId) (request : Request) :
    Prop :=
  ∃ number now text message,
    act = .hear number now (.line text) ∧
      Output.identities number (told past) = [frame] ∧ .close number ∉ told past ∧
      Line.parseFrame text max = .ok message ∧ message.request = request

/-- A frame has said something at some moment of the past. -/
def Said (max : Nat) (moments : List Moment) (frame : FrameId) (request : Request) : Prop :=
  ∃ past moment future, moments = past ++ moment :: future ∧
    Says max past moment.act frame request

theorem Said.later {frame : FrameId} {request : Request} (said : Said max past frame request)
    (moments : List Moment) : Said max (past ++ moments) frame request := by
  rcases said with ⟨before, moment, after, rfl, spoken⟩
  exact ⟨before, moment, after ++ moments, by simp, spoken⟩

theorem Says.said {frame : FrameId} {request : Request} (spoken : Says max past act frame request)
    (hub : Hub) : Said max (past ++ [⟨hub, act⟩]) frame request :=
  ⟨past, ⟨hub, act⟩, [], rfl, spoken⟩

/-- A packet is what a frame has sent, under the identity of this frame. -/
def Sent (speaks : FrameId → Request → Prop) (packet : Packet) : Prop :=
  ∃ route sent, speaks packet.sender (.send route sent) ∧
    packet = { sent with sender := packet.sender }

/-- The entries of a frame in a session are what it has asked for: by a claim, which gives no name,
or by a wish to join, which gives this name. -/
def Entered (speaks : FrameId → Request → Prop) (id : SessionId) (frame : FrameId)
    (entries : List Member) : Prop :=
  (∃ request, speaks frame (.claimSession request id)) ∧
      (∀ member ∈ entries, member.displayName = none) ∨
    ∃ request displayName, speaks frame (.joinSession request id displayName) ∧
      ∀ member ∈ entries, member.displayName = some displayName

theorem Sent.mono {speaks said : FrameId → Request → Prop} {packet : Packet}
    (sent : Sent speaks packet)
    (implied : ∀ frame request, speaks frame request → said frame request) : Sent said packet := by
  rcases sent with ⟨route, original, spoken, same⟩
  exact ⟨route, original, implied _ _ spoken, same⟩

theorem Entered.mono
    {speaks said : FrameId → Request → Prop} {id : SessionId} {frame : FrameId}
    {entries : List Member} (entered : Entered speaks id frame entries)
    (implied : ∀ frame request, speaks frame request → said frame request) :
    Entered said id frame entries := by
  rcases entered with ⟨⟨request, spoken⟩, nameless⟩ | ⟨request, displayName, spoken, named⟩
  · exact .inl ⟨⟨request, implied _ _ spoken⟩, nameless⟩
  · exact .inr ⟨request, displayName, implied _ _ spoken, named⟩

/-! ## Commands -/

/-- The switchboard is asked for sessions and packets only by what the frame concerned says. -/
theorem says_of_mem_commandsFor
    (reached : Reached limits max past hub) {now : Instant} {command : Command}
    (asked : (now, command) ∈ hub.commandsFor act) :
    command = .register ∨ (∃ frame, command = .unregister frame) ∨
      ∃ frame request, Says max past act frame request ∧ request.command? frame = some command := by
  cases act with
  | hear number heardAt incoming =>
      simp only [commandsFor] at asked
      cases known : hub.connection? number with
      | none =>
          simp [known] at asked
      | some connection =>
          simp only [known, List.map_append, List.mem_append, List.mem_map] at asked
          rcases asked with ⟨own, inside, same⟩ | ⟨own, ⟨frame, _, dismissed⟩, same⟩
          · cases same
            have given := Option.mem_toList.mp inside
            rw [reached.consistent.limit] at given
            rcases Connection.command?_cases given with
              ⟨registers, _⟩ | ⟨frame, stage, leaves | ⟨text, message, line, parsed, asks⟩⟩
            · exact .inl registers
            · exact .inr (.inl ⟨frame, leaves⟩)
            · have stands := stage?_of_connection? known
              rw [stage] at stands
              rcases reached.serving stands with ⟨identity, goesOn⟩
              exact .inr (.inr ⟨frame, message.request,
                ⟨number, now, text, message, line ▸ rfl, identity, goesOn, parsed, rfl⟩, asks⟩)
          · cases same
            exact .inr (.inl ⟨frame, dismissed.symm⟩)
  | leave number =>
      simp only [commandsFor] at asked
      split at asked
      · cases asked
      · rcases List.mem_map.mp asked with ⟨frame, _, same⟩
        cases same
        exact .inr (.inl ⟨frame, rfl⟩)
  | accept | read | forward | pass | stop =>
      cases asked

theorem claimSession_of_command? {frame claimant : FrameId} {request : Request} {id : SessionId}
    (asks : request.command? frame = some (.claim claimant id)) :
    claimant = frame ∧ ∃ number, request = .claimSession number id := by
  cases request <;> cases asks
  exact ⟨rfl, _, rfl⟩

theorem joinSession_of_command?
    {frame joining : FrameId} {request : Request} {id : SessionId} {displayName : String}
    (asks : request.command? frame = some (.join joining id displayName)) :
    joining = frame ∧ ∃ number, request = .joinSession number id displayName := by
  cases request <;> cases asks
  exact ⟨rfl, _, rfl⟩

theorem send_of_command?
    {frame : FrameId} {request : Request} {route : Route} {packet : Packet}
    (asks : request.command? frame = some (.deliver route packet)) :
    ∃ sent, request = .send route sent ∧ packet = { sent with sender := frame } := by
  cases request <;> cases asks
  exact ⟨_, rfl, rfl⟩

/-! ## Changes -/

theorem describe_of_board {exchange after : Exchange} (same : after.board = exchange.board)
    (id : SessionId) : after.describe id = exchange.describe id := by
  rw [Exchange.describe, Exchange.describe, same]

/-- An act changes nothing about a session, or it is given by some commands. -/
theorem describe_perform (hub : Hub) (act : Act) :
    (∀ id, (hub.perform act).1.exchange.describe id = hub.exchange.describe id) ∨
      (hub.perform act).1.exchange = hub.exchange.askAll (hub.commandsFor act) := by
  by_cases writes : act = .forward
  · left
    subst writes
    exact describe_of_board (board_forward hub)
  · exact .inr (hub.exchange_perform writes)

/-- A session gets an owner at a moment only because this frame claims it. -/
theorem owner?_perform (reached : Reached limits max past hub) (act : Act) (id : SessionId) :
    (hub.perform act).1.exchange.owner? id = hub.exchange.owner? id ∨
      ∃ frame request, Says max past act frame (.claimSession request id) ∧
        (hub.perform act).1.exchange.owner? id = some frame := by
  rcases hub.describe_perform act with same | performed
  · left
    rw [Exchange.owner?, Exchange.owner?, same]
  · rw [performed]
    rcases hub.exchange.owner?_askAll (hub.commandsFor act) id with
      same | ⟨now, frame, asked, owner⟩
    · exact .inl same
    · right
      rcases says_of_mem_commandsFor reached asked with
        registers | ⟨_, leaves⟩ | ⟨speaker, request, spoken, asks⟩
      · cases registers
      · cases leaves
      · rcases claimSession_of_command? asks with ⟨rfl, number, rfl⟩
        exact ⟨frame, number, spoken, owner⟩

/-- The entries of a frame change at a moment only because this frame asks for it. -/
theorem entries_perform
    (reached : Reached limits max past hub) (act : Act) (id : SessionId) (frame : FrameId) :
    (hub.perform act).1.exchange.entries id frame = hub.exchange.entries id frame ∨
      Entered (Says max past act) id frame ((hub.perform act).1.exchange.entries id frame) := by
  rcases hub.describe_perform act with same | performed
  · left
    rw [Exchange.entries, Exchange.entries, same]
  · rw [performed]
    rcases hub.exchange.entries_askAll (hub.commandsFor act) id frame with
      same | ⟨now, command, asked, changes⟩
    · exact .inl same
    · right
      rcases says_of_mem_commandsFor reached asked with
        rfl | ⟨_, rfl⟩ | ⟨speaker, request, spoken, asks⟩
      · rcases changes with ⟨claims, _⟩ | ⟨_, joins, _⟩
        · cases claims
        · cases joins
      · rcases changes with ⟨claims, _⟩ | ⟨_, joins, _⟩
        · cases claims
        · cases joins
      · rcases changes with ⟨rfl, nameless⟩ | ⟨displayName, rfl, named⟩
        · rcases claimSession_of_command? asks with ⟨rfl, number, rfl⟩
          exact .inl ⟨⟨number, spoken⟩, nameless⟩
        · rcases joinSession_of_command? asks with ⟨rfl, number, rfl⟩
          exact .inr ⟨number, displayName, spoken, named⟩

/-- A packet comes to wait at a moment only because a frame sends it. -/
theorem waits_perform
    (reached : Reached limits max past hub) {frame : FrameId} {packet : Packet}
    (waits : (hub.perform act).1.exchange.Waits frame packet) :
    hub.exchange.Waits frame packet ∨ Sent (Says max past act) packet := by
  by_cases writes : act = .forward
  · subst writes
    exact .inl (waits_of_forward waits)
  · rw [hub.exchange_perform writes] at waits
    rcases hub.exchange.waits_of_askAll waits with ⟨now, route, asked⟩ | old
    · right
      rcases says_of_mem_commandsFor reached asked with
        registers | ⟨_, leaves⟩ | ⟨speaker, request, spoken, asks⟩
      · cases registers
      · cases leaves
      · rcases send_of_command? asks with ⟨sent, rfl, rfl⟩
        exact ⟨route, sent, spoken, rfl⟩
    · exact .inl old

/-! ## Where things come from -/

/-- All that waits and all that is recorded is there because the frame concerned has said so. -/
structure Genuine (max : Nat) (past : List Moment) (hub : Hub) : Prop where
  packets : ∀ frame packet, hub.exchange.Waits frame packet → Sent (Said max past) packet
  owners :
    ∀ id frame, hub.exchange.owner? id = some frame →
      ∃ request, Said max past frame (.claimSession request id)
  entries :
    ∀ id frame, hub.exchange.entries id frame ≠ [] →
      Entered (Said max past) id frame (hub.exchange.entries id frame)

theorem genuine_start (limits : Limits) (max : Nat) : Genuine max [] (start limits max) where
  packets := by
    rintro frame packet ⟨inbox, inside, _⟩
    cases inside
  owners := fun _ _ owned => nomatch owned
  entries := fun _ _ some => absurd rfl some

theorem Genuine.perform
    (genuine : Genuine max past hub) (reached : Reached limits max past hub) (act : Act) :
    Genuine max (past ++ [⟨hub, act⟩]) (hub.perform act).1 := by
  have later : ∀ frame request, Said max past frame request →
      Said max (past ++ [⟨hub, act⟩]) frame request :=
    fun _ _ said => said.later _
  have new : ∀ frame request, Says max past act frame request →
      Said max (past ++ [⟨hub, act⟩]) frame request :=
    fun _ _ spoken => spoken.said hub
  constructor
  · intro frame packet waits
    rcases waits_perform reached waits with old | sent
    · exact (genuine.packets frame packet old).mono later
    · exact sent.mono new
  · intro id frame owned
    rcases owner?_perform reached act id with same | ⟨claimant, request, spoken, owner⟩
    · rcases genuine.owners id frame (same ▸ owned) with ⟨request, said⟩
      exact ⟨request, later _ _ said⟩
    · rw [owned, Option.some.injEq] at owner
      exact ⟨request, new _ _ (owner ▸ spoken)⟩
  · intro id frame some
    rcases entries_perform reached act id frame with same | entered
    · rw [same] at some ⊢
      exact (genuine.entries id frame some).mono later
    · exact entered.mono new

theorem Reached.genuine (reached : Reached limits max past hub) : Genuine max past hub := by
  induction reached with
  | start =>
      exact genuine_start limits max
  | act reached act _ ih =>
      exact ih.perform reached act

/-! ## Strangers -/

/-- What is done on a connection that has not been accepted leaves the sessions and all packets
alone; unless it is accepted now, everything stays as it is. -/
structure Harmless (number : Nat) (moment : Moment) : Prop where
  sessions :
    ∀ id, moment.after.exchange.describe id = moment.before.exchange.describe id
  packets :
    ∀ frame packet, moment.after.exchange.Waits frame packet →
      moment.before.exchange.Waits frame packet
  silent :
    ∀ other packet, .write other (.deliver packet) ∉ moment.outputs
  unchanged :
    Output.identities number moment.outputs = [] →
      moment.after.exchange = moment.before.exchange

theorem harmless_of_stranger
    (reached : Reached limits max past hub) (allowed : hub.Allows act) {number : Nat}
    (own : act.number? = some number) (stranger : Output.identities number (told past) = []) :
    Harmless number ⟨hub, act⟩ := by
  have mute : ∀ frame request, ¬ Says max past act frame request := by
    rintro frame request ⟨other, now, text, message, rfl, identity, _⟩
    cases own
    rw [stranger] at identity
    cases identity
  constructor
  · intro id
    rcases hub.describe_perform act with same | performed
    · exact same id
    · refine (congrArg (·.describe id) performed).trans ?_
      apply Exchange.describe_askAll_of_frames
      intro now command asked
      rcases says_of_mem_commandsFor reached asked with
        registers | leaves | ⟨frame, request, spoken, _⟩
      · exact .inl registers
      · exact .inr leaves
      · exact absurd spoken (mute frame request)
  · intro frame packet waits
    rcases waits_perform reached waits with old | ⟨route, sent, spoken, _⟩
    · exact old
    · exact absurd spoken (mute _ _)
  · intro other packet inside
    cases eq_forward_of_delivered inside
    cases own
  · exact reached.exchange_of_stranger own stranger

/-! ## Connectors -/

/-- What a link makes of the line of a packet is that packet, but for its data. -/
theorem packet_of_takeLine
    {link : SocketLink} {packet received : Packet}
    (taken : (link.takeLine (Line.ofHub (.deliver packet))).1 = .packet received) :
    ∃ data, received = { packet with data := data } := by
  unfold SocketLink.takeLine at taken
  split at taken
  · split at taken
    · rename_i message read
      rcases Line.deliver_of_parseHub read with ⟨data, rfl⟩
      cases taken
      exact ⟨data, rfl⟩
    · cases taken
  · cases taken

/-- A connector passes no packet of its own frame on, whatever its link makes of the line. -/
theorem dispatch_own
    {link : SocketLink} {packet received : Packet}
    (taken : (link.takeLine (Line.ofHub (.deliver packet))).1 = .packet received)
    (connector : Connector) (own : packet.sender = connector.frame) :
    connector.dispatch received = connector := by
  rcases packet_of_takeLine taken with ⟨data, rfl⟩
  have refused : connector.accepts { packet with data := data } = false := by
    rw [Connector.accepts, if_pos own]
  rw [Connector.dispatch, refused]
  split <;> rfl

/-! ## All moments of a run -/

/-- At a moment nobody acts for another frame.  Every packet that is written was sent by the frame
that it names, on its own connection, and is not passed on by a connector of that frame; sessions
change by what the frames concerned say on their connections; and a connection that has not been
accepted does no harm. -/
structure Truthful (max : Nat) (past : List Moment) (moment : Moment) : Prop where
  packets :
    ∀ number packet, .write number (.deliver packet) ∈ moment.outputs →
      Sent (Said max past) packet ∧
        ∃ frame, Output.identities number (told past) = [frame] ∧
          ∀ (link : SocketLink) (connector : Connector) (received : Packet),
            connector.frame = frame → packet.sender = frame →
              (link.takeLine (Line.ofHub (.deliver packet))).1 = .packet received →
                connector.dispatch received = connector
  owners :
    ∀ id, moment.after.exchange.owner? id = moment.before.exchange.owner? id ∨
      ∃ frame request, Says max past moment.act frame (.claimSession request id) ∧
        moment.after.exchange.owner? id = some frame
  entries :
    ∀ id frame, moment.after.exchange.entries id frame = moment.before.exchange.entries id frame ∨
      Entered (Says max past moment.act) id frame (moment.after.exchange.entries id frame)
  strangers :
    ∀ number, moment.act.number? = some number → Output.identities number (told past) = [] →
      Harmless number moment

theorem Reached.truthful
    (reached : Reached limits max past hub) (allowed : hub.Allows act) :
    Truthful max past ⟨hub, act⟩ where
  packets := by
    intro number packet written
    cases eq_forward_of_delivered written
    rcases mem_forward written with ⟨connection, known, frame, waiting, serving, waits, same⟩
    cases same
    have found := connection?_of_mem reached.consistent.apart known
    have stands : hub.stage? connection.number = some (.serving frame) := by
      rw [stage?_of_connection? found, serving]
    refine ⟨reached.genuine.packets frame packet waits, frame, (reached.serving stands).1, ?_⟩
    rintro link connector received rfl own taken
    exact dispatch_own taken connector own
  owners := owner?_perform reached act
  entries := entries_perform reached act
  strangers := fun _ own stranger => harmless_of_stranger reached allowed own stranger

/--
Whatever comes to a hub, on any number of connections and in any order, nobody acts for another
frame.  The history of a run tells all that the hub writes; what is heard on a connection are the
lines of the bytes that were read there; all that waits and is recorded in the end comes from what
the frames concerned have said; and it is so at every moment of the run.
-/
theorem nobody_acts_for_another (limits : Limits) (max : Nat) (inputs : List Input) :
    let moments := (start limits max).history inputs
    told moments = ((start limits max).takeAll inputs).2 ∧
      (∀ number, heard number moments <+:
        (reading max number moments).1 ++ (reading max number moments).2.finish.toList) ∧
      Genuine max moments ((start limits max).takeAll inputs).1 ∧
      ∀ past moment future, moments = past ++ moment :: future → Truthful max past moment := by
  intro moments
  have reached : Reached limits max moments _ := reached_history limits max inputs
  refine ⟨told_history limits max inputs, fun number => ?_, reached.genuine, ?_⟩
  · exact (hears_history limits max inputs number).within
  · intro past moment future split
    rw [split] at reached
    rcases reached.of_append with ⟨before, allowed, _⟩
    exact before.truthful allowed

end Hub

end SessionBus
