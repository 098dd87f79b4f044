import SessionBus.Proofs.Bus.Refinement
import SessionBus.Proofs.Transport.Endpoints

/-!
# Frames behind sockets are served

Frames that reach a hub through sockets are served by it just as frames in memory are, as long as
every line that is written on either side is short enough and the data of packets are portable.
-/

namespace SessionBus

namespace Demand

def packet? : Demand → Option Packet
  | .send _ _ packet => some packet
  | _ => none

end Demand

/-- The lines that a hub writes. -/
def Output.lines (outputs : List Output) : List String :=
  outputs.filterMap fun output =>
    match output with
    | .write _ message => some (Line.ofHub message)
    | .close _ => none

namespace Sockets

/-- The line of a request of a frame, and the lines that the hub writes when it has come. -/
def exchanged (sockets : Sockets) (frame : FrameId) (now : Instant)
    (request : SocketLink → Request) : List String :=
  (sockets.endpoint? frame).elim [] fun endpoint =>
    let line := Line.ofFrame (.ofRequest (request endpoint.link))
    line :: Output.lines (sockets.hub.receive endpoint.connection now line.toUTF8.toList).2

/-- The lines that are written on either side to meet a demand. -/
def traffic (sockets : Sockets) (now : Instant) : Demand → List String
  | .attach displayName =>
      match sockets.hub.accept with
      | (none, _) => []
      | (some connection, hub) =>
          let line := SocketLink.greeting displayName
          line :: Output.lines (hub.receive connection now line.toUTF8.toList).2
  | .call frame what => sockets.exchanged frame now fun link => what.request link.nextRequest
  | .send frame route packet => sockets.exchanged frame now fun _ => .send route packet
  | .detach frame => sockets.exchanged frame now fun _ => .disconnect

/-- The demands that sockets meet: lines are short enough, and data of packets are portable. -/
def Fits : Transport → Instant → Demand → Prop
  | .direct _, _, _ => True
  | .linked sockets, now, demand =>
      (∀ line ∈ sockets.traffic now demand, line.utf8ByteSize ≤ Line.maxSize) ∧
        ∀ packet ∈ demand.packet?, packet.data.document.IsPortable dataLevels

instance : (transport : Transport) → (now : Instant) → (demand : Demand) →
    Decidable (Fits transport now demand)
  | .direct _, _, _ => .isTrue trivial
  | .linked sockets, now, demand =>
      inferInstanceAs <| Decidable <|
        (∀ line ∈ sockets.traffic now demand, line.utf8ByteSize ≤ Line.maxSize) ∧
          ∀ packet ∈ demand.packet?, packet.data.document.IsPortable dataLevels

/-- Behind sockets a refusal is told by its message, and its code if a call was refused. -/
def faults : Faults where
  attach error := .rejected error.message
  call := SocketLink.refusal

/-- The sockets serve the switchboard, times set aside, and hold the packets. -/
def Related : Transport → Switchboard → List FrameId → Pending → Prop
  | .direct _, _, _, _ => False
  | .linked sockets, board, known, pending =>
      ∃ timed : Switchboard, sockets.Links timed known pending ∧ timed.timeless = board

theorem related_start
    (limits : Limits) {maxMessageSize : Nat} (roomy : Line.maxSize ≤ maxMessageSize)
    (path : String) (displayName : Option String) :
    Related (.linked ⟨.start limits maxMessageSize, path, displayName, []⟩) (.empty limits) []
      .nothing := by
  refine ⟨.empty limits, ?_, rfl⟩
  constructor
  · exact Hub.rests_start limits roomy
  · rfl
  · exact List.nodup_nil
  · exact List.nodup_nil
  · exact nofun
  · exact nofun
  · exact nofun
  · simp [Switchboard.empty, FrameSet.empty]
  · exact nofun
  · exact fun _ _ => rfl

/-- Every related transport is a hub with sockets. -/
theorem exists_of_related
    {transport : Transport} {board : Switchboard} {known : List FrameId} {pending : Pending}
    (related : Related transport board known pending) :
    ∃ sockets timed, transport = .linked sockets ∧ sockets.Links timed known pending ∧
      timed.timeless = board := by
  cases transport with
  | direct exchange =>
      exact related.elim
  | linked sockets =>
      rcases related with ⟨timed, links, same⟩
      exact ⟨sockets, timed, rfl, links, same⟩

variable {sockets : Sockets} {board : Switchboard} {known : List FrameId} {pending : Pending}

/-! ## Collecting -/

theorem Links.collect (links : sockets.Links board known pending) (frame : FrameId) :
    (sockets.collect frame).1 = pending frame ∧
      (sockets.collect frame).2.Links board known (pending.without frame) := by
  by_cases inside : frame ∈ known
  · rcases links.located inside with ⟨before, endpoint, behind, located⟩
    let emptied : Endpoint := { endpoint with inbound := [] }
    have set := located.setEndpoint (show emptied.link.frame = frame from located.own)
    have taken : sockets.collect frame =
        (endpoint.inbound, { sockets with endpoints := before ++ emptied :: behind }) := by
      unfold Sockets.collect
      rw [located.endpoint?, ← set]
    rw [taken]
    constructor
    · rw [links.inbound endpoint located.mem, located.own]
    · have kept : Kept endpoint emptied := ⟨rfl, rfl, links.idle endpoint located.mem⟩
      apply links.keep located kept rfl links.hub rfl
      · simp [Pending.without, emptied]
      · intro other different
        simp [Pending.without, different]
  · have absent : sockets.endpoint? frame = none := by
      apply Keyed.find?_eq_none
      rw [links.frames]
      exact inside
    have nothing := links.absent frame inside
    have same : pending.without frame = pending := by
      funext other
      by_cases here : other = frame <;> simp [Pending.without, here, nothing]
    unfold Sockets.collect
    rw [absent, same]
    exact ⟨nothing.symm, links⟩

/-! ## Lines -/

/-- The link of a registered frame is open, and its connection serves it. -/
theorem Links.located_open
    (links : sockets.Links board known pending) {frame : FrameId}
    (inside : frame ∈ board.frames.toList) :
    ∃ before endpoint behind, sockets.Located frame before endpoint behind ∧
      endpoint.link.waiting = [] ∧ endpoint.link.reading = true ∧ endpoint.link.writing = true ∧
        (endpoint.connection, frame) ∈ sockets.served := by
  rcases links.located (links.attached frame inside) with ⟨before, endpoint, behind, located⟩
  have mem := located.mem
  rcases links.idle endpoint mem with ⟨waiting, reading⟩
  have writing : endpoint.link.writing = true := by
    rw [← links.registered endpoint mem, located.own]
    exact inside
  refine ⟨before, endpoint, behind, located, waiting, reading.trans writing, writing, ?_⟩
  rw [← located.own]
  exact List.mem_map.mpr ⟨endpoint, List.mem_filter.mpr ⟨mem, writing⟩, rfl⟩

/-- A line that is sent reaches the hub, whose only output is taken by the endpoint. -/
theorem Located.transmit
    {frame : FrameId} {before behind : List Endpoint} {endpoint : Endpoint}
    (located : sockets.Located frame before endpoint behind) {now : Instant} {line : String}
    {hub : Hub} {output : Output}
    (received :
      sockets.hub.receive endpoint.connection now line.toUTF8.toList = (hub, [output]))
    (there : output.connection = endpoint.connection) :
    sockets.transmit endpoint.connection now line =
      ({ sockets with hub, endpoints := before ++ (endpoint.take output).1 :: behind },
        (endpoint.take output).2) := by
  simp only [Sockets.transmit, received]
  exact (located.withHub hub).carry there

/-- The endpoint of a frame is another one. -/
theorem Located.withEndpoint
    {frame : FrameId} {before behind : List Endpoint} {endpoint changed : Endpoint}
    (located : sockets.Located frame before endpoint behind)
    (own : changed.link.frame = frame) (same : changed.connection = endpoint.connection) :
    Located { sockets with endpoints := before ++ changed :: behind } frame before changed
      behind :=
  ⟨rfl, own, located.frames, same ▸ located.connections⟩

/-! ## Calls -/

theorem frames_reply
    (board : Switchboard) (frame : FrameId) (now : Instant) (id : UInt64) (what : Call) :
    (Hub.reply board frame now id what).2.frames = board.frames := by
  cases what with
  | claim session =>
      exact (board.steady_claim frame session now).frames
  | join | describe =>
      rfl

theorem Links.call
    (links : sockets.Links board known .nothing) {frame : FrameId}
    (inside : frame ∈ board.frames.toList) (now : Instant) (what : Call)
    (short : ∀ line ∈ sockets.traffic now (.call frame what), line.utf8ByteSize ≤ Line.maxSize) :
    ∃ result after, sockets.call frame now what = (some result, after) ∧
      result.map CallResult.timeless =
        (board.timeless.answer frame what).1.mapError faults.call ∧
      ∃ timed, after.Links timed known .nothing ∧
        timed.timeless = (board.timeless.answer frame what).2 := by
  obtain ⟨before, endpoint, behind, located, idle, reading, writing, served⟩ :=
    links.located_open inside
  simp only [traffic, exchanged, located.endpoint?, Option.elim_some, List.forall_mem_cons]
    at short
  let id := endpoint.link.nextRequest
  let reply := Hub.reply board frame now id what
  let line := Line.ofFrame (.ofRequest (what.request id))
  rcases links.hub.call served now id what short.1 with ⟨written, rests⟩
  have replyShort : (Line.ofHub reply.1).utf8ByteSize ≤ Line.maxSize := by
    apply short.2
    rw [written]
    exact List.mem_singleton_self _
  rcases endpoint.link.take_reply board frame now what with ⟨result, taken, answer, after⟩
  let started : Endpoint := { endpoint with link := endpoint.link.asking what }
  let finished : Endpoint := { endpoint with link := endpoint.link.asked }
  -- No other call is waiting, so the one answer of the hub is taken for that of this call.
  have completes : started.take (.write endpoint.connection reply.1) =
      (finished, [⟨frame, id, result⟩]) := by
    have portable := SocketLink.isPortable_reply board frame now id what
    have takes : started.link.takeLine (Line.ofHub reply.1) =
        (.completed id result, endpoint.link.asked) :=
      (SocketLink.takeLine_ofHub (show started.link.reading = true from reading) portable
        replyShort).trans taken
    have own : endpoint.link.asked.frame = frame := located.own
    simp only [Endpoint.take, started, if_true]
    rw [show (endpoint.link.asking what).takeLine (Line.ofHub reply.1) = _ from takes]
    simp only [Endpoint.follow, own, Option.toList_some]
    rfl
  have startedLocated := located.withEndpoint (show started.link.frame = frame from located.own) rfl
  let hub := (sockets.hub.receive endpoint.connection now line.toUTF8.toList).1
  have received : sockets.hub.receive endpoint.connection now line.toUTF8.toList =
      (hub, [.write endpoint.connection reply.1]) :=
    Prod.ext rfl written
  have transmitted := startedLocated.transmit received rfl
  rw [completes] at transmitted
  have set := located.setEndpoint (show started.link.frame = frame from located.own)
  refine ⟨result, { sockets with hub, endpoints := before ++ finished :: behind }, ?_, answer,
    reply.2, ?_, after⟩
  · unfold Sockets.call
    rw [located.endpoint?]
    simp only [SocketLink.start_of_idle idle reading writing short.1]
    rw [set, transmitted]
    simp [id]
  · have kept : Kept endpoint finished := ⟨rfl, rfl, rfl, reading.trans writing.symm⟩
    apply links.keep located kept rfl rests (frames_reply board frame now id what)
    · exact links.inbound endpoint located.mem
    · exact fun _ _ => rfl

/-! ## Packets -/

/-- Every packet on its way has a line that can be read. -/
theorem carries_of_traffic
    {served : List (Nat × FrameId)} {pending : Pending}
    (short : ∀ line ∈ Output.lines (served.flatMap (Hub.written pending)),
      line.utf8ByteSize ≤ Line.maxSize)
    (portable : ∀ frame, ∀ packet ∈ pending frame, packet.data.document.IsPortable dataLevels)
    {entry : Nat × FrameId} (inside : entry ∈ served) :
    ∀ packet ∈ pending entry.2, Endpoint.Carries packet := by
  intro packet present
  refine ⟨portable entry.2 packet present, short _ ?_⟩
  have output : Output.write entry.1 (.deliver packet) ∈
      served.flatMap (Hub.written pending) :=
    List.mem_flatMap.mpr ⟨entry, inside, List.mem_map_of_mem present⟩
  exact List.mem_filterMap.mpr ⟨_, output, rfl⟩

/-- What the hub writes brings every endpoint the packets for its frame. -/
theorem Links.after_written
    (links : sockets.Links board known .nothing) {pending : Pending}
    (unregistered : ∀ frame, frame ∉ board.frames.toList → pending frame = [])
    (carries : ∀ entry ∈ sockets.served, ∀ packet ∈ pending entry.2, Endpoint.Carries packet)
    {endpoint : Endpoint} (inside : endpoint ∈ sockets.endpoints) :
    endpoint.after (sockets.served.flatMap (Hub.written pending)) =
      endpoint.withMore (pending endpoint.link.frame) := by
  by_cases writing : endpoint.link.writing = true
  · have served : (endpoint.connection, endpoint.link.frame) ∈ sockets.served :=
      List.mem_map.mpr ⟨endpoint, List.mem_filter.mpr ⟨inside, writing⟩, rfl⟩
    have reading := (links.idle endpoint inside).2.trans writing
    exact Endpoint.after_flatMap_written reading links.hub.numbers served (carries _ served)
  · have others : ∀ entry ∈ sockets.served, entry.1 ≠ endpoint.connection := by
      rintro entry served same
      rcases List.mem_map.mp served with ⟨other, kept, rfl⟩
      rcases List.mem_filter.mp kept with ⟨present, writes⟩
      rcases Keyed.eq_of_mem links.numbers present inside same with rfl
      exact writing writes
    have absent : endpoint.link.frame ∉ board.frames.toList := by
      rw [links.registered endpoint inside]
      exact writing
    rw [Endpoint.after_flatMap_of_ne others, unregistered _ absent]
    simp [Endpoint.withMore]

/-- Packets have come for frames. -/
theorem Links.bring
    (links : sockets.Links board known .nothing) {hub : Hub}
    (rests : hub.Rests board sockets.served sockets.hub.nextNumber) {pending : Pending}
    (absent : ∀ frame, frame ∉ known → pending frame = []) :
    Links
      { sockets with
        hub
        endpoints := sockets.endpoints.map fun endpoint =>
          endpoint.withMore (pending endpoint.link.frame) }
      board known pending where
  hub := by
    have served : Sockets.served
        { sockets with
          hub
          endpoints := sockets.endpoints.map fun endpoint =>
            endpoint.withMore (pending endpoint.link.frame) } = sockets.served := by
      simp only [Sockets.served, List.filter_map, List.map_map]
      rfl
    rw [served, rests.given]
    exact rests
  frames := by
    rw [List.map_map]
    exact links.frames
  apart := links.apart
  numbers := by
    rw [List.map_map]
    exact links.numbers
  numbered := by
    rw [rests.given]
    simp only [List.forall_mem_map]
    exact links.numbered
  idle := by
    simp only [List.forall_mem_map]
    exact links.idle
  registered := by
    simp only [List.forall_mem_map]
    exact links.registered
  attached := links.attached
  inbound := by
    simp only [List.forall_mem_map]
    intro endpoint inside
    rw [Endpoint.withMore, links.inbound endpoint inside]
    rfl
  absent := absent

theorem Links.send
    (links : sockets.Links board known .nothing) {frame : FrameId}
    (inside : frame ∈ board.frames.toList) (now : Instant) (route : Route) {packet : Packet}
    (sender : packet.sender = frame)
    (short : ∀ line ∈ sockets.traffic now (.send frame route packet),
      line.utf8ByteSize ≤ Line.maxSize)
    (portable : packet.data.document.IsPortable dataLevels) :
    (sockets.send frame now route packet).Links board known (.ofPacket board route packet) := by
  rcases links.located_open inside with ⟨before, endpoint, behind, located, _, _, writing, served⟩
  simp only [traffic, exchanged, located.endpoint?, Option.elim_some, List.forall_mem_cons]
    at short
  let line := Line.ofFrame (.ofRequest (.send route packet))
  have registered : ∀ other ∈ board.frames.toList, other ∈ sockets.served.map (·.2) := by
    intro other known
    rcases links.located_open known with ⟨_, endpoint, _, _, _, _, _, served⟩
    exact List.mem_map.mpr ⟨_, served, rfl⟩
  obtain ⟨written, rests⟩ :=
    links.hub.send registered served now route sender portable short.1
  rw [written] at short
  let hub := (sockets.hub.receive endpoint.connection now line.toUTF8.toList).1
  have received : sockets.hub.receive endpoint.connection now line.toUTF8.toList =
      (hub, sockets.served.flatMap (Hub.written (.ofPacket board route packet))) :=
    Prod.ext rfl written
  have sent : sockets.send frame now route packet =
      { sockets with
        hub
        endpoints := sockets.endpoints.map (·.after
          (sockets.served.flatMap (Hub.written (.ofPacket board route packet)))) } := by
    have text : endpoint.link.lineOfPacket? route packet = some line := by
      rw [SocketLink.lineOfPacket?, SocketLink.lineFor_of_short writing short.1]
      rfl
    unfold Sockets.send
    rw [located.endpoint?]
    simp only [text, transmit, received, carry_endpoints]
  have onlyThis : ∀ other, ∀ sent ∈ Pending.ofPacket board route packet other, sent = packet := by
    intro other sent present
    unfold Pending.ofPacket at present
    split at present
    · exact List.mem_singleton.mp present
    · cases present
  -- Every endpoint takes its own lines from what the hub writes, and reads the packets in them.
  have brought : sockets.endpoints.map (·.after
      (sockets.served.flatMap (Hub.written (.ofPacket board route packet)))) =
        sockets.endpoints.map fun endpoint =>
          endpoint.withMore (Pending.ofPacket board route packet endpoint.link.frame) := by
    apply List.map_congr_left
    intro other present
    apply links.after_written _ _ present
    · intro absent unknown
      simp [Pending.ofPacket, unknown]
    · intro entry known
      apply carries_of_traffic short.2 _ known
      intro other sent present
      rw [onlyThis other sent present]
      exact portable
  rw [sent, brought]
  apply links.bring rests
  intro absent unknown
  have unregistered : absent ∉ board.frames.toList :=
    fun registered => unknown (links.attached absent registered)
  simp [Pending.ofPacket, unregistered]

/-! ## Farewells -/

theorem Links.detach
    (links : sockets.Links board known .nothing) {frame : FrameId}
    (inside : frame ∈ board.frames.toList) (now : Instant)
    (short : ∀ line ∈ sockets.traffic now (.detach frame), line.utf8ByteSize ≤ Line.maxSize) :
    (sockets.detach frame now).Links (board.unregister frame).board known .nothing := by
  obtain ⟨before, endpoint, behind, located, idle, _, writing, served⟩ := links.located_open inside
  simp only [traffic, exchanged, located.endpoint?, Option.elim_some, List.forall_mem_cons]
    at short
  let line := Line.ofFrame (.ofRequest .disconnect)
  rcases links.hub.disconnect served now short.1 with ⟨written, rests⟩
  let leaving : Endpoint := { endpoint with link := { endpoint.link with writing := false } }
  let left : Endpoint :=
    { endpoint with
      link := { endpoint.link with waiting := [], reading := false, writing := false } }
  have leavingLocated :=
    located.withEndpoint (show leaving.link.frame = frame from located.own) rfl
  let hub := (sockets.hub.receive endpoint.connection now line.toUTF8.toList).1
  have received : sockets.hub.receive endpoint.connection now line.toUTF8.toList =
      (hub, [.close endpoint.connection]) :=
    Prod.ext rfl written
  have transmitted := leavingLocated.transmit received rfl
  have ends : (leaving.take (.close endpoint.connection)).1 = left := by
    simp only [Endpoint.take, leaving, if_true]
    rfl
  rw [ends] at transmitted
  have detached : sockets.detach frame now =
      { sockets with hub, endpoints := before ++ left :: behind } := by
    have said : endpoint.link.detach = (some line, leaving.link) := by
      rw [SocketLink.detach, SocketLink.lineFor_of_short writing short.1]
      rfl
    have set := located.setEndpoint (show leaving.link.frame = frame from located.own)
    unfold Sockets.detach
    rw [located.endpoint?]
    simp only [said]
    rw [set, transmitted]
  have frames : (board.unregister frame).board.frames = board.frames.erase frame := by
    simp [Switchboard.unregister, inside]
  have kept : Kept endpoint left := ⟨rfl, rfl, rfl, rfl⟩
  rw [detached]
  apply links.replace located kept
  · rw [located.served_of_closed rfl]
    exact rests
  · simp [frames, FrameSet.mem_erase, left]
  · intro other different
    simp [frames, FrameSet.mem_erase, different]
  · exact links.inbound endpoint located.mem
  · exact fun _ _ => rfl

/-! ## Greetings -/

/-- No endpoint takes what the hub does on a new connection. -/
theorem Links.carry_next
    (links : sockets.Links board known pending) {outputs : List Output}
    (there : ∀ output ∈ outputs, output.connection = sockets.hub.nextNumber) (hub : Hub)
    (displayName : Option String) :
    (({ sockets with hub, displayName } : Sockets).carry outputs).1 =
      { sockets with hub, displayName } := by
  have each : ∀ endpoint ∈ sockets.endpoints, endpoint.after outputs = endpoint := by
    intro endpoint inside
    apply Endpoint.after_of_ne
    intro output written
    rw [there output written]
    exact (Nat.ne_of_lt (links.numbered endpoint inside)).symm
  rw [carry_endpoints]
  simp only [(List.map_congr_left each).trans (List.map_id' sockets.endpoints)]

/-- A frame that is taken in has an endpoint. -/
theorem Links.withEndpoint
    (links : sockets.Links board known .nothing) {frame : FrameId} (fresh : frame ∉ known)
    {hub : Hub} {board' : Switchboard}
    (rests : hub.Rests board' (sockets.served ++ [(sockets.hub.nextNumber, frame)])
      (sockets.hub.nextNumber + 1))
    (registered : ∀ other, other ∈ board'.frames.toList ↔
      other = frame ∨ other ∈ board.frames.toList)
    (displayName : Option String) :
    Links
      { sockets with
        hub
        displayName
        endpoints := sockets.endpoints ++ [⟨.attached frame, sockets.hub.nextNumber, []⟩] }
      board' (known ++ [frame]) .nothing where
  hub := by
    have served : Sockets.served
        { sockets with
          hub
          displayName
          endpoints := sockets.endpoints ++ [⟨.attached frame, sockets.hub.nextNumber, []⟩] } =
        sockets.served ++ [(sockets.hub.nextNumber, frame)] := by
      simp [Sockets.served, SocketLink.attached]
    rw [served, rests.given]
    exact rests
  frames := by
    rw [List.map_append, links.frames]
    rfl
  apart := by
    rw [List.nodup_append]
    refine ⟨links.apart, by simp, ?_⟩
    rintro other inside _ new rfl
    exact fresh (List.mem_singleton.mp new ▸ inside)
  numbers := by
    apply Keyed.apart_append.mpr ⟨links.numbers, ?_⟩
    intro endpoint inside
    exact Nat.ne_of_lt (links.numbered endpoint inside)
  numbered := by
    rw [rests.given]
    simp only [List.forall_mem_append, List.forall_mem_singleton]
    exact ⟨fun endpoint inside => Nat.lt_succ_of_lt (links.numbered endpoint inside),
      Nat.lt_succ_self _⟩
  idle := by
    simp only [List.forall_mem_append, List.forall_mem_singleton]
    exact ⟨links.idle, rfl, rfl⟩
  registered := by
    simp only [List.forall_mem_append, List.forall_mem_singleton]
    constructor
    · intro endpoint inside
      have different : endpoint.link.frame ≠ frame := by
        rintro rfl
        exact fresh (links.frames ▸ List.mem_map_of_mem inside)
      rw [registered, ← links.registered endpoint inside]
      simp [different]
    · simp [registered, SocketLink.attached]
  attached := by
    intro other inside
    rw [List.mem_append, List.mem_singleton]
    rcases (registered other).mp inside with new | old
    · exact .inr new
    · exact .inl (links.attached other old)
  inbound := by
    simp only [List.forall_mem_append, List.forall_mem_singleton]
    exact ⟨links.inbound, rfl⟩
  absent := fun _ _ => rfl

/-- A hub that is refused a frame has changed nothing that matters. -/
theorem Links.withHub
    (links : sockets.Links board known .nothing) {hub : Hub} {board' : Switchboard}
    (rests : hub.Rests board' sockets.served (sockets.hub.nextNumber + 1))
    (frames : board'.frames = board.frames) (displayName : Option String) :
    Links { sockets with hub, displayName } board' known .nothing where
  hub := by
    rw [rests.given]
    exact rests
  frames := links.frames
  apart := links.apart
  numbers := links.numbers
  numbered := by
    rw [rests.given]
    exact fun endpoint inside => Nat.lt_succ_of_lt (links.numbered endpoint inside)
  idle := links.idle
  registered := by
    rw [frames]
    exact links.registered
  attached := by
    rw [frames]
    exact links.attached
  inbound := links.inbound
  absent := links.absent

/-- The first line that is written to a new connection answers its greeting. -/
theorem attach_of_received
    (links : sockets.Links board known .nothing) (displayName : Option String) {now : Instant}
    {hub : Hub} {message : HubMessage} {more : List Output}
    (received :
      sockets.hub.accepting.receive sockets.hub.nextNumber now
          (SocketLink.greeting displayName).toUTF8.toList =
        (hub, .write sockets.hub.nextNumber message :: more))
    (there : ∀ output ∈ more, output.connection = sockets.hub.nextNumber) :
    ({ sockets with displayName } : Sockets).attach now =
      match SocketLink.greet (some (Line.ofHub message)) with
      | .ok frame =>
          (.ok frame,
            { sockets with
              hub
              displayName
              endpoints := sockets.endpoints ++ [⟨.attached frame, sockets.hub.nextNumber, []⟩] })
      | .error error =>
          let (hub, outputs) := hub.finish sockets.hub.nextNumber now
          (.error error, (({ sockets with hub, displayName } : Sockets).carry outputs).1) := by
  have all : ∀ output ∈ Output.write sockets.hub.nextNumber message :: more,
      output.connection = sockets.hub.nextNumber := by
    rw [List.forall_mem_cons]
    exact ⟨rfl, there⟩
  have carried := links.carry_next all hub displayName
  have first : firstLine? sockets.hub.nextNumber
      (.write sockets.hub.nextNumber message :: more) = some (Line.ofHub message) := by
    simp [firstLine?, Output.messagesTo]
  unfold Sockets.attach
  cases greeted : SocketLink.greet (some (Line.ofHub message)) <;>
    simp only [links.hub.accept, received, carried, first, greeted]

theorem Links.attach
    (links : sockets.Links board known .nothing) (displayName : Option String) (now : Instant)
    (short : ∀ line ∈ sockets.traffic now (.attach displayName),
      line.utf8ByteSize ≤ Line.maxSize) :
    let attached := ({ sockets with displayName } : Sockets).attach now
    attached.1 = board.register.reply.mapError faults.attach ∧
      ((∀ frame ∈ board.register.reply.toOption, frame ∉ known) →
        attached.2.Links board.register.board
          (known ++ board.register.reply.toOption.toList) .nothing) := by
  simp only [traffic, links.hub.accept, List.forall_mem_cons] at short
  let greeting := (SocketLink.greeting displayName).toUTF8.toList
  let hub := (sockets.hub.accepting.receive sockets.hub.nextNumber now greeting).1
  rcases board.frames_register with ⟨registered, unregistered⟩
  cases reply : board.register.reply with
  | ok frame =>
      rcases links.hub.admit displayName now short.1 reply with ⟨written, rests⟩
      have received : sockets.hub.accepting.receive sockets.hub.nextNumber now greeting =
          (hub, [.write sockets.hub.nextNumber (.accept frame)]) :=
        Prod.ext rfl written
      rw [written] at short
      have greets := SocketLink.greet_accept frame (short.2 _ (List.mem_singleton_self _))
      have there : ∀ output ∈ ([] : List Output), output.connection = sockets.hub.nextNumber := by
        simp
      have attached := attach_of_received links displayName received there
      simp only [greets] at attached
      rw [attached]
      refine ⟨rfl, fun unknown => ?_⟩
      have fresh := unknown frame rfl
      -- A frame that was never taken in has no connection, not even one that says farewell.
      have unserved : frame ∉ sockets.served.map (·.2) := by
        intro served
        rcases List.mem_map.mp served with ⟨entry, inside, rfl⟩
        rcases List.mem_map.mp inside with ⟨endpoint, kept, rfl⟩
        apply fresh
        rw [← links.frames]
        exact List.mem_map_of_mem (List.mem_filter.mp kept).1
      exact links.withEndpoint fresh (rests unserved) (registered frame reply) displayName
  | error error =>
      rcases links.hub.refuse displayName now short.1 reply with ⟨written, rests, ended⟩
      have received : sockets.hub.accepting.receive sockets.hub.nextNumber now greeting =
          (hub, [.write sockets.hub.nextNumber (.reject error.message),
            .close sockets.hub.nextNumber]) :=
        Prod.ext rfl written
      rw [written] at short
      have greets := SocketLink.greet_reject error.message
        (short.2 _ (List.mem_singleton_self _))
      have finished : hub.finish sockets.hub.nextNumber now = (hub, []) := by
        unfold Hub.finish
        simp only [hub, greeting, ended]
      have there : ∀ output ∈ [Output.close sockets.hub.nextNumber],
          output.connection = sockets.hub.nextNumber := by
        simp [Output.connection]
      have attached := attach_of_received links displayName received there
      simp only [greets, finished, carry, List.foldl_nil] at attached
      simp only [attached, Fallible.error_mapError, Except.toOption, Option.toList_none,
        List.append_nil]
      exact ⟨rfl, fun _ => links.withHub rests (unregistered error reply) displayName⟩

/-- Frames behind sockets are served, as far as their demands fit. -/
theorem serves : Serves Related faults Fits where
  attach := by
    intro transport board known displayName now related fit
    rcases exists_of_related related with ⟨sockets, timed, rfl, links, rfl⟩
    rcases links.attach displayName now fit.1 with ⟨answer, after⟩
    rcases timed.register_timeless with ⟨sameReply, sameBoard⟩
    rw [sameReply, sameBoard]
    exact ⟨answer, fun fresh => ⟨_, after fresh, rfl⟩⟩
  call := by
    intro transport board known frame now what related inside fit
    rcases exists_of_related related with ⟨sockets, timed, rfl, links, rfl⟩
    rcases links.call inside now what fit.1 with ⟨result, after, called, answer, linked⟩
    simp only [Transport.call, called]
    exact ⟨congrArg some answer, linked⟩
  send := by
    intro transport board known frame now packet related inside sender fit
    rcases exists_of_related related with ⟨sockets, timed, rfl, links, rfl⟩
    exact ⟨timed, links.send inside now packet.route sender fit.1 (fit.2 packet rfl), rfl⟩
  detach := by
    intro transport board known frame now related inside fit
    rcases exists_of_related related with ⟨sockets, timed, rfl, links, rfl⟩
    exact ⟨_, links.detach inside now fit.1, (timed.unregister_timeless frame).symm⟩
  collect := by
    intro transport board known pending frame related
    rcases exists_of_related related with ⟨sockets, timed, rfl, links, rfl⟩
    rcases links.collect frame with ⟨packets, after⟩
    exact ⟨packets, timed, after, rfl⟩

end Sockets

end SessionBus
