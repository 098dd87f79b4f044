import SessionBus.Proofs.Transport.Link
import SessionBus.Transport.Sockets

/-!
# The endpoints of frames behind sockets

Every frame that is linked to a hub has an endpoint of its own, which takes what the hub does on its
connection and nothing else.  Between two demands every link is idle, the hub is at rest, and what
has come for a frame lies at its endpoint.
-/

namespace SessionBus

/-- The connection that an output is about. -/
def Output.connection : Output → Nat
  | .write connection _ => connection
  | .close connection => connection

namespace Endpoint

/-- The endpoint after what the hub does. -/
def after (endpoint : Endpoint) (outputs : List Output) : Endpoint :=
  outputs.foldl (fun endpoint output => (endpoint.take output).1) endpoint

/-- The endpoint with more packets that have come for its frame. -/
def withMore (endpoint : Endpoint) (packets : List Packet) : Endpoint :=
  { endpoint with inbound := endpoint.inbound ++ packets }

variable {endpoint : Endpoint}

/-- What the hub does on other connections does not matter. -/
theorem take_of_ne {output : Output} (other : output.connection ≠ endpoint.connection) :
    endpoint.take output = (endpoint, []) := by
  cases output with
  | write connection message =>
      exact if_neg other
  | close connection =>
      exact if_neg other

theorem after_of_ne
    {outputs : List Output}
    (others : ∀ output ∈ outputs, output.connection ≠ endpoint.connection) :
    endpoint.after outputs = endpoint := by
  induction outputs with
  | nil =>
      rfl
  | cons output rest ih =>
      rw [after, List.foldl_cons, take_of_ne (others output List.mem_cons_self)]
      exact ih fun other inside => others other (List.mem_cons_of_mem _ inside)

/-- A packet whose line can be read. -/
def Carries (packet : Packet) : Prop :=
  packet.data.document.IsPortable dataLevels ∧
    (Line.ofHub (.deliver packet)).utf8ByteSize ≤ Line.maxSize

theorem take_delivery
    (reading : endpoint.link.reading = true) {packet : Packet} (carries : Carries packet) :
    endpoint.take (.write endpoint.connection (.deliver packet)) =
      (endpoint.withMore [packet], []) := by
  have portable : (HubMessage.deliver packet).IsPortable := by
    rintro other ⟨⟩
    exact carries.1
  simp only [take, if_true, SocketLink.takeLine_ofHub reading portable carries.2]
  rfl

/-- The packets of its own frame are put behind those that have come. -/
theorem after_written
    (reading : endpoint.link.reading = true) {packets : List Packet}
    (carries : ∀ packet ∈ packets, Carries packet) :
    endpoint.after (packets.map fun packet => .write endpoint.connection (.deliver packet)) =
      endpoint.withMore packets := by
  induction packets generalizing endpoint with
  | nil =>
      simp [after, withMore]
  | cons packet rest ih =>
      have first := take_delivery reading (carries packet List.mem_cons_self)
      have later : (endpoint.withMore [packet]).after
          (rest.map fun packet => .write endpoint.connection (.deliver packet)) =
            (endpoint.withMore [packet]).withMore rest :=
        ih reading fun other inside => carries other (List.mem_cons_of_mem _ inside)
      rw [List.map_cons, after, List.foldl_cons, first]
      refine later.trans ?_
      simp [withMore]

theorem after_append (endpoint : Endpoint) (outputs more : List Output) :
    endpoint.after (outputs ++ more) = (endpoint.after outputs).after more :=
  List.foldl_append

/-- What is written to the connections of other frames does not matter. -/
theorem after_flatMap_of_ne
    {pending : Pending} {served : List (Nat × FrameId)}
    (others : ∀ entry ∈ served, entry.1 ≠ endpoint.connection) :
    endpoint.after (served.flatMap (Hub.written pending)) = endpoint := by
  apply after_of_ne
  intro output inside
  rcases List.mem_flatMap.mp inside with ⟨entry, known, written⟩
  rcases List.mem_map.mp written with ⟨packet, _, rfl⟩
  exact others entry known

/-- What the hub writes to the connections that serve frames brings an endpoint its own packets. -/
theorem after_flatMap_written
    (reading : endpoint.link.reading = true) {pending : Pending}
    {served : List (Nat × FrameId)} (numbers : (served.map (·.1)).Nodup) {frame : FrameId}
    (inside : (endpoint.connection, frame) ∈ served)
    (carries : ∀ packet ∈ pending frame, Carries packet) :
    endpoint.after (served.flatMap (Hub.written pending)) = endpoint.withMore (pending frame) := by
  rcases List.append_of_mem inside with ⟨before, behind, rfl⟩
  simp only [List.map_append, List.map_cons, List.nodup_append, List.nodup_cons] at numbers
  rcases numbers with ⟨_, ⟨notBehind, _⟩, notBefore⟩
  have first : ∀ entry ∈ before, entry.1 ≠ endpoint.connection := by
    intro entry known
    exact notBefore _ (List.mem_map_of_mem known) _ List.mem_cons_self
  have last : ∀ entry ∈ behind, entry.1 ≠ (endpoint.withMore (pending frame)).connection := by
    intro entry known same
    apply notBehind
    rw [← show entry.1 = endpoint.connection from same]
    exact List.mem_map_of_mem known
  have own : endpoint.after (Hub.written pending (endpoint.connection, frame)) =
      endpoint.withMore (pending frame) :=
    after_written reading carries
  rw [List.flatMap_append, List.flatMap_cons, after_append, after_append,
    after_flatMap_of_ne first, own, after_flatMap_of_ne last]

end Endpoint

namespace Sockets

/-- Every endpoint follows what the hub does. -/
theorem carry_endpoints (sockets : Sockets) (outputs : List Output) :
    (sockets.carry outputs).1 =
      { sockets with endpoints := sockets.endpoints.map (·.after outputs) } := by
  have along : ∀ (outputs : List Output) (sockets : Sockets) (completed : List Completion),
      (outputs.foldl
        (fun carried output =>
          let taken := carried.1.endpoints.map fun endpoint => endpoint.take output
          ({ carried.1 with endpoints := taken.map (·.1) }, carried.2 ++ taken.flatMap (·.2)))
        (sockets, completed)).1 =
        { sockets with endpoints := sockets.endpoints.map (·.after outputs) } := by
    intro outputs
    induction outputs with
    | nil =>
        intro sockets completed
        simp [Endpoint.after]
    | cons output rest ih =>
        intro sockets completed
        rw [List.foldl_cons, ih]
        simp only [List.map_map]
        rfl
  exact along outputs sockets []

/-! ## Endpoints between demands -/

/-- The connections of the frames that have not said farewell. -/
def served (sockets : Sockets) : List (Nat × FrameId) :=
  (sockets.endpoints.filter (·.link.writing)).map fun endpoint =>
    (endpoint.connection, endpoint.link.frame)

/-- The hub serves the switchboard, every frame that was taken in has one endpoint, whose link is
idle, and what has come for the frame is there. -/
structure Links
    (sockets : Sockets) (board : Switchboard) (known : List FrameId) (pending : Pending) :
    Prop where
  hub : sockets.hub.Rests board sockets.served sockets.hub.nextNumber
  frames : sockets.endpoints.map (·.link.frame) = known
  apart : known.Nodup
  numbers : (sockets.endpoints.map (·.connection)).Nodup
  numbered : ∀ endpoint ∈ sockets.endpoints, endpoint.connection < sockets.hub.nextNumber
  idle :
    ∀ endpoint ∈ sockets.endpoints,
      endpoint.link.waiting = [] ∧ endpoint.link.reading = endpoint.link.writing
  registered :
    ∀ endpoint ∈ sockets.endpoints,
      endpoint.link.frame ∈ board.frames.toList ↔ endpoint.link.writing = true
  attached : ∀ frame ∈ board.frames.toList, frame ∈ known
  inbound : ∀ endpoint ∈ sockets.endpoints, endpoint.inbound = pending endpoint.link.frame
  absent : ∀ frame, frame ∉ known → pending frame = []

variable {sockets : Sockets} {board : Switchboard} {known : List FrameId} {pending : Pending}

/-- The endpoint of a frame among the others. -/
structure Located
    (sockets : Sockets) (frame : FrameId) (before : List Endpoint) (endpoint : Endpoint)
    (behind : List Endpoint) : Prop where
  split : sockets.endpoints = before ++ endpoint :: behind
  own : endpoint.link.frame = frame
  frames : ∀ other ∈ before ++ behind, other.link.frame ≠ frame
  connections : ∀ other ∈ before ++ behind, other.connection ≠ endpoint.connection

/-- The endpoint of a frame can be told from the others by its frame and by its connection. -/
theorem exists_located
    (apart : (sockets.endpoints.map (·.link.frame)).Nodup)
    (numbers : (sockets.endpoints.map (·.connection)).Nodup) {endpoint : Endpoint}
    (inside : endpoint ∈ sockets.endpoints) :
    ∃ before behind, sockets.Located endpoint.link.frame before endpoint behind := by
  rcases List.append_of_mem inside with ⟨before, behind, split⟩
  rw [split, List.map_append, List.map_cons] at apart numbers
  refine ⟨before, behind, split, rfl, ?_, ?_⟩
  · intro other elsewhere same
    have distinct := List.perm_middle.nodup apart
    rw [List.nodup_cons, ← List.map_append] at distinct
    exact distinct.1 (same ▸ List.mem_map_of_mem elsewhere)
  · intro other elsewhere same
    have distinct := List.perm_middle.nodup numbers
    rw [List.nodup_cons, ← List.map_append] at distinct
    exact distinct.1 (same ▸ List.mem_map_of_mem elsewhere)

theorem Links.located
    (links : sockets.Links board known pending) {frame : FrameId} (inside : frame ∈ known) :
    ∃ before endpoint behind, sockets.Located frame before endpoint behind := by
  rw [← links.frames] at inside
  rcases List.mem_map.mp inside with ⟨endpoint, present, rfl⟩
  have apart := links.apart
  rw [← links.frames] at apart
  rcases exists_located apart links.numbers present with ⟨before, behind, located⟩
  exact ⟨before, endpoint, behind, located⟩

section Located

variable {frame : FrameId} {before behind : List Endpoint} {endpoint : Endpoint}

theorem Located.mem (located : sockets.Located frame before endpoint behind) :
    endpoint ∈ sockets.endpoints := by
  rw [located.split]
  simp

theorem Located.endpoint? (located : sockets.Located frame before endpoint behind) :
    sockets.endpoint? frame = some endpoint := by
  have passed : before.find? (fun other => other.link.frame == frame) = none := by
    rw [List.find?_eq_none]
    intro other inside
    simpa using located.frames other (List.mem_append_left _ inside)
  unfold Sockets.endpoint?
  rw [located.split, List.find?_append, passed, Option.none_or, List.find?_cons_of_pos]
  simpa using located.own

theorem Located.setEndpoint
    (located : sockets.Located frame before endpoint behind) {changed : Endpoint}
    (own : changed.link.frame = frame) :
    sockets.setEndpoint changed =
      { sockets with endpoints := before ++ changed :: behind } := by
  have kept : ∀ others : List Endpoint, (∀ other ∈ others, other.link.frame ≠ frame) →
      others.map (fun other => if other.link.frame = frame then changed else other) = others := by
    intro others different
    have each : ∀ other ∈ others,
        (if other.link.frame = frame then changed else other) = other :=
      fun other inside => if_neg (different other inside)
    exact (List.map_congr_left each).trans (List.map_id' others)
  have front := kept before fun other inside =>
    located.frames other (List.mem_append_left _ inside)
  have back := kept behind fun other inside =>
    located.frames other (List.mem_append_right _ inside)
  unfold Sockets.setEndpoint
  simp only [located.split, own, List.map_append, List.map_cons, front, back, located.own, if_true]

theorem Located.withHub
    (located : sockets.Located frame before endpoint behind) (hub : Hub) :
    Located { sockets with hub } frame before endpoint behind :=
  ⟨located.split, located.own, located.frames, located.connections⟩

/-- What the hub does on one connection is taken by its endpoint alone. -/
theorem Located.carry
    (located : sockets.Located frame before endpoint behind) {output : Output}
    (there : output.connection = endpoint.connection) :
    sockets.carry [output] =
      ({ sockets with endpoints := before ++ (endpoint.take output).1 :: behind },
        (endpoint.take output).2) := by
  have kept : ∀ others : List Endpoint,
      (∀ other ∈ others, other.connection ≠ endpoint.connection) →
        others.map (fun other => (other.take output).1) = others ∧
          others.flatMap (fun other => (other.take output).2) = [] := by
    intro others different
    have each : ∀ other ∈ others, other.take output = (other, []) := by
      intro other inside
      apply Endpoint.take_of_ne
      rw [there]
      exact (different other inside).symm
    constructor
    · refine (List.map_congr_left fun other inside => ?_).trans (List.map_id' others)
      rw [each other inside]
    · rw [List.flatMap_eq_nil_iff]
      intro other inside
      rw [each other inside]
  obtain ⟨front, frontNone⟩ := kept before fun other inside =>
    located.connections other (List.mem_append_left _ inside)
  obtain ⟨back, backNone⟩ := kept behind fun other inside =>
    located.connections other (List.mem_append_right _ inside)
  unfold Sockets.carry
  simp only [List.foldl_cons, List.foldl_nil, List.nil_append, located.split, List.map_append,
    List.map_cons, List.flatMap_append, List.flatMap_cons, List.map_map, List.flatMap_map,
    Function.comp_def, front, back, frontNone, backNone, List.append_nil]

end Located

/-- An endpoint that has changed between demands: it is that of the same frame, and its link is
idle. -/
structure Kept (endpoint changed : Endpoint) : Prop where
  frame : changed.link.frame = endpoint.link.frame
  connection : changed.connection = endpoint.connection
  idle : changed.link.waiting = [] ∧ changed.link.reading = changed.link.writing

/-- The endpoint of a frame may change with the hub, as long as the switchboard knows whether it is
open. -/
theorem Links.replace
    (links : sockets.Links board known pending) {frame : FrameId}
    {before behind : List Endpoint} {endpoint changed : Endpoint}
    (located : sockets.Located frame before endpoint behind) (kept : Kept endpoint changed)
    {hub : Hub} {board' : Switchboard}
    (rests : hub.Rests board'
      (Sockets.served { sockets with endpoints := before ++ changed :: behind })
      sockets.hub.nextNumber)
    (registered : frame ∈ board'.frames.toList ↔ changed.link.writing = true)
    (others : ∀ other, other ≠ frame →
      (other ∈ board'.frames.toList ↔ other ∈ board.frames.toList))
    {pending' : Pending} (own : changed.inbound = pending' frame)
    (unchanged : ∀ other, other ≠ frame → pending' other = pending other) :
    Links { sockets with hub, endpoints := before ++ changed :: behind } board' known pending' := by
  have inside : frame ∈ known := by
    rw [← links.frames, ← located.own]
    exact List.mem_map_of_mem located.mem
  have elsewhere : ∀ other ∈ before ++ behind, other ∈ sockets.endpoints := by
    intro other present
    rw [located.split]
    simp only [List.mem_append, List.mem_cons] at present ⊢
    rcases present with first | last
    · exact .inl first
    · exact .inr (.inr last)
  have everywhere : ∀ {property : Endpoint → Prop}, property changed →
      (∀ other ∈ before ++ behind, property other) →
        ∀ other ∈ before ++ changed :: behind, property other := by
    intro property here there other present
    simp only [List.mem_append, List.mem_cons] at present there
    rcases present with first | rfl | last
    · exact there other (.inl first)
    · exact here
    · exact there other (.inr last)
  constructor
  · rw [rests.given]
    exact rests
  · rw [← links.frames, located.split]
    simp [kept.frame]
  · exact links.apart
  · have numbers := links.numbers
    rw [located.split] at numbers
    simpa [kept.connection] using numbers
  · rw [rests.given]
    apply everywhere
    · rw [kept.connection]
      exact links.numbered endpoint located.mem
    · exact fun other present => links.numbered other (elsewhere other present)
  · apply everywhere
    · exact kept.idle
    · exact fun other present => links.idle other (elsewhere other present)
  · apply everywhere
    · rw [kept.frame, located.own]
      exact registered
    · intro other present
      rw [others _ (located.frames other present)]
      exact links.registered other (elsewhere other present)
  · intro other known
    by_cases same : other = frame
    · exact same ▸ inside
    · exact links.attached other ((others other same).mp known)
  · apply everywhere
    · rw [own, kept.frame, located.own]
    · intro other present
      rw [unchanged _ (located.frames other present)]
      exact links.inbound other (elsewhere other present)
  · intro other unknown
    rw [unchanged other fun same => unknown (same ▸ inside)]
    exact links.absent other unknown

/-- An endpoint that stays as open as it is serves its frame as before. -/
theorem Located.served
    {frame : FrameId} {before behind : List Endpoint} {endpoint changed : Endpoint}
    (located : sockets.Located frame before endpoint behind) (kept : Kept endpoint changed)
    (writing : changed.link.writing = endpoint.link.writing) :
    Sockets.served { sockets with endpoints := before ++ changed :: behind } =
      sockets.served := by
  simp only [Sockets.served, located.split, List.filter_append, List.filter_cons,
    List.map_append, writing]
  cases endpoint.link.writing <;> simp [kept.frame, kept.connection]

/-- An endpoint that is closed serves its frame no longer. -/
theorem Located.served_of_closed
    {frame : FrameId} {before behind : List Endpoint} {endpoint changed : Endpoint}
    (located : sockets.Located frame before endpoint behind)
    (closed : changed.link.writing = false) :
    Sockets.served { sockets with endpoints := before ++ changed :: behind } =
      sockets.served.filter fun entry => entry.1 != endpoint.connection := by
  have kept : ∀ others : List Endpoint,
      (∀ other ∈ others, other.connection ≠ endpoint.connection) →
        ((others.filter (·.link.writing)).map fun other =>
          (other.connection, other.link.frame)).filter
            (fun entry => entry.1 != endpoint.connection) =
          (others.filter (·.link.writing)).map fun other =>
            (other.connection, other.link.frame) := by
    intro others different
    rw [List.filter_eq_self, List.forall_mem_map]
    intro other inside
    simpa using different other (List.mem_filter.mp inside).1
  have front := kept before fun other inside =>
    located.connections other (List.mem_append_left _ inside)
  have back := kept behind fun other inside =>
    located.connections other (List.mem_append_right _ inside)
  simp only [Sockets.served, located.split, List.filter_append, List.filter_cons,
    List.map_append, closed, front]
  cases endpoint.link.writing <;> simp [back]

/-- The endpoint of a frame may change as long as it stays as open as it is. -/
theorem Links.keep
    (links : sockets.Links board known pending) {frame : FrameId}
    {before behind : List Endpoint} {endpoint changed : Endpoint}
    (located : sockets.Located frame before endpoint behind) (kept : Kept endpoint changed)
    (writing : changed.link.writing = endpoint.link.writing) {hub : Hub} {board' : Switchboard}
    (rests : hub.Rests board' sockets.served sockets.hub.nextNumber)
    (frames : board'.frames = board.frames) {pending' : Pending}
    (own : changed.inbound = pending' frame)
    (unchanged : ∀ other, other ≠ frame → pending' other = pending other) :
    Links { sockets with hub, endpoints := before ++ changed :: behind } board' known pending' := by
  apply links.replace located kept _ _ _ own unchanged
  · rw [located.served kept writing]
    exact rests
  · rw [frames, writing, ← located.own]
    exact links.registered endpoint located.mem
  · intro other _
    rw [frames]

end Sockets

end SessionBus
