import SessionBus.Proofs.Transport.Wire
import SessionBus.Settings

/-!
# Links and a hub that work side by side

Every link queues lines, the hub handles the lines of a connection one by one, and a link reads what
the hub has written to it.  Each of them goes on at its own pace, so any number of calls can be on
their way at the same time.

When all that was written on a connection has been handled, the calls that still wait are those that
were missed.
-/

namespace SessionBus

def Output.isWrite : Output → Bool
  | .write _ _ => true
  | .close _ => false

/-- A hub with the links that have connected to it. -/
structure Traffic where
  hub : Hub
  wires : List Wire

namespace Traffic

/-- A turn of a link or of the hub.  Links are named by their position. -/
inductive Move where
  | attach (displayName : Option String) (now : Instant)
  | call (position : Nat) (what : Call)
  | send (position : Nat) (route : Route) (packet : Packet)
  | detach (position : Nat)
  | read (position : Nat)
  | handle (position : Nat) (now : Instant)

def start (settings : Settings) : Traffic where
  hub := .start settings.limits settings.maxMessageSize
  wires := []

/-- Connects one more link.  Its first line is the answer to the greeting. -/
def attach (traffic : Traffic) (displayName : Option String) (now : Instant) : Traffic :=
  match traffic.hub.accept with
  | (none, _) => traffic
  | (some number, hub) =>
      let greeting := SocketLink.greeting displayName
      let (hub, outputs) := hub.receive number now greeting.toUTF8.toList
      match SocketLink.greet (Sockets.firstLine? number outputs) with
      | .ok frame =>
          let more := (outputs.filter (·.connection == number)).eraseP Output.isWrite
          { hub, wires := traffic.wires.map (·.post outputs) ++
              [⟨⟨.attached frame, number, []⟩, [], more⟩] }
      | .error _ =>
          let (hub, more) := hub.finish number now
          { hub, wires := traffic.wires.map (·.post (outputs ++ more)) }

/-- Lets the hub handle the next line of a link. -/
def handle (traffic : Traffic) (position : Nat) (now : Instant) : List Handling × Traffic :=
  match traffic.wires[position]? with
  | none => ([], traffic)
  | some wire =>
      match wire.outgoing with
      | [] => ([], traffic)
      | line :: rest =>
          let (hub, outputs) := traffic.hub.receive wire.number now line.toUTF8.toList
          let wires := traffic.wires.set position { wire with outgoing := rest }
          ([⟨wire.number, line, outputs⟩], { hub, wires := wires.map (·.post outputs) })

def modify (traffic : Traffic) (position : Nat) (change : Wire → Wire) : Traffic :=
  { traffic with wires := traffic.wires.modify position change }

def perform (traffic : Traffic) : Move → List Handling × Traffic
  | .attach displayName now => ([], traffic.attach displayName now)
  | .call position what => ([], traffic.modify position (·.call what))
  | .send position route packet => ([], traffic.modify position (·.send route packet))
  | .detach position => ([], traffic.modify position Wire.detach)
  | .read position => ([], traffic.modify position Wire.read)
  | .handle position now => traffic.handle position now

/-- The lines that the hub handles in some moves, in order. -/
def log (traffic : Traffic) : List Move → List Handling
  | [] => []
  | move :: rest => (traffic.perform move).1 ++ (traffic.perform move).2.log rest

def afterMoves (traffic : Traffic) : List Move → Traffic
  | [] => traffic
  | move :: rest => (traffic.perform move).2.afterMoves rest

end Traffic

namespace Traffic

/-- The hub is orderly, with the limit that it was started with, and every wire is sound. -/
structure Sound (traffic : Traffic) (maxMessageSize : Nat) (history : List Handling) : Prop where
  orderly : traffic.hub.Orderly
  limit : traffic.hub.maxMessageSize = maxMessageSize
  wires : ∀ wire ∈ traffic.wires, wire.Sound traffic.hub history

variable {traffic : Traffic} {max : Nat} {history : List Handling}

theorem sound_start
    {settings : Settings} (small : settings.limits.maxSessions < UInt64.size) :
    (start settings).Sound settings.maxMessageSize [] :=
  ⟨Hub.orderly_start small _, rfl, nofun⟩

/-- What one link does by itself. -/
theorem Sound.modify
    (sound : traffic.Sound max history) (position : Nat) {change : Wire → Wire}
    (kept : ∀ wire : Wire, wire.Sound traffic.hub history →
      (change wire).Sound traffic.hub history) :
    (traffic.modify position change).Sound max history where
  orderly := sound.orderly
  limit := sound.limit
  wires := by
    intro wire inside
    rcases List.mem_iff_getElem?.mp inside with ⟨place, found⟩
    simp only [Traffic.modify, List.getElem?_modify, Option.map_eq_map, Option.map_eq_some_iff]
      at found
    rcases found with ⟨before, known, rfl⟩
    have old := sound.wires before (List.mem_of_getElem? known)
    split
    · exact kept before old
    · exact old

/-- The wires that there are stay sound when the hub goes on. -/
theorem Sound.posted
    (sound : traffic.Sound max history) {outputs : List Output} {after : Hub}
    (goesOn : traffic.hub.GoesOn outputs after) :
    ∀ wire ∈ traffic.wires.map (·.post outputs), wire.Sound after history := by
  intro wire inside
  rcases List.mem_map.mp inside with ⟨before, known, rfl⟩
  have kept := (sound.wires before known).post goesOn []
  rwa [List.append_nil] at kept

/-- A link that connects waits for nothing yet. -/
theorem Sound.attach
    (sound : traffic.Sound max history) (displayName : Option String) (now : Instant) :
    (traffic.attach displayName now).Sound max history := by
  rcases sound.orderly.greeted displayName now with ⟨orderly, goesOn, outcome⟩
  simp only [Traffic.attach, sound.orderly.accept.1]
  generalize traffic.hub.accepting.receive traffic.hub.nextNumber now
    (SocketLink.greeting displayName).toUTF8.toList = received at orderly goesOn outcome ⊢
  rcases received with ⟨hub, outputs⟩
  split
  · refine ⟨orderly, goesOn.limit.trans sound.limit, fun wire inside => ?_⟩
    rcases List.mem_append.mp inside with old | new
    · exact sound.posted goesOn wire old
    · rw [List.mem_singleton.mp new]
      refine ⟨nofun, outcome.imp (fun closed => .inl ?_) fun serves => ⟨serves, nofun⟩⟩
      apply (List.mem_eraseP_of_neg Bool.false_ne_true).mpr
      exact List.mem_filter.mpr ⟨closed, beq_self_eq_true _⟩
  · rcases orderly.finish traffic.hub.nextNumber now with ⟨finished, further⟩
    have whole := goesOn.trans further
    exact ⟨finished, whole.limit.trans sound.limit, sound.posted whole⟩

/-- The hub handles the first line of a queue, if there is one. -/
theorem handle_cases (traffic : Traffic) (position : Nat) (now : Instant) :
    traffic.handle position now = ([], traffic) ∨
      ∃ wire line rest, traffic.wires[position]? = some wire ∧ wire.outgoing = line :: rest ∧
        traffic.handle position now =
          let received := traffic.hub.receive wire.number now line.toUTF8.toList
          let wires := traffic.wires.set position { wire with outgoing := rest }
          ([⟨wire.number, line, received.2⟩],
            { hub := received.1, wires := wires.map (·.post received.2) }) := by
  unfold handle
  split
  · exact .inl rfl
  · rename_i wire found
    split
    · exact .inl rfl
    · rename_i line rest outgoing
      exact .inr ⟨wire, line, rest, found, outgoing, rfl⟩

/-- The hub handles a line of one link, and goes on with the others. -/
theorem Sound.handle
    (sound : traffic.Sound max history) (position : Nat) (now : Instant) :
    (traffic.handle position now).2.Sound max
      (history ++ (traffic.handle position now).1) := by
  rcases traffic.handle_cases position now with
    same | ⟨wire, line, rest, found, outgoing, handled⟩
  · rw [same, List.append_nil]
    exact sound
  · have own := sound.wires wire (List.mem_of_getElem? found)
    obtain ⟨message, written⟩ := own.lines line (outgoing ▸ List.mem_cons_self)
    have going := sound.orderly.receive wire.number now message
    rw [← written] at going
    rw [handled]
    refine ⟨going.1, going.2.limit.trans sound.limit, fun other inside => ?_⟩
    rcases List.mem_map.mp inside with ⟨before, known, rfl⟩
    rcases List.mem_or_eq_of_mem_set known with elsewhere | rfl
    · exact (sound.wires before elsewhere).post going.2 _
    · exact own.handle sound.orderly outgoing now going.2

/-- Every move keeps the traffic sound. -/
theorem Sound.perform (sound : traffic.Sound max history) (move : Move) :
    (traffic.perform move).2.Sound max (history ++ (traffic.perform move).1) := by
  -- Only the hub adds to the history.
  have alone : ∀ {after : Traffic}, after.Sound max history → after.Sound max (history ++ []) := by
    intro after kept
    rwa [List.append_nil]
  cases move with
  | attach displayName now =>
      exact alone (sound.attach displayName now)
  | call position what =>
      exact alone (sound.modify position fun _ own => own.call what)
  | send position route packet =>
      exact alone (sound.modify position fun _ own => own.send route packet)
  | detach position =>
      exact alone (sound.modify position fun _ own => own.detach)
  | read position =>
      exact alone (sound.modify position fun _ own => own.read)
  | handle position now =>
      exact sound.handle position now

/-- So do any moves, one after the other. -/
theorem Sound.afterMoves (sound : traffic.Sound max history) (moves : List Move) :
    (traffic.afterMoves moves).Sound max (history ++ traffic.log moves) := by
  induction moves generalizing traffic history with
  | nil =>
      rw [log, List.append_nil]
      exact sound
  | cons move rest ih =>
      rw [log, ← List.append_assoc]
      exact ih (sound.perform move)

/-- When all that was written to and by a link has been handled, and its connection is open, every
call that still waits has been missed. -/
theorem waiting_missed
    {settings : Settings} (small : settings.limits.maxSessions < UInt64.size) (moves : List Move)
    {wire : Wire} (inside : wire ∈ ((start settings).afterMoves moves).wires)
    (reading : wire.link.reading = true) (sent : wire.outgoing = [])
    (seen : wire.incoming = []) :
    ∀ entry ∈ wire.link.waiting, ∃ handling ∈ (start settings).log moves,
      handling.Misses settings.maxMessageSize wire.number entry.1 entry.2 := by
  have sound := (sound_start small).afterMoves moves
  rw [List.nil_append] at sound
  intro entry waits
  rcases (sound.wires wire inside).state with (closed | ended) | ⟨_, awaited⟩
  · rw [seen] at closed
    cases closed
  · rw [reading] at ended
    cases ended
  · rw [sound.limit] at awaited
    cases awaited entry waits with
    | asked size queued =>
        rw [sent] at queued
        cases queued
    | answered reply request plain short written =>
        rw [seen] at written
        cases written
    | missed handling past misses =>
        exact ⟨handling, past, misses⟩

/-- A hub that takes lines of 64 bytes. -/
def narrow : Settings :=
  { maxMessageSize := 64 }

/-- A frame that claims a session of such a hub, on a line that is too long for it. -/
def longClaim : List Move :=
  [.attach none .epoch, .call 0 (.claim ⟨"a session with a name of forty characters"⟩),
    .handle 0 .epoch, .read 0]

/-- The refusal has no number, so the claim waits when all that was written has been seen. -/
theorem longClaim_waits :
    ∃ wire ∈ ((start narrow).afterMoves longClaim).wires,
      wire.link.reading = true ∧ wire.outgoing = [] ∧ wire.incoming = [] ∧
        wire.link.waiting = [(1, .claim ⟨"a session with a name of forty characters"⟩)] := by
  decide +kernel

theorem longClaim_missed :
    narrow.limits.maxSessions < UInt64.size ∧
      ∃ wire ∈ ((start narrow).afterMoves longClaim).wires,
        ∃ handling ∈ (start narrow).log longClaim,
          handling.Misses 64 wire.number 1
            (.claim ⟨"a session with a name of forty characters"⟩) := by
  have small : narrow.limits.maxSessions < UInt64.size := by decide
  rcases longClaim_waits with ⟨wire, inside, reading, sent, seen, waiting⟩
  refine ⟨small, wire, inside, waiting_missed small longClaim inside reading sent seen (1, _) ?_⟩
  rw [waiting]
  exact List.mem_singleton_self _

/-- Settings that are accepted do not spare every call an endless wait. -/
theorem idle_link_may_wait :
    ¬ ∀ settings : Settings, settings.check = .ok settings → ∀ moves : List Move,
      ∀ wire ∈ ((start settings).afterMoves moves).wires,
        wire.link.reading = true → wire.outgoing = [] → wire.incoming = [] →
          wire.link.waiting = [] := by
  intro completes
  rcases longClaim_waits with ⟨wire, inside, reading, sent, seen, waiting⟩
  have none := completes narrow rfl longClaim wire inside reading sent seen
  rw [waiting] at none
  cases none

end Traffic

end SessionBus