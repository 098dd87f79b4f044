import SessionBus.Proofs.Keyed
import SessionBus.Topic.Router

/-!
# What waits for the receivers of a router

A router is sound when its tickets are used once and every live receiver is subscribed to its own
topic and to no other.  A packet that a sound router publishes waits for just the receivers of its
topic afterwards, behind all that waited there before; whatever else happens at a router leaves what
waits for a receiver as it is, except that the receiver itself takes packets or is dropped.
-/

namespace SessionBus.TopicRouter

/-- The tickets of a router are used once, and as long as it is open its receivers are subscribed to
their topics. -/
structure Sound (router : TopicRouter) : Prop where
  apart : (router.receivers.map (·.ticket)).Nodup
  issued : ∀ receiver ∈ router.receivers, receiver.ticket < router.next
  subscribed : ∀ topic, ∀ ticket ∈ router.tickets topic, ticket < router.next
  listed :
    router.closed = false →
      ∀ receiver ∈ router.receivers, ∀ topic,
        receiver.ticket ∈ router.tickets topic ↔ receiver.topic = topic

theorem sound_empty : empty.Sound where
  apart := List.nodup_nil
  issued := by simp [empty]
  subscribed := by simp [empty, tickets]
  listed := by simp [empty]

/-! ## Subscriptions -/

theorem lookup_filter_ne
    (topics : List (String × List Ticket)) {topic other : String} (different : other ≠ topic) :
    (topics.filter fun entry => entry.1 != topic).lookup other = topics.lookup other := by
  induction topics with
  | nil =>
      rfl
  | cons entry rest ih =>
      rcases entry with ⟨name, tickets⟩
      by_cases dropped : name = topic
      · subst dropped
        have skipped : (other == name) = false := by
          simpa using different
        rw [List.filter_cons_of_neg (by simp), List.lookup_cons, skipped]
        exact ih
      · rw [List.filter_cons_of_pos (by simpa using dropped), List.lookup_cons, List.lookup_cons,
          ih]

theorem lookup_filter_self (topics : List (String × List Ticket)) (topic : String) :
    (topics.filter fun entry => entry.1 != topic).lookup topic = none := by
  rw [List.lookup_eq_none_iff]
  intro entry kept
  have different : entry.1 ≠ topic := by
    simpa using (List.mem_filter.mp kept).2
  simpa using different.symm

/-- The subscriptions of one topic are set, and those of the others stay. -/
theorem lookup_setTickets
    (topics : List (String × List Ticket)) (topic : String) (tickets : List Ticket)
    (other : String) :
    ((setTickets topics topic tickets).lookup other).getD [] =
      if other = topic then tickets else (topics.lookup other).getD [] := by
  unfold setTickets
  by_cases same : other = topic
  · subst same
    by_cases none : tickets.isEmpty = true
    · have nothing : tickets = [] := List.isEmpty_iff.mp none
      simp [nothing, lookup_filter_self]
    · simp [none]
  · have skipped : (other == topic) = false := by
      simpa using same
    by_cases none : tickets.isEmpty = true
    · simp [none, same, lookup_filter_ne topics same]
    · simp [none, same, skipped, List.lookup_cons, lookup_filter_ne topics same]

/-! ## Receivers -/

theorem receiver?_of_mem
    {router : TopicRouter} (sound : router.Sound) {receiver : Receiver}
    (inside : receiver ∈ router.receivers) :
    router.receiver? receiver.ticket = some receiver :=
  Keyed.find?_of_mem sound.apart inside

/-- What waits for a receiver that is not dropped, with its topic. -/
def waiting? (router : TopicRouter) (ticket : Ticket) : Option (String × List Packet) :=
  (router.receiver? ticket).map fun receiver => (receiver.topic, receiver.packets)

theorem exists_of_waiting?
    {router : TopicRouter} {ticket : Ticket} {topic : String} {packets : List Packet}
    (waits : router.waiting? ticket = some (topic, packets)) :
    ∃ receiver, router.receiver? ticket = some receiver ∧ receiver.topic = topic ∧
      receiver.packets = packets := by
  rcases Option.map_eq_some_iff.mp waits with ⟨receiver, found, same⟩
  exact ⟨receiver, found, Prod.mk.inj same⟩

/-- Only tickets that were given out have something waiting. -/
theorem lt_next_of_waiting?
    {router : TopicRouter} (sound : router.Sound) {ticket : Ticket}
    {entry : String × List Packet} (waits : router.waiting? ticket = some entry) :
    ticket < router.next := by
  rcases Option.map_eq_some_iff.mp waits with ⟨receiver, found, _⟩
  obtain rfl : receiver.ticket = ticket := by
    simpa using List.find?_some found
  exact sound.issued receiver (List.mem_of_find?_eq_some found)

/-- Receivers that change without changing their tickets are found as before. -/
theorem receiver?_map
    {router changed : TopicRouter} {change : Receiver → Receiver}
    (kept : ∀ receiver, (change receiver).ticket = receiver.ticket)
    (receivers : changed.receivers = router.receivers.map change) (ticket : Ticket) :
    changed.receiver? ticket = (router.receiver? ticket).map change := by
  unfold receiver?
  have same : (fun receiver : Receiver => receiver.ticket == ticket) ∘ change =
      fun receiver => receiver.ticket == ticket := by
    funext receiver
    rw [Function.comp_apply, kept]
  rw [receivers, List.find?_map, same]

/-- Receivers may change as long as they keep their tickets and topics. -/
theorem Sound.of_map
    {router : TopicRouter} (sound : router.Sound) (change : Receiver → Receiver)
    (keptTicket : ∀ receiver, (change receiver).ticket = receiver.ticket)
    (keptTopic : ∀ receiver, (change receiver).topic = receiver.topic) :
    Sound { router with receivers := router.receivers.map change } where
  apart := by
    simp only [List.map_map, Function.comp_def, keptTicket]
    exact sound.apart
  issued := by
    simp only [List.forall_mem_map, keptTicket]
    exact sound.issued
  subscribed := sound.subscribed
  listed := by
    intro unclosed
    simp only [List.forall_mem_map, keptTicket, keptTopic]
    exact sound.listed unclosed

/-! ## Publishing -/

/-- A packet is put behind what waits for the receivers of its topic. -/
theorem receivers_publish
    {router : TopicRouter} (sound : router.Sound) (unclosed : router.closed = false)
    (packet : Packet) :
    (router.publish packet).2.receivers = router.receivers.map fun receiver =>
      if receiver.topic = packet.topic then
        { receiver with packets := receiver.packets ++ [packet] }
      else receiver := by
  apply List.map_congr_left
  intro receiver inside
  have live : router.isLive receiver.ticket = true := by
    simp [isLive, receiver?_of_mem sound inside]
  have listed := sound.listed unclosed receiver inside packet.topic
  by_cases here : receiver.topic = packet.topic <;> simp [live, listed, here]

theorem sound_publish
    {router : TopicRouter} (sound : router.Sound) (unclosed : router.closed = false)
    (packet : Packet) :
    (router.publish packet).2.Sound := by
  have tickets : ∀ topic, (router.publish packet).2.tickets topic =
      if topic = packet.topic then (router.tickets packet.topic).filter router.isLive
      else router.tickets topic :=
    lookup_setTickets router.topics packet.topic _
  have mapped := sound.of_map
    (fun receiver =>
      if receiver.topic = packet.topic then
        { receiver with packets := receiver.packets ++ [packet] }
      else receiver)
    (by intro receiver; split <;> rfl) (by intro receiver; split <;> rfl)
  have receivers := receivers_publish sound unclosed packet
  constructor
  · rw [receivers]
    exact mapped.apart
  · rw [receivers]
    exact mapped.issued
  · intro topic ticket inside
    rw [tickets] at inside
    split at inside
    · exact sound.subscribed packet.topic ticket (List.mem_filter.mp inside).1
    · exact sound.subscribed topic ticket inside
  · rw [receivers]
    intro _ receiver inside topic
    rw [tickets, ← mapped.listed unclosed receiver inside topic]
    split
    · rename_i here
      subst here
      have live : router.isLive receiver.ticket = true := by
        rcases List.mem_map.mp inside with ⟨before, found, rfl⟩
        have ticket : (if before.topic = packet.topic then
            { before with packets := before.packets ++ [packet] } else before).ticket =
              before.ticket := by
          split <;> rfl
        rw [ticket, isLive, receiver?_of_mem sound found]
        rfl
      rw [List.mem_filter]
      simp only [live, and_true]
      rfl
    · rfl

/-- What waits for a receiver after a packet was published. -/
theorem waiting?_publish
    {router : TopicRouter} (sound : router.Sound) (unclosed : router.closed = false)
    (packet : Packet) (ticket : Ticket) :
    (router.publish packet).2.waiting? ticket =
      (router.waiting? ticket).map fun (topic, packets) =>
        (topic, if topic = packet.topic then packets ++ [packet] else packets) := by
  have receivers := receivers_publish sound unclosed packet
  unfold waiting?
  rw [receiver?_map (by intro receiver; split <;> rfl) receivers, Option.map_map, Option.map_map]
  congr 1
  funext receiver
  simp only [Function.comp_apply]
  split <;> rfl

/-! ## Subscribing -/

theorem tickets_subscribe (router : TopicRouter) (topic other : String) :
    (router.subscribe topic).2.tickets other =
      if router.closed = false ∧ other = topic then router.tickets topic ++ [router.next]
      else router.tickets other := by
  cases closed : router.closed with
  | true =>
      simp [subscribe, tickets, closed]
  | false =>
      have set :=
        lookup_setTickets router.topics topic (router.tickets topic ++ [router.next]) other
      simpa [subscribe, tickets, closed] using set

theorem sound_subscribe
    {router : TopicRouter} (sound : router.Sound) (topic : String) :
    (router.subscribe topic).2.Sound := by
  have fresh : ∀ receiver ∈ router.receivers, receiver.ticket ≠ router.next :=
    fun receiver inside => Nat.ne_of_lt (sound.issued receiver inside)
  constructor
  · exact Keyed.apart_append.mpr ⟨sound.apart, fresh⟩
  · intro receiver inside
    rcases List.mem_append.mp inside with old | new
    · exact Nat.lt_succ_of_lt (sound.issued receiver old)
    · rw [List.mem_singleton.mp new]
      exact Nat.lt_succ_self router.next
  · intro other ticket inside
    rw [tickets_subscribe] at inside
    split at inside
    · rcases List.mem_append.mp inside with old | new
      · exact Nat.lt_succ_of_lt (sound.subscribed topic ticket old)
      · rw [List.mem_singleton.mp new]
        exact Nat.lt_succ_self router.next
    · exact Nat.lt_succ_of_lt (sound.subscribed other ticket inside)
  · intro unclosed receiver inside other
    have closed : router.closed = false := unclosed
    rw [tickets_subscribe]
    rcases List.mem_append.mp inside with old | new
    · have listed := sound.listed closed receiver old
      by_cases here : other = topic
      · simp [closed, here, listed, fresh receiver old]
      · simp [here, listed]
    · rcases List.mem_singleton.mp new with rfl
      by_cases here : other = topic
      · simp [closed, here]
      · have unlisted : router.next ∉ router.tickets other :=
          fun listed => Nat.lt_irrefl _ (sound.subscribed other router.next listed)
        simp [here, unlisted, Ne.symm here]

/-- A new receiver has nothing to read yet, and the others keep what waits for them. -/
theorem waiting?_subscribe
    {router : TopicRouter} (sound : router.Sound) (topic : String) (ticket : Ticket) :
    (router.subscribe topic).2.waiting? ticket =
      if ticket = router.next then some (topic, []) else router.waiting? ticket := by
  have fresh : router.receiver? router.next = none := by
    apply Keyed.find?_eq_none
    intro taken
    rcases List.mem_map.mp taken with ⟨receiver, inside, same⟩
    exact Nat.ne_of_lt (sound.issued receiver inside) same
  unfold receiver? at fresh
  unfold waiting? receiver?
  simp only [subscribe, List.find?_append]
  by_cases new : ticket = router.next
  · subst new
    simp [fresh]
  · have other : (router.next == ticket) = false := by
      simpa using Ne.symm new
    simp [new, other]

/-! ## Reading, dropping and closing -/

theorem sound_setPackets
    {router : TopicRouter} (sound : router.Sound) (ticket : Ticket) (packets : List Packet) :
    (router.setPackets ticket packets).Sound := by
  apply sound.of_map
  · intro receiver
    split <;> rfl
  · intro receiver
    split <;> rfl

theorem waiting?_setPackets
    (router : TopicRouter) (ticket : Ticket) (packets : List Packet) (other : Ticket) :
    (router.setPackets ticket packets).waiting? other =
      (router.waiting? other).map fun (topic, waiting) =>
        (topic, if other = ticket then packets else waiting) := by
  unfold waiting?
  have receivers : (router.setPackets ticket packets).receivers =
      router.receivers.map fun receiver =>
        if receiver.ticket = ticket then { receiver with packets } else receiver := rfl
  rw [receiver?_map (by intro receiver; split <;> rfl) receivers, Option.map_map, Option.map_map]
  cases found : router.receiver? other with
  | none =>
      rfl
  | some receiver =>
      have same : receiver.ticket = other := by
        simpa using List.find?_some found
      simp only [Option.map_some, Function.comp_apply, same]
      split <;> rfl

theorem sound_receive
    {router : TopicRouter} (sound : router.Sound) (ticket : Ticket) :
    (router.receive ticket).2.Sound := by
  unfold receive
  split
  · exact sound_setPackets sound ticket _
  · exact sound

/-- The first packet that waits for a receiver is taken. -/
theorem receive_of_waiting?
    {router : TopicRouter} {ticket : Ticket} {topic : String} {packets : List Packet}
    (waits : router.waiting? ticket = some (topic, packets)) (other : Ticket) :
    (router.receive ticket).1 = packets.head? ∧
      (router.receive ticket).2.waiting? other =
        (router.waiting? other).map fun (topic, waiting) =>
          (topic, if other = ticket then packets.tail else waiting) := by
  rcases exists_of_waiting? waits with ⟨receiver, found, rfl, rfl⟩
  unfold receive
  rw [found]
  cases waiting : receiver.packets with
  | nil =>
      refine ⟨by simp [waiting], ?_⟩
      simp only [Option.map_some, waiting, List.tail_nil]
      by_cases here : other = ticket
      · subst here
        simp [waits, waiting]
      · simp [here]
  | cons packet rest =>
      refine ⟨by simp [waiting], ?_⟩
      simp only [Option.map_some, waiting, List.tail_cons]
      exact waiting?_setPackets router ticket rest other

theorem waiting?_receive_other
    (router : TopicRouter) {ticket other : Ticket} (different : other ≠ ticket) :
    (router.receive ticket).2.waiting? other = router.waiting? other := by
  unfold receive
  split
  · rw [waiting?_setPackets]
    simp [different]
  · rfl

/-- All packets that wait for a receiver are taken. -/
theorem drain_of_waiting?
    {router : TopicRouter} {ticket : Ticket} {topic : String} {packets : List Packet}
    (waits : router.waiting? ticket = some (topic, packets)) :
    (router.drain ticket).1 = packets := by
  rcases exists_of_waiting? waits with ⟨receiver, found, rfl, rfl⟩
  simp [drain, found]

theorem sound_drain
    {router : TopicRouter} (sound : router.Sound) (ticket : Ticket) :
    (router.drain ticket).2.Sound :=
  sound_setPackets sound ticket []

theorem sound_drop
    {router : TopicRouter} (sound : router.Sound) (ticket : Ticket) :
    (router.drop ticket).Sound where
  apart := List.Nodup.sublist (List.filter_sublist.map _) sound.apart
  issued := fun receiver inside => sound.issued receiver (List.mem_filter.mp inside).1
  subscribed := sound.subscribed
  listed := fun unclosed receiver inside =>
    sound.listed unclosed receiver (List.mem_filter.mp inside).1

theorem waiting?_drop
    (router : TopicRouter) {ticket other : Ticket} (different : other ≠ ticket) :
    (router.drop ticket).waiting? other = router.waiting? other := by
  unfold waiting? receiver? drop
  rw [List.find?_filter]
  congr 2
  funext receiver
  by_cases here : receiver.ticket = other <;> simp [here, different]

theorem sound_close {router : TopicRouter} (sound : router.Sound) : router.close.Sound where
  apart := sound.apart
  issued := sound.issued
  subscribed := by simp [close, tickets]
  listed := by simp [close]

end SessionBus.TopicRouter
