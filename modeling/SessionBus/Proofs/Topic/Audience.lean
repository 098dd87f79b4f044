import SessionBus.Proofs.Topic.Router

/-!
# Publish and subscribe

What the operations at a router give back is told by their history alone.  A packet reaches the
receivers that were opened for its topic before the router was closed and that are not dropped, and
a receiver yields the packets that were published on its topic after it was opened and before the
router was closed, each once and in order.  When the router forgets the receivers that are dropped,
and which topics it keeps a list for, cannot be seen from outside.

A receiver is followed alone: of all that happens at a router only what is published on its topic,
what is read from it, its own end and the end of the router matter for it.
-/

namespace SessionBus.TopicRouter

/-- What is done at a router. -/
inductive Operation where
  | subscribe (topic : String)
  | publish (packet : Packet)
  | receive (ticket : Ticket)
  | drop (ticket : Ticket)
  | count (topic : String)
  | close
deriving DecidableEq

/-- What an operation gives back. -/
inductive Answer where
  | ticket (ticket : Ticket)
  | packet (content : Option Packet)
  | number (count : Nat)
  | done
deriving DecidableEq

def perform (router : TopicRouter) : Operation → Answer × TopicRouter
  | .subscribe topic => (.ticket (router.subscribe topic).1, (router.subscribe topic).2)
  | .publish packet => (.number (router.publish packet).1, (router.publish packet).2)
  | .receive ticket => (.packet (router.receive ticket).1, (router.receive ticket).2)
  | .drop ticket => (.done, router.drop ticket)
  | .count topic => (.number (router.subscriberCount topic), router)
  | .close => (.done, router.close)

def afterAll (router : TopicRouter) : List Operation → TopicRouter
  | [] => router
  | operation :: rest => (router.perform operation).2.afterAll rest

/-- The operations of a history with what they give back. -/
def log (router : TopicRouter) : List Operation → List (Operation × Answer)
  | [] => []
  | operation :: rest =>
      (operation, (router.perform operation).1) :: (router.perform operation).2.log rest

/-- The packet that is read from a receiver. -/
def takes (ticket : Ticket) : Operation × Answer → Option Packet
  | (.receive used, .packet content) => if used = ticket then content else none
  | _ => none

/-- The packets that a receiver has yielded. -/
def yields (ticket : Ticket) (log : List (Operation × Answer)) : List Packet :=
  log.filterMap (takes ticket)

/-! ## What a history tells -/

/-- The packets that are published on a topic before the router is closed. -/
def published (topic : String) : List Operation → List Packet
  | [] => []
  | .close :: _ => []
  | .publish packet :: rest =>
      if packet.topic = topic then packet :: published topic rest else published topic rest
  | _ :: rest => published topic rest

/-- The tickets of the receivers that are opened for a topic and not dropped, when `next` is the
next ticket. -/
def subscribers (topic : String) (next : Ticket) : List Operation → List Ticket
  | [] => []
  | .subscribe other :: rest =>
      if other = topic ∧ .drop next ∉ rest then next :: subscribers topic (next + 1) rest
      else subscribers topic (next + 1) rest
  | _ :: rest => subscribers topic next rest

/-- The receivers that a packet on a topic reaches after a history. -/
def audience (topic : String) (history : List Operation) : List Ticket :=
  if .close ∈ history then [] else subscribers topic 0 history

/-- Whether an operation is about a receiver that is there already. -/
def Operation.isAbout (ticket : Ticket) : Operation → Bool
  | .receive used => used == ticket
  | .drop used => used == ticket
  | _ => false

/-! ## Routers along a history -/

/-- A sound router has no subscriptions when it is closed. -/
structure Settled (router : TopicRouter) : Prop where
  sound : router.Sound
  forgotten : router.closed = true → router.topics = []

theorem settled_empty : empty.Settled :=
  ⟨sound_empty, fun _ => rfl⟩

/-- A closed router publishes nothing. -/
theorem Settled.publish_of_closed
    {router : TopicRouter} (settled : router.Settled) (closed : router.closed = true)
    (packet : Packet) : router.publish packet = (0, router) := by
  have topics := settled.forgotten closed
  rcases router with ⟨topics, receivers, next, closed⟩
  simp only at topics
  subst topics
  simp [publish, tickets, setTickets]

theorem Settled.perform
    {router : TopicRouter} (settled : router.Settled) (operation : Operation) :
    (router.perform operation).2.Settled := by
  rcases settled with ⟨sound, forgotten⟩
  cases operation with
  | subscribe topic =>
      refine ⟨sound_subscribe sound topic, fun closed => ?_⟩
      have same : router.closed = true := closed
      simp [TopicRouter.perform, subscribe, same, forgotten same]
  | publish packet =>
      cases closed : router.closed with
      | true =>
          have same := Settled.publish_of_closed ⟨sound, forgotten⟩ closed packet
          simp only [TopicRouter.perform, same]
          exact ⟨sound, forgotten⟩
      | false =>
          refine ⟨sound_publish sound closed packet, fun later => ?_⟩
          have same : router.closed = true := later
          rw [closed] at same
          cases same
  | receive ticket =>
      refine ⟨sound_receive sound ticket, ?_⟩
      simp only [TopicRouter.perform, receive]
      split <;> exact forgotten
  | drop ticket =>
      exact ⟨sound_drop sound ticket, forgotten⟩
  | count topic =>
      exact ⟨sound, forgotten⟩
  | close =>
      exact ⟨sound_close sound, fun _ => rfl⟩

/-! ## One receiver -/

/-- What matters for one receiver: whether the router is closed, the ticket that it gives next, and
the packets that wait for the receiver, with its topic. -/
structure Prospect where
  closed : Bool
  next : Ticket
  waiting? : Option (String × List Packet)

def prospect (router : TopicRouter) (ticket : Ticket) : Prospect :=
  ⟨router.closed, router.next, router.waiting? ticket⟩

namespace Prospect

/-- The prospect of the receiver of a ticket after an operation. -/
def step (prospect : Prospect) (ticket : Ticket) : Operation → Prospect
  | .subscribe topic =>
      { prospect with
        next := prospect.next + 1
        waiting? := if ticket = prospect.next then some (topic, []) else prospect.waiting? }
  | .publish packet =>
      if prospect.closed then prospect
      else
        { prospect with
          waiting? := prospect.waiting?.map fun (topic, packets) =>
            (topic, if topic = packet.topic then packets ++ [packet] else packets) }
  | .receive used =>
      if used = ticket then
        { prospect with
          waiting? := prospect.waiting?.map fun (topic, packets) => (topic, packets.tail) }
      else prospect
  | .drop used => if used = ticket then { prospect with waiting? := none } else prospect
  | .count _ => prospect
  | .close => { prospect with closed := true }

/-- The packet that an operation reads from the receiver. -/
def read? (prospect : Prospect) (ticket : Ticket) : Operation → Option Packet
  | .receive used =>
      if used = ticket then prospect.waiting?.bind fun (_, packets) => packets.head? else none
  | _ => none

def reads (prospect : Prospect) (ticket : Ticket) : List Operation → List Packet
  | [] => []
  | operation :: rest =>
      (prospect.read? ticket operation).toList ++
        (prospect.step ticket operation).reads ticket rest

def stepAll (prospect : Prospect) (ticket : Ticket) : List Operation → Prospect
  | [] => prospect
  | operation :: rest => (prospect.step ticket operation).stepAll ticket rest

end Prospect

theorem waiting?_drop_self (router : TopicRouter) (ticket : Ticket) :
    (router.drop ticket).waiting? ticket = none := by
  unfold waiting? receiver? drop
  rw [List.find?_filter, Option.map_eq_none_iff, List.find?_eq_none]
  intro receiver _
  simp

/-- What is read from a receiver is what waits for it in front. -/
theorem receive_eq (router : TopicRouter) (ticket : Ticket) :
    (router.receive ticket).1 =
      (router.waiting? ticket).bind fun (_, packets) => packets.head? := by
  unfold receive waiting?
  cases found : router.receiver? ticket with
  | none =>
      rfl
  | some receiver =>
      cases waiting : receiver.packets <;> simp [waiting]

theorem receive_kept (router : TopicRouter) (ticket : Ticket) :
    (router.receive ticket).2.closed = router.closed ∧
      (router.receive ticket).2.next = router.next := by
  unfold receive
  split <;> exact ⟨rfl, rfl⟩

theorem waiting?_receive_self (router : TopicRouter) (ticket : Ticket) :
    (router.receive ticket).2.waiting? ticket =
      (router.waiting? ticket).map fun (topic, packets) => (topic, packets.tail) := by
  cases waits : router.waiting? ticket with
  | none =>
      have absent : router.receiver? ticket = none := Option.map_eq_none_iff.mp waits
      simp [receive, absent, waits]
  | some entry =>
      rw [(receive_of_waiting? waits ticket).2, waits]
      simp

/-- An operation changes the prospect of a receiver as if the receiver were alone. -/
theorem Settled.prospect_perform
    {router : TopicRouter} (settled : router.Settled) (ticket : Ticket) (operation : Operation) :
    (router.perform operation).2.prospect ticket =
      (router.prospect ticket).step ticket operation := by
  cases operation with
  | subscribe topic =>
      simp only [TopicRouter.perform, prospect, Prospect.step,
        waiting?_subscribe settled.sound topic ticket]
      rfl
  | publish packet =>
      cases closed : router.closed with
      | true =>
          simp [TopicRouter.perform, settled.publish_of_closed closed, prospect, Prospect.step,
            closed]
      | false =>
          have waiting := waiting?_publish settled.sound closed packet ticket
          refine Eq.trans ?_ (if_neg (Bool.eq_false_iff.mp closed)).symm
          simp only [TopicRouter.perform, prospect, waiting]
          rfl
  | receive used =>
      simp only [TopicRouter.perform, prospect, Prospect.step, receive_kept]
      by_cases own : used = ticket
      · subst own
        rw [if_pos rfl, waiting?_receive_self]
      · rw [if_neg own, waiting?_receive_other router (Ne.symm own)]
  | drop used =>
      simp only [TopicRouter.perform, prospect, Prospect.step]
      by_cases own : used = ticket
      · subst own
        rw [if_pos rfl, waiting?_drop_self]
        rfl
      · rw [if_neg own, waiting?_drop router (Ne.symm own)]
        rfl
  | count | close =>
      rfl

theorem takes_perform (router : TopicRouter) (ticket : Ticket) (operation : Operation) :
    takes ticket (operation, (router.perform operation).1) =
      (router.prospect ticket).read? ticket operation := by
  cases operation with
  | receive used =>
      simp only [takes, TopicRouter.perform, Prospect.read?, receive_eq]
      by_cases own : used = ticket
      · subst own
        rfl
      · rw [if_neg own, if_neg own]
  | subscribe | publish | drop | count | close =>
      rfl

/-- Along a history a receiver yields what it would yield alone. -/
theorem Settled.yields_log
    {router : TopicRouter} (settled : router.Settled) (ticket : Ticket)
    (history : List Operation) :
    yields ticket (router.log history) = (router.prospect ticket).reads ticket history ∧
      (router.afterAll history).prospect ticket =
        (router.prospect ticket).stepAll ticket history := by
  induction history generalizing router with
  | nil =>
      exact ⟨rfl, rfl⟩
  | cons operation rest ih =>
      have later := ih (settled.perform operation)
      rw [settled.prospect_perform] at later
      refine ⟨?_, later.2⟩
      have first := router.takes_perform ticket operation
      have other := later.1
      unfold yields at other ⊢
      rw [log, List.filterMap_cons, Prospect.reads, ← first, ← other]
      cases takes ticket (operation, (router.perform operation).1) <;> rfl

theorem Settled.afterAll
    {router : TopicRouter} (settled : router.Settled) (history : List Operation) :
    (router.afterAll history).Settled := by
  induction history generalizing router with
  | nil =>
      exact settled
  | cons operation rest ih =>
      exact ih (settled.perform operation)

namespace Prospect

variable {prospect : Prospect} {ticket : Ticket}

/-- The packets that are still to come for a receiver on a topic. -/
def toCome (prospect : Prospect) (topic : String) (history : List Operation) : List Packet :=
  if prospect.closed then [] else published topic history

theorem next_le_step (prospect : Prospect) (ticket : Ticket) (operation : Operation) :
    prospect.next ≤ (prospect.step ticket operation).next := by
  cases operation with
  | subscribe topic =>
      exact Nat.le_succ prospect.next
  | publish | receive | drop =>
      simp only [step]
      split <;> exact Nat.le_refl _
  | count | close =>
      exact Nat.le_refl _

theorem next_le_stepAll (prospect : Prospect) (ticket : Ticket) (history : List Operation) :
    prospect.next ≤ (prospect.stepAll ticket history).next := by
  induction history generalizing prospect with
  | nil =>
      exact Nat.le_refl _
  | cons operation rest ih =>
      exact Nat.le_trans (next_le_step prospect ticket operation) (ih _)

/-- The router is closed just when it was closed along the history. -/
theorem closed_stepAll (prospect : Prospect) (ticket : Ticket) (history : List Operation) :
    (prospect.stepAll ticket history).closed = true ↔
      prospect.closed = true ∨ .close ∈ history := by
  induction history generalizing prospect with
  | nil =>
      simp [stepAll]
  | cons operation rest ih =>
      rw [stepAll, ih]
      cases operation with
      | publish | receive | drop =>
          simp only [step]
          split <;> simp
      | subscribe | count | close =>
          simp [step]

/-- A receiver that is gone, or is not opened yet, yields nothing. -/
theorem reads_of_absent
    (history : List Operation) (absent : prospect.waiting? = none)
    (never : ticket < prospect.next ∨ (prospect.stepAll ticket history).next ≤ ticket) :
    prospect.reads ticket history = [] := by
  induction history generalizing prospect with
  | nil =>
      rfl
  | cons operation rest ih =>
      have nothing : prospect.read? ticket operation = none := by
        cases operation <;> simp [read?, absent]
      have later : ticket < (prospect.step ticket operation).next ∨
          ((prospect.step ticket operation).stepAll ticket rest).next ≤ ticket :=
        never.imp_left fun issued =>
          Nat.lt_of_lt_of_le issued (next_le_step prospect ticket operation)
      have still : (prospect.step ticket operation).waiting? = none := by
        cases operation with
        | subscribe topic =>
            have other : ticket ≠ prospect.next := by
              rcases never with issued | unissued
              · exact Nat.ne_of_lt issued
              · have given := next_le_stepAll (prospect.step ticket (.subscribe topic)) ticket rest
                exact Nat.ne_of_gt (Nat.le_trans given unissued)
            simp [step, other, absent]
        | publish | receive | drop =>
            simp only [step]
            split <;> simp [absent]
        | count | close =>
            exact absent
      rw [reads, nothing, ih still later]
      rfl

/-- A receiver yields in front what is due to it; the rest waits for it as long as it is not
dropped. -/
structure Serves
    (prospect : Prospect) (ticket : Ticket) (topic : String) (due : List Packet)
    (history : List Operation) : Prop where
  front : prospect.reads ticket history <+: due
  rest :
    .drop ticket ∉ history →
      (prospect.stepAll ticket history).waiting? =
        some (topic, due.drop (prospect.reads ticket history).length)

/-- An operation that reads nothing leaves what is due. -/
theorem Serves.cons_of_idle
    {operation : Operation} {topic : String} {due : List Packet} {rest : List Operation}
    (serves : (prospect.step ticket operation).Serves ticket topic due rest)
    (nothing : prospect.read? ticket operation = none) :
    prospect.Serves ticket topic due (operation :: rest) := by
  have same : prospect.reads ticket (operation :: rest) =
      (prospect.step ticket operation).reads ticket rest := by
    rw [reads, nothing]
    rfl
  constructor
  · rw [same]
    exact serves.front
  · intro kept
    rw [same]
    exact serves.rest fun dropped => kept (List.mem_cons_of_mem _ dropped)

theorem Serves.cons_of_still
    {operation : Operation} {topic : String} {due : List Packet} {rest : List Operation}
    (serves : prospect.Serves ticket topic due rest)
    (still : prospect.step ticket operation = prospect)
    (nothing : prospect.read? ticket operation = none) :
    prospect.Serves ticket topic due (operation :: rest) := by
  apply Serves.cons_of_idle _ nothing
  rw [still]
  exact serves

/-- A packet that is read is the first that is due. -/
theorem Serves.cons_of_read
    {operation : Operation} {topic : String} {packet : Packet} {due : List Packet}
    {rest : List Operation}
    (serves : (prospect.step ticket operation).Serves ticket topic due rest)
    (first : prospect.read? ticket operation = some packet) :
    prospect.Serves ticket topic (packet :: due) (operation :: rest) := by
  have more : prospect.reads ticket (operation :: rest) =
      packet :: (prospect.step ticket operation).reads ticket rest := by
    rw [reads, first]
    rfl
  constructor
  · rw [more]
    exact (List.prefix_cons_inj packet).mpr serves.front
  · intro kept
    rw [more]
    exact serves.rest fun dropped => kept (List.mem_cons_of_mem _ dropped)

/-- A receiver that is dropped yields nothing any more. -/
theorem serves_cons_drop
    (issued : ticket < prospect.next) (topic : String) (due : List Packet)
    (rest : List Operation) : prospect.Serves ticket topic due (.drop ticket :: rest) := by
  have gone : (prospect.step ticket (.drop ticket)).waiting? = none := by
    simp [step]
  have nothing := reads_of_absent rest gone
    (.inl (Nat.lt_of_lt_of_le issued (next_le_step prospect ticket (.drop ticket))))
  constructor
  · rw [reads, nothing]
    exact List.nil_prefix
  · exact fun kept => absurd List.mem_cons_self kept

/-- What is to come stays to come after an operation that publishes nothing. -/
theorem toCome_cons
    (operation : Operation) (quiet : ∀ packet, operation ≠ .publish packet) (topic : String)
    (rest : List Operation) :
    prospect.toCome topic (operation :: rest) =
      (prospect.step ticket operation).toCome topic rest := by
  cases operation with
  | publish packet =>
      exact absurd rfl (quiet packet)
  | receive used | drop used =>
      simp only [step]
      split <;> rfl
  | subscribe | count =>
      rfl
  | close =>
      simp [toCome, published, step]

/-- A packet on the topic of a receiver waits for it instead of being to come. -/
theorem waits_of_publish
    {topic : String} {packets : List Packet} {packet : Packet}
    (waits : prospect.waiting? = some (topic, packets)) (unclosed : prospect.closed = false)
    (rest : List Operation) :
    let after := prospect.step ticket (.publish packet)
    ∃ more, after.waiting? = some (topic, more) ∧
      packets ++ prospect.toCome topic (.publish packet :: rest) =
        more ++ after.toCome topic rest := by
  refine ⟨if topic = packet.topic then packets ++ [packet] else packets, ?_, ?_⟩
  · simp [step, unclosed, waits]
  · by_cases here : topic = packet.topic
    · simp [step, toCome, unclosed, published, here]
    · simp [step, toCome, unclosed, published, here, Ne.symm here]

/-- What waits for a receiver and what is to come is due to it. -/
theorem serves
    {topic : String} {packets : List Packet}
    (waits : prospect.waiting? = some (topic, packets)) (issued : ticket < prospect.next)
    (history : List Operation) :
    prospect.Serves ticket topic (packets ++ prospect.toCome topic history) history := by
  induction history generalizing prospect packets with
  | nil =>
      constructor
      · exact List.nil_prefix
      · simp [reads, stepAll, waits, toCome, published]
  | cons operation rest ih =>
      have later : ∀ {more : List Packet},
          (prospect.step ticket operation).waiting? = some (topic, more) →
          (prospect.step ticket operation).Serves ticket topic
            (more ++ (prospect.step ticket operation).toCome topic rest) rest :=
        fun waits => ih waits (Nat.lt_of_lt_of_le issued (next_le_step prospect ticket operation))
      cases operation with
      | subscribe other =>
          refine Serves.cons_of_idle (later ?_) rfl
          simp [step, Nat.ne_of_lt issued, waits]
      | publish packet =>
          cases closed : prospect.closed with
          | true =>
              have nothing : prospect.toCome topic (.publish packet :: rest) =
                  prospect.toCome topic rest := by
                simp [toCome, closed]
              rw [nothing]
              exact Serves.cons_of_still (ih waits issued) (if_pos closed) rfl
          | false =>
              rcases waits_of_publish waits closed rest with ⟨more, put, same⟩
              rw [same]
              exact Serves.cons_of_idle (later put) rfl
      | receive used =>
          by_cases own : used = ticket
          · subst own
            have taken : (prospect.step used (.receive used)).waiting? =
                some (topic, packets.tail) := by
              simp [step, waits]
            rw [toCome_cons (.receive used) fun _ => nofun]
            cases packets with
            | nil =>
                exact Serves.cons_of_idle (later taken) (by simp [read?, waits])
            | cons packet others =>
                exact Serves.cons_of_read (later taken) (by simp [read?, waits])
          · exact Serves.cons_of_still (ih waits issued) (if_neg own) (if_neg own)
      | drop used =>
          by_cases own : used = ticket
          · subst own
            exact serves_cons_drop issued topic _ rest
          · exact Serves.cons_of_still (ih waits issued) (if_neg own) rfl
      | count other =>
          exact Serves.cons_of_still (ih waits issued) rfl rfl
      | close =>
          rw [toCome_cons .close fun _ => nofun]
          exact Serves.cons_of_idle (later waits) rfl

/-- What happens to another receiver does not matter. -/
theorem reads_filter
    {other : Ticket} (different : other ≠ ticket) (prospect : Prospect)
    (history : List Operation) :
    prospect.reads ticket (history.filter fun operation => !operation.isAbout other) =
      prospect.reads ticket history := by
  induction history generalizing prospect with
  | nil =>
      rfl
  | cons operation rest ih =>
      cases about : operation.isAbout other with
      | false =>
          rw [List.filter_cons_of_pos (by simp [about]), reads, reads, ih]
      | true =>
          have idle : prospect.read? ticket operation = none ∧
              prospect.step ticket operation = prospect := by
            cases operation with
            | receive used | drop used =>
                have same : used = other := by
                  simpa [Operation.isAbout] using about
                subst same
                simp [read?, step, different]
            | subscribe | publish | count | close =>
                cases about
          rw [List.filter_cons_of_neg (by simp [about]), reads, idle.1, idle.2, ih]
          rfl

end Prospect

/-! ## The receivers of a topic -/

/-- The receivers that are subscribed to a topic and not dropped. -/
def live (router : TopicRouter) (topic : String) : List Ticket :=
  (router.tickets topic).filter router.isLive

theorem isLive_eq (router : TopicRouter) (ticket : Ticket) :
    router.isLive ticket = (router.prospect ticket).waiting?.isSome := by
  simp [isLive, prospect, waiting?]

/-- A receiver that is there stays, unless the operation drops it. -/
theorem Settled.isLive_perform
    {router : TopicRouter} (settled : router.Settled) {ticket : Ticket}
    (issued : ticket < router.next) (operation : Operation) :
    (router.perform operation).2.isLive ticket =
      (router.isLive ticket && decide (operation ≠ .drop ticket)) := by
  rw [isLive_eq, settled.prospect_perform, isLive_eq]
  cases operation with
  | subscribe topic =>
      have other : ticket ≠ (router.prospect ticket).next := Nat.ne_of_lt issued
      simp [Prospect.step, other]
  | publish packet | receive used =>
      simp only [Prospect.step]
      split <;> simp
  | drop used =>
      by_cases own : used = ticket <;> simp [Prospect.step, own]
  | count | close =>
      simp [Prospect.step]

/-- What an operation that drops no receiver leaves of the receivers that were listed. -/
theorem Settled.filter_tickets
    {router : TopicRouter} (settled : router.Settled) (operation : Operation)
    (keeps : ∀ ticket, operation ≠ .drop ticket) (topic : String) :
    (router.tickets topic).filter (router.perform operation).2.isLive = router.live topic := by
  apply List.filter_congr
  intro ticket listed
  rw [settled.isLive_perform (settled.sound.subscribed topic ticket listed)]
  simp [keeps ticket]

theorem Settled.live_of_closed
    {router : TopicRouter} (settled : router.Settled) (closed : router.closed = true)
    (topic : String) : router.live topic = [] := by
  simp [live, tickets, settled.forgotten closed]

theorem Settled.live_subscribe
    {router : TopicRouter} (settled : router.Settled) (unclosed : router.closed = false)
    (other topic : String) :
    (router.subscribe other).2.live topic =
      router.live topic ++ if other = topic then [router.next] else [] := by
  have stays := settled.filter_tickets (.subscribe other) (fun _ => nofun) topic
  simp only [TopicRouter.perform] at stays
  have listed := router.tickets_subscribe other topic
  by_cases here : topic = other
  · subst here
    have new : (router.subscribe topic).2.isLive router.next = true := by
      have waits := waiting?_subscribe settled.sound topic router.next
      rw [if_pos rfl] at waits
      rw [isLive_eq, prospect, waits]
      rfl
    rw [live, listed, if_pos ⟨unclosed, rfl⟩, List.filter_append, stays, if_pos rfl]
    simp [new]
  · rw [live, listed, if_neg fun same => here same.2, stays, if_neg (Ne.symm here),
      List.append_nil]

/-- It cannot be seen that the router forgets the receivers that are dropped when it publishes. -/
theorem Settled.live_publish
    {router : TopicRouter} (settled : router.Settled) (packet : Packet) (topic : String) :
    (router.publish packet).2.live topic = router.live topic := by
  have listed : (router.publish packet).2.tickets topic =
      if topic = packet.topic then router.live packet.topic else router.tickets topic :=
    lookup_setTickets router.topics packet.topic _ topic
  have stays := settled.filter_tickets (.publish packet) (fun _ => nofun) topic
  simp only [TopicRouter.perform] at stays
  by_cases here : topic = packet.topic
  · subst here
    rw [live, listed, if_pos rfl, ← stays, List.filter_filter]
    simp only [Bool.and_self]
  · rw [live, listed, if_neg here, stays]

theorem Settled.live_drop
    {router : TopicRouter} (settled : router.Settled) (ticket : Ticket) (topic : String) :
    (router.drop ticket).live topic = (router.live topic).filter (· ≠ ticket) := by
  have kept : (router.drop ticket).tickets topic = router.tickets topic := rfl
  rw [live, kept, live, List.filter_filter]
  apply List.filter_congr
  intro other listed
  have stays := settled.isLive_perform (settled.sound.subscribed topic other listed) (.drop ticket)
  simp only [TopicRouter.perform] at stays
  rw [stays, Bool.and_comm]
  simp [eq_comm]

theorem Settled.live_receive
    {router : TopicRouter} (settled : router.Settled) (ticket : Ticket) (topic : String) :
    (router.receive ticket).2.live topic = router.live topic := by
  have listed : (router.receive ticket).2.tickets topic = router.tickets topic := by
    unfold receive
    split <;> rfl
  rw [live, listed]
  exact settled.filter_tickets (.receive ticket) (fun _ => nofun) topic

theorem Settled.closed_afterAll
    {router : TopicRouter} (settled : router.Settled) (history : List Operation) :
    (router.afterAll history).closed = true ↔ router.closed = true ∨ .close ∈ history := by
  have same := congrArg Prospect.closed (settled.yields_log 0 history).2
  exact (iff_of_eq (congrArg (· = true) same)).trans (Prospect.closed_stepAll _ 0 history)

/-- The receivers of a topic after a history are those that were there and those that it opens,
without the ones that it drops. -/
theorem Settled.live_afterAll
    {router : TopicRouter} (settled : router.Settled) (topic : String)
    (history : List Operation) :
    (router.afterAll history).live topic =
      if router.closed = true ∨ .close ∈ history then []
      else (router.live topic).filter (fun ticket => .drop ticket ∉ history) ++
        subscribers topic router.next history := by
  cases closed : router.closed with
  | true =>
      have still := (settled.closed_afterAll history).mpr (.inl closed)
      rw [(settled.afterAll history).live_of_closed still, if_pos (.inl rfl)]
  | false =>
      induction history generalizing router with
      | nil =>
          have all : (router.live topic).filter (fun _ => true) = router.live topic :=
            List.filter_eq_self.mpr fun _ _ => rfl
          simp [TopicRouter.afterAll, subscribers, all]
      | cons operation rest ih =>
          have next := settled.perform operation
          rw [TopicRouter.afterAll]
          cases operation with
          | subscribe other =>
              have live := settled.live_subscribe closed other topic
              have given : (router.subscribe other).2.next = router.next + 1 := rfl
              rw [ih next closed]
              simp only [TopicRouter.perform, live, given, subscribers, List.filter_append]
              by_cases here : other = topic <;> by_cases dropped : .drop router.next ∈ rest <;>
                simp [here, dropped]
          | publish packet =>
              have live := settled.live_publish packet topic
              have given : (router.publish packet).2.next = router.next := rfl
              rw [ih next closed]
              simp [TopicRouter.perform, live, given, subscribers]
          | receive ticket =>
              have live := settled.live_receive ticket topic
              have kept := router.receive_kept ticket
              rw [ih next (kept.1.trans closed)]
              simp [TopicRouter.perform, live, kept, subscribers]
          | drop ticket =>
              have live := settled.live_drop ticket topic
              have given : (router.drop ticket).next = router.next := rfl
              rw [ih next closed]
              simp [TopicRouter.perform, live, given, subscribers, List.filter_filter,
                Bool.and_comm]
          | count other =>
              rw [ih next closed]
              simp [TopicRouter.perform, subscribers]
          | close =>
              have still := (next.closed_afterAll rest).mpr (.inl rfl)
              rw [(next.afterAll rest).live_of_closed still, if_pos (.inr List.mem_cons_self)]

theorem live_eq_audience (topic : String) (history : List Operation) :
    (empty.afterAll history).live topic = audience topic history := by
  rw [settled_empty.live_afterAll]
  simp [audience, live, tickets, empty]

/-! ## The whole of a history -/

theorem log_append (router : TopicRouter) (before since : List Operation) :
    router.log (before ++ since) = router.log before ++ (router.afterAll before).log since := by
  induction before generalizing router with
  | nil =>
      rfl
  | cons operation rest ih =>
      rw [List.cons_append, log, log, ih]
      rfl

theorem afterAll_append (router : TopicRouter) (before since : List Operation) :
    router.afterAll (before ++ since) = (router.afterAll before).afterAll since := by
  induction before generalizing router with
  | nil =>
      rfl
  | cons operation rest ih =>
      exact ih _

/-- What a receiver that is opened for a topic is to yield. -/
def due (topic : String) (before since : List Operation) : List Packet :=
  if .close ∈ before then [] else published topic since

/-- A receiver yields in front what is due to it, and the rest waits for it unless it is dropped. -/
theorem yields_due
    (topic : String) (before since : List Operation) {ticket : Ticket}
    (opened : ticket = (empty.afterAll before).next) :
    let history := before ++ .subscribe topic :: since
    yields ticket (empty.log history) <+: due topic before since ∧
      (.drop ticket ∉ since →
        (empty.afterAll history).waiting? ticket =
          some (topic,
            (due topic before since).drop (yields ticket (empty.log history)).length)) := by
  intro history
  have settled := settled_empty.afterAll before
  let start := ((empty.afterAll before).prospect ticket).step ticket (.subscribe topic)
  have late := (settled.perform (.subscribe topic)).yields_log ticket since
  rw [settled.prospect_perform] at late
  -- Nothing is read from the receiver before it is opened.
  have early : yields ticket (empty.log before) = [] := by
    have along := settled_empty.yields_log ticket before
    rw [along.1]
    refine Prospect.reads_of_absent before rfl (.inr ?_)
    rw [← along.2]
    exact Nat.le_of_eq opened.symm
  have told : yields ticket (empty.log history) = start.reads ticket since := by
    unfold yields at early late ⊢
    rw [log_append, List.filterMap_append, early]
    exact late.1
  have waits : start.waiting? = some (topic, []) := by
    simp [start, Prospect.step, prospect, opened]
  have issued : ticket < start.next := by
    rw [opened]
    exact Nat.lt_succ_self _
  have toCome : start.toCome topic since = due topic before since := by
    have closed : start.closed = true ↔ .close ∈ before := by
      have along := settled_empty.closed_afterAll before
      rw [or_iff_right (by decide)] at along
      exact along
    simp only [Prospect.toCome, due, closed]
  have serves := Prospect.serves waits issued since
  rw [toCome, List.nil_append] at serves
  rw [told]
  refine ⟨serves.front, fun kept => ?_⟩
  rw [← serves.rest kept, afterAll_append]
  exact congrArg Prospect.waiting? late.2

theorem hasEnded_of_waiting?
    {router : TopicRouter} {ticket : Ticket} {topic : String} {packets : List Packet}
    (waits : router.waiting? ticket = some (topic, packets)) :
    router.hasEnded ticket = true ↔ router.closed = true ∧ packets = [] := by
  rcases exists_of_waiting? waits with ⟨receiver, found, _, rfl⟩
  simp [hasEnded, found]

/-- Publish and subscribe.  A receiver yields in order and once each the packets that are published
on its topic after it is opened and before the router is closed.  As long as it is not dropped it
next yields the first of them that it has not yielded, and it ends just when the router is closed
and none of them is left.  Publishing reaches, and counting tells, just the receivers that were
opened for the topic before the router was closed and are not dropped.  Reading from a receiver or
dropping it does not change what another yields. -/
theorem routers_publish_and_subscribe (history : List Operation) :
    (∀ before topic since ticket, history = before ++ .subscribe topic :: since →
      ((empty.afterAll before).perform (.subscribe topic)).1 = .ticket ticket →
      yields ticket (empty.log history) <+: due topic before since ∧
        (.drop ticket ∉ since →
          ((empty.afterAll history).perform (.receive ticket)).1 =
              .packet (due topic before since)[(yields ticket (empty.log history)).length]? ∧
            ((empty.afterAll history).hasEnded ticket = true ↔
              .close ∈ history ∧ yields ticket (empty.log history) = due topic before since))) ∧
    (∀ packet, ((empty.afterAll history).perform (.publish packet)).1 =
      .number (audience packet.topic history).length) ∧
    (∀ topic, ((empty.afterAll history).perform (.count topic)).1 =
      .number (audience topic history).length) ∧
    (∀ ticket other, other ≠ ticket →
      yields ticket (empty.log history) =
        yields ticket (empty.log (history.filter fun operation => !operation.isAbout other))) := by
  refine ⟨?_, fun packet => ?_, fun topic => ?_, fun ticket other different => ?_⟩
  · rintro before topic since ticket rfl answered
    have opened : ticket = (empty.afterAll before).next := (Answer.ticket.inj answered).symm
    rcases yields_due topic before since opened with ⟨front, rest⟩
    refine ⟨front, fun kept => ?_⟩
    have waits := rest kept
    have closed := settled_empty.closed_afterAll (before ++ .subscribe topic :: since)
    rw [or_iff_right (by decide)] at closed
    constructor
    · rw [perform, receive_eq, waits]
      simp [List.head?_drop]
    · rw [hasEnded_of_waiting? waits, closed, List.drop_eq_nil_iff]
      refine and_congr_right fun _ => ⟨fun all => ?_, fun same => ?_⟩
      · exact List.IsPrefix.eq_of_length_le front all
      · exact Nat.le_of_eq (congrArg List.length same.symm)
  · rw [← live_eq_audience]
    rfl
  · rw [← live_eq_audience]
    rfl
  · rw [(settled_empty.yields_log ticket _).1, (settled_empty.yields_log ticket _).1,
      Prospect.reads_filter different]

def welcome : Packet := ⟨"select", Json.null.toValue, ⟨1⟩, none, none⟩

def farewell : Packet := ⟨"select", Json.null.toValue, ⟨2⟩, none, none⟩

/-- The second of two receivers is dropped, and the first still has a packet to read when the router
is closed. -/
theorem last_packet_outlives_router :
    let since : List Operation :=
      [.subscribe "select", .publish welcome, .drop 1, .publish farewell, .receive 0, .close]
    let history := .subscribe "select" :: since
    yields 0 (empty.log history) = [welcome] ∧
      yields 0 (empty.log history) <+: due "select" [] since ∧
      ((empty.afterAll history).perform (.receive 0)).1 = .packet (some farewell) ∧
      (empty.afterAll history).hasEnded 0 = false ∧
      yields 0 (empty.log history) =
        yields 0 (empty.log (history.filter fun operation => !operation.isAbout 1)) := by
  intro since history
  have whole := routers_publish_and_subscribe history
  rcases whole.1 [] "select" since 0 rfl rfl with ⟨front, next⟩
  rcases next (by decide) with ⟨content, ended⟩
  have read : yields 0 (empty.log history) = [welcome] := by decide
  have left : due "select" [] since = [welcome, farewell] := by decide
  rw [read, left] at content ended
  have unended : (empty.afterAll history).hasEnded 0 = false := by
    rw [Bool.eq_false_iff, Ne, ended]
    simp
  exact ⟨read, front, content, unended, whole.2.2.2 0 1 (by decide)⟩

end SessionBus.TopicRouter
