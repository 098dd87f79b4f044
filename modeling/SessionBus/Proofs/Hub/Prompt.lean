import SessionBus.Proofs.Bus.Inboxes
import SessionBus.Proofs.Hub.Work

/-!
# Hubs whose writes succeed

A hub runs what comes to it to its end, and all its writes succeed.  The tasks of a busy hub do the
same if no write fails and they take turns in the order in which the hub goes on, and nothing is left
to do on any connection when they are done.
-/

namespace SessionBus

open Hub (Act)

/-! ## Inboxes -/

namespace Exchange

/-- No two inboxes are of one frame. -/
def Apart (exchange : Exchange) : Prop :=
  (exchange.inboxes.map (·.frame)).Nodup

variable {exchange : Exchange} {frame : FrameId}

theorem nodup_follow
    {inboxes : List Inbox} (apart : (inboxes.map (·.frame)).Nodup) (event : Event) :
    ((follow inboxes event).map (·.frame)).Nodup := by
  cases event with
  | registered frame =>
      simp only [follow]
      rw [Keyed.apart_append]
      refine ⟨apart.sublist (List.filter_sublist.map _), fun other inside => ?_⟩
      simpa using (List.mem_filter.mp inside).2
  | unregistered frame =>
      simp only [follow]
      rwa [map_frame_map]
      intro inbox
      split <;> rfl
  | claimed | joined =>
      exact apart

theorem nodup_push
    {inboxes : List Inbox} (apart : (inboxes.map (·.frame)).Nodup) (frame : FrameId)
    (packet : Packet) : ((push inboxes frame packet).map (·.frame)).Nodup := by
  unfold push
  rwa [map_frame_map]
  intro inbox
  split <;> rfl

theorem Apart.settle (apart : exchange.Apart) {α : Type} (turn : Turn α) :
    (exchange.settle turn).Apart := by
  let nodup (inboxes : List Inbox) : Prop := (inboxes.map (·.frame)).Nodup
  have followed : nodup (turn.events.foldl follow exchange.inboxes) :=
    List.foldlRecOn (motive := nodup) _ _ apart fun _ kept event _ => nodup_follow kept event
  exact List.foldlRecOn (motive := nodup) _ _ followed fun _ kept delivery _ =>
    nodup_push kept delivery.1 delivery.2

theorem Apart.ask (apart : exchange.Apart) (now : Instant) (command : Command) :
    (exchange.ask now command).Apart := by
  unfold Exchange.ask request
  split
  · exact apart
  · exact apart.settle _

theorem Apart.askAll (apart : exchange.Apart) (commands : List (Instant × Command)) :
    (exchange.askAll commands).Apart :=
  List.foldlRecOn (motive := Apart) _ _ apart fun _ kept entry _ => kept.ask entry.1 entry.2

theorem Apart.collect (apart : exchange.Apart) (frame : FrameId) :
    (exchange.collect frame).2.Apart := by
  unfold Exchange.Apart Exchange.collect
  rwa [map_frame_map]
  intro inbox
  split <;> rfl

theorem collect_of_none (apart : exchange.Apart) (nothing : exchange.takeNext? frame = none) :
    exchange.collect frame = ([], exchange) := by
  unfold takeNext? at nothing
  split at nothing
  · rename_i empty
    have kept : exchange.inboxes.map (fun inbox =>
        if inbox.frame = frame then { inbox with packets := [] } else inbox) =
          exchange.inboxes := by
      conv_rhs => rw [← List.map_id exchange.inboxes]
      apply List.map_congr_left
      intro inbox inside
      split
      · rename_i own
        have found : exchange.inbox? frame = some inbox := own ▸ Keyed.find?_of_mem apart inside
        rw [found] at empty
        have bare : inbox.packets = [] := empty
        rw [← bare]
        rfl
      · rfl
    simp only [collect, empty, kept]
  · cases nothing

/-- Packets that are taken one by one are those that are taken together. -/
theorem collect_of_some
    {packet : Packet} {after : Exchange}
    (next : exchange.takeNext? frame = some (packet, after)) :
    exchange.collect frame = (packet :: (after.collect frame).1, (after.collect frame).2) := by
  unfold takeNext? at next
  split at next
  · cases next
  · rename_i rest waits
    cases next
    let left := fun inbox : Inbox =>
      if inbox.frame = frame then { inbox with packets := rest } else inbox
    have keys : ((fun inbox : Inbox => inbox.frame == frame) ∘ left) =
        fun inbox => inbox.frame == frame := by
      funext inbox
      by_cases own : inbox.frame = frame <;> simp [left, own]
    have found : (exchange.inboxes.map left).find? (fun inbox => inbox.frame == frame) =
        (exchange.inbox? frame).map left := by
      rw [List.find?_map, keys]
      rfl
    have emptied : (exchange.inboxes.map left).map (fun inbox =>
        if inbox.frame = frame then { inbox with packets := [] } else inbox) =
          exchange.inboxes.map fun inbox =>
            if inbox.frame = frame then { inbox with packets := [] } else inbox := by
      rw [List.map_map]
      apply List.map_congr_left
      intro inbox _
      by_cases own : inbox.frame = frame <;> simp [left, own]
    have first : (((exchange.inboxes.map left).find? fun inbox =>
        inbox.frame == frame).map (·.packets)).getD [] = rest := by
      rw [found]
      cases known : exchange.inbox? frame with
      | none =>
          rw [known] at waits
          cases waits
      | some inbox =>
          have own : inbox.frame = frame := by simpa using List.find?_some known
          simp [left, own]
    refine Prod.ext ?_ ?_
    · exact waits.trans (congrArg (packet :: ·) first.symm)
    · exact congrArg (fun inboxes => { exchange with inboxes }) emptied.symm

theorem Apart.of_takeNext?
    (apart : exchange.Apart) {packet : Packet} {after : Exchange}
    (next : exchange.takeNext? frame = some (packet, after)) : after.Apart := by
  unfold takeNext? at next
  split at next
  · cases next
  · cases next
    unfold Exchange.Apart
    rwa [map_frame_map]
    intro inbox
    split <;> rfl

end Exchange

namespace Hub

variable {hub : Hub}

theorem apart_forwardOne {exchange : Exchange} (apart : exchange.Apart) (connection : Connection) :
    (forwardOne connection exchange).1.Apart := by
  unfold forwardOne
  split
  · exact apart
  · exact apart.collect _

theorem apart_perform (apart : hub.exchange.Apart) (act : Act) :
    (hub.perform act).1.exchange.Apart := by
  by_cases writes : act = .forward
  · subst writes
    let kept (done : Exchange × List Output) : Prop := done.1.Apart
    exact List.foldlRecOn (motive := kept) _ _ apart fun _ apart connection _ =>
      apart_forwardOne apart connection
  · rw [exchange_perform hub writes]
    exact apart.askAll _

theorem apart_performAll (apart : hub.exchange.Apart) (acts : List Act) :
    (hub.performAll acts).1.exchange.Apart := by
  induction acts generalizing hub with
  | nil =>
      exact apart
  | cons act rest ih =>
      exact ih (apart_perform apart act)

/-- A connection that has been there is not there any more. -/
def Gone (hub : Hub) (number : Nat) : Prop :=
  number < hub.nextNumber ∧ hub.connection? number = none

theorem Gone.perform
    {max number : Nat} (gone : hub.Gone number) (consistent : hub.Consistent max) {act : Act}
    (allowed : hub.Allows act) : (hub.perform act).1.Gone number := by
  have absent : hub.stage? number = none := by
    rw [stage?, gone.2]
    rfl
  cases fate consistent allowed number with
  | spared stage next =>
      exact ⟨next.mpr gone.1, Option.map_eq_none_iff.mp (stage.trans absent)⟩
  | admitted act_eq next =>
      exact absurd gone.1 (Nat.not_lt.mpr (Nat.le_of_eq next.symm))
  | heard now incoming act_eq connection known | left act_eq connection known =>
      rw [gone.2] at known
      cases known

theorem Gone.performAll
    {max number : Nat} (gone : hub.Gone number) (consistent : hub.Consistent max) {acts : List Act}
    (allowed : ∀ done ∈ hub.run acts, done.before.Allows done.act) :
    (hub.performAll acts).1.Gone number := by
  induction acts generalizing hub with
  | nil =>
      exact gone
  | cons act rest ih =>
      rw [run, List.forall_mem_cons] at allowed
      exact ih (gone.perform consistent allowed.1) (consistent.perform allowed.1) allowed.2

theorem Consistent.performAll
    {max : Nat} (consistent : hub.Consistent max) {acts : List Act}
    (allowed : ∀ done ∈ hub.run acts, done.before.Allows done.act) :
    (hub.performAll acts).1.Consistent max := by
  induction acts generalizing hub with
  | nil =>
      exact consistent
  | cons act rest ih =>
      rw [run, List.forall_mem_cons] at allowed
      exact ih (consistent.perform allowed.1) allowed.2

/-- Whoever is there, or has been there, has been taken in. -/
theorem nextNumber_performAll (hub : Hub) (acts : List Act) :
    hub.nextNumber ≤ (hub.performAll acts).1.nextNumber := by
  induction acts generalizing hub with
  | nil =>
      exact Nat.le_refl _
  | cons act rest ih =>
      refine Nat.le_trans ?_ (ih (hub.perform act).1)
      by_cases comes : act = .accept
      · subst comes
        simp only [perform, accept]
        split
        · exact Nat.le_refl _
        · exact Nat.le_succ _
      · exact Nat.le_of_eq (hub.nextNumber_perform comes).symm

end Hub

/-! ## Steps whose writes succeed -/

namespace BusyHub

/-- No write fails with the step. -/
def Step.Succeeds : Step → Prop
  | .handle _ _ written => written = true
  | .forward _ written => written = true
  | _ => True

theorem run_append (busy : BusyHub) (first second : List Step) :
    busy.run (first ++ second) =
      (((busy.run first).1.run second).1,
        (busy.run first).2 ++ ((busy.run first).1.run second).2) := by
  induction first generalizing busy with
  | nil =>
      rfl
  | cons step rest ih =>
      simp only [List.cons_append, run, ih, List.append_assoc]

/-- Some steps with which no write fails lead from a busy hub to another, and do these outputs. -/
def Leads (busy after : BusyHub) (outputs : List Output) : Prop :=
  ∃ steps, (∀ step ∈ steps, Step.Succeeds step) ∧
    busy.run steps = (after, outputs.map Output.effect)

namespace Leads

variable {busy middle after : BusyHub} {outputs more : List Output}

theorem refl (busy : BusyHub) : busy.Leads busy [] :=
  ⟨[], by simp, rfl⟩

theorem trans (first : busy.Leads middle outputs) (second : middle.Leads after more) :
    busy.Leads after (outputs ++ more) := by
  rcases first with ⟨steps, succeed, led⟩
  rcases second with ⟨others, succeedToo, ledOn⟩
  refine ⟨steps ++ others, List.forall_mem_append.mpr ⟨succeed, succeedToo⟩, ?_⟩
  rw [run_append, led, ledOn, List.map_append]

theorem of_step {step : Step} (succeeds : step.Succeeds)
    (stepped : busy.step step = (after, outputs.map Output.effect)) : busy.Leads after outputs := by
  refine ⟨[step], by simpa using succeeds, ?_⟩
  simp only [run, stepped, List.append_nil]

end Leads

variable {busy : BusyHub} {number max : Nat} {connection : Connection}

/-- The packets of a connection go out one by one. -/
theorem leads_collect
    (known : busy.hub.connection? connection.number = some connection)
    (flows : (busy.tasks connection.number).forwards = true) (apart : busy.hub.exchange.Apart)
    {frame : FrameId} (served : Hub.servedFrame? connection = some frame) {packets : List Packet}
    (collected : (busy.hub.exchange.collect frame).1 = packets) :
    busy.Leads
      { busy with hub := { busy.hub with exchange := (busy.hub.exchange.collect frame).2 } }
      (packets.map fun packet => .write connection.number (.deliver packet)) := by
  induction packets generalizing busy with
  | nil =>
      cases next : busy.hub.exchange.takeNext? frame with
      | none =>
          rw [Exchange.collect_of_none apart next]
          exact .refl busy
      | some entry =>
          rw [Exchange.collect_of_some next] at collected
          cases collected
  | cons packet rest ih =>
      cases next : busy.hub.exchange.takeNext? frame with
      | none =>
          rw [Exchange.collect_of_none apart next] at collected
          cases collected
      | some entry =>
          rcases entry with ⟨first, after⟩
          rw [Exchange.collect_of_some next] at collected ⊢
          obtain ⟨rfl, others⟩ := List.cons.inj collected
          let taken : BusyHub := { busy with hub := { busy.hub with exchange := after } }
          have one : busy.Leads taken [.write connection.number (.deliver first)] := by
            refine .of_step (show Step.Succeeds (.forward connection.number true) from rfl) ?_
            refine (on_of_known known _).trans ?_
            simp only [flows, if_true, forward, served, next]
            rfl
          have kept : taken.hub.exchange.Apart := apart.of_takeNext? next
          have later : taken.Leads
              { taken with hub := { taken.hub with exchange := (after.collect frame).2 } }
              (rest.map fun packet => .write connection.number (.deliver packet)) :=
            ih known flows kept others
          exact one.trans later

theorem leads_forwardOne
    (known : busy.hub.connection? connection.number = some connection)
    (flows : (busy.tasks connection.number).forwards = true) (apart : busy.hub.exchange.Apart) :
    let forwarded := Hub.forwardOne connection busy.hub.exchange
    busy.Leads { busy with hub := { busy.hub with exchange := forwarded.1 } } forwarded.2 := by
  cases served : Hub.servedFrame? connection with
  | none =>
      simp only [Hub.forwardOne, served]
      exact .refl busy
  | some frame =>
      simp only [Hub.forwardOne, served]
      exact leads_collect known flows apart served rfl

theorem leads_forwardAll
    {connections : List Connection}
    (known : ∀ connection ∈ connections,
      busy.hub.connection? connection.number = some connection)
    (flows : ∀ number, (busy.tasks number).forwards = true) (apart : busy.hub.exchange.Apart)
    (outputs : List Output) :
    let forwarded := connections.foldl
      (fun (exchange, outputs) connection =>
        let (exchange, more) := Hub.forwardOne connection exchange
        (exchange, outputs ++ more))
      (busy.hub.exchange, outputs)
    ∃ more, forwarded.2 = outputs ++ more ∧
      busy.Leads { busy with hub := { busy.hub with exchange := forwarded.1 } } more := by
  induction connections generalizing busy outputs with
  | nil =>
      exact ⟨[], (List.append_nil _).symm, .refl busy⟩
  | cons connection rest ih =>
      rw [List.forall_mem_cons] at known
      let forwarded := Hub.forwardOne connection busy.hub.exchange
      let next : BusyHub := { busy with hub := { busy.hub with exchange := forwarded.1 } }
      have one : busy.Leads next forwarded.2 :=
        leads_forwardOne known.1 (flows connection.number) apart
      have kept : next.hub.exchange.Apart := Hub.apart_forwardOne apart connection
      have others : ∀ other ∈ rest, next.hub.connection? other.number = some other := known.2
      rcases ih others flows kept (outputs ++ forwarded.2) with ⟨more, all, leads⟩
      exact ⟨forwarded.2 ++ more, by rw [← List.append_assoc]; exact all, one.trans leads⟩

/-! ## Acts -/

/-- A busy hub with whose steps no write has failed so far. -/
structure Fluent (busy : BusyHub) (max : Nat) : Prop where
  consistent : busy.hub.Consistent max
  apart : busy.hub.exchange.Apart
  flows : ∀ number, (busy.tasks number).forwards = true

/-- What a busy hub does until some moment are these acts. -/
structure Performs (busy after : BusyHub) (acts : List Act) : Prop where
  leads : busy.Leads after (busy.hub.performAll acts).2
  hub : after.hub = (busy.hub.performAll acts).1

namespace Performs

variable {middle after : BusyHub} {acts more : List Act}

theorem refl (busy : BusyHub) : busy.Performs busy [] :=
  ⟨.refl busy, rfl⟩

theorem trans (first : busy.Performs middle acts) (second : middle.Performs after more) :
    busy.Performs after (acts ++ more) := by
  have leads := second.leads
  rw [first.hub] at leads
  constructor
  · rw [Hub.performAll_append]
    exact first.leads.trans leads
  · rw [Hub.performAll_append, second.hub, first.hub]

/-- One act is done. -/
theorem one {act : Act} (leads : busy.Leads after (busy.hub.perform act).2)
    (hub : after.hub = (busy.hub.perform act).1) : busy.Performs after [act] := by
  constructor
  · simpa only [Hub.performAll, List.append_nil] using leads
  · exact hub

theorem of_step {act : Act} {step : Step} (succeeds : step.Succeeds)
    (stepped : busy.step step = (after, (busy.hub.perform act).2.map Output.effect))
    (hub : after.hub = (busy.hub.perform act).1) : busy.Performs after [act] :=
  .one (.of_step succeeds stepped) hub

theorem fluent
    (performs : busy.Performs after acts) (fluent : busy.Fluent max)
    (allowed : ∀ done ∈ busy.hub.run acts, done.before.Allows done.act)
    (flows : ∀ number, (after.tasks number).forwards = true) : after.Fluent max where
  consistent := performs.hub ▸ fluent.consistent.performAll allowed
  apart := performs.hub ▸ Hub.apart_performAll fluent.apart acts
  flows := flows

end Performs

section Fluent

variable (fluent : busy.Fluent max)

include fluent

theorem performs_forward :
    busy.Performs { busy with hub := busy.hub.forward.1 } [.forward] := by
  have known : ∀ connection ∈ busy.hub.connections,
      busy.hub.connection? connection.number = some connection :=
    fun _ inside => Hub.connection?_of_mem fluent.consistent.apart inside
  rcases leads_forwardAll known fluent.flows fluent.apart [] with ⟨packets, all, leads⟩
  refine .one ?_ rfl
  rw [List.nil_append] at all
  rw [← all] at leads
  exact leads

theorem performs_pause (pauses : Bool) :
    ∃ after, busy.Performs after (if pauses then [.forward] else []) ∧ after.tasks = busy.tasks := by
  cases pauses with
  | false =>
      exact ⟨busy, .refl busy, rfl⟩
  | true =>
      exact ⟨_, performs_forward fluent, rfl⟩

end Fluent

theorem performs_hear
    (known : busy.hub.connection? number = some connection) (now : Instant) {incoming : Incoming}
    {rest : List (Option Incoming)} (waits : (busy.tasks number).waiting = some incoming :: rest) :
    ∃ after, busy.Performs after [.hear number now incoming] ∧
      after.tasks = busy.tasksWith number { busy.tasks number with waiting := rest } := by
  obtain rfl := Hub.number_of_connection? known
  have stepped : busy.step (.handle connection.number now true) =
      busy.reply connection (busy.answer connection now incoming) rest := by
    refine (on_of_known known _).trans ?_
    simp only [handle, waits, Bool.true_or, if_true]
  have succeeds : Step.Succeeds (.handle connection.number now true) := rfl
  rw [reply_eq, ← perform_hear known] at stepped
  exact ⟨_, .of_step succeeds stepped rfl, tasks_await busy _ _ _⟩

theorem flows_tasksWith
    (flows : ∀ number, (busy.tasks number).forwards = true) (number : Nat)
    (waiting : List (Option Incoming)) (other : Nat) :
    (busy.tasksWith number { busy.tasks number with waiting } other).forwards = true := by
  unfold tasksWith
  split
  · exact flows number
  · exact flows other

/-- A connection is left, for a reason that does not matter here. -/
theorem performs_leave
    (known : busy.hub.connection? number = some connection)
    {step : Step} (succeeds : step.Succeeds) (left : busy.step step = busy.leave connection) :
    busy.Performs { busy with hub := (busy.hub.perform (.leave number)).1 } [.leave number] := by
  rw [leave_eq known] at left
  exact .of_step succeeds left rfl

/-- Lines are heard one after the other, until the connection ends. -/
theorem performs_hearings
    (fluent : busy.Fluent max) (now : Instant) {found : List Incoming}
    {more : List (Option Incoming)}
    (waits : (busy.tasks number).waiting = found.map some ++ more) :
    ∃ after, busy.Performs after (busy.hub.hearings number now found) ∧ after.Fluent max ∧
      (∀ other, other ≠ number → after.tasks other = busy.tasks other) ∧
      (after.hub.connection? number = none ∨ (after.tasks number).waiting = more) := by
  induction found generalizing busy with
  | nil =>
      exact ⟨busy, .refl busy, fluent, fun _ _ => rfl, .inr waits⟩
  | cons incoming rest ih =>
      cases known : busy.hub.connection? number with
      | none =>
          simp only [Hub.hearings, known]
          exact ⟨busy, .refl busy, fluent, fun _ _ => rfl, .inl known⟩
      | some connection =>
          rcases performs_hear known now waits with ⟨heard, one, tasks⟩
          have spoken : heard.Fluent max := by
            refine one.fluent fluent ?_ fun other => ?_
            · simpa [Hub.run] using ⟨connection, known⟩
            · rw [tasks]
              exact flows_tasksWith fluent.flows number _ other
          let answer := busy.hub.answerTo connection now incoming
          rcases performs_pause spoken (busy.hub.pausesFor answer) with ⟨paused, two, same⟩
          have both := one.trans two
          have settled : paused.hub = (busy.hub.settle connection answer).1 :=
            both.hub.trans (congrArg Prod.fst (Hub.performAll_hear known now incoming))
          have fluentThen : paused.Fluent max := by
            refine two.fluent spoken ?_ fun other => same ▸ spoken.flows other
            split <;> simp [Hub.run, Hub.Allows]
          have left : (paused.tasks number).waiting = rest.map some ++ more := by
            rw [same, tasks, tasksWith, if_pos rfl]
            rfl
          rcases ih fluentThen left with ⟨after, later, last, others, ended⟩
          refine ⟨after, ?_, last, fun other different => ?_, ended⟩
          · rw [settled] at later
            have all := both.trans later
            simpa only [Hub.hearings, known, List.cons_append, List.nil_append] using all
          · rw [others other different, same, tasks, tasksWith, if_neg different]

theorem clock_leave (hub : Hub) (number : Nat) :
    (hub.perform (.leave number)).1.clock = hub.clock := by
  simp only [Hub.perform]
  split
  · rfl
  · rw [Hub.carryOut_eq]
    rfl

/-- A connection whose end has been found is left, unless it is not there any more. -/
theorem performs_end
    (number : Nat) (now : Instant)
    (ended : busy.hub.connection? number = none ∨ (busy.tasks number).waiting = [none]) :
    ∃ after, busy.Performs after [.leave number] ∧ after.tasks = busy.tasks ∧
      after.hub.connection? number = none := by
  cases known : busy.hub.connection? number with
  | none =>
      have nothing : busy.hub.perform (.leave number) = (busy.hub, []) :=
        Hub.perform_of_absent rfl known
      refine ⟨busy, .one ?_ ?_, rfl, known⟩ <;> rw [nothing]
      exact .refl busy
  | some connection =>
      obtain rfl := Hub.number_of_connection? known
      have waits := ended.resolve_left (by simp [known])
      have left : busy.step (.handle connection.number now true) = busy.leave connection := by
        refine (on_of_known known _).trans ?_
        simp only [handle, waits]
      have succeeds : Step.Succeeds (.handle connection.number now true) := rfl
      refine ⟨_, performs_leave known succeeds left, rfl, ?_⟩
      have gone := Hub.connection?_carryOut (busy.hub.farewell connection) known connection.number
      rw [if_pos rfl, if_pos (Hub.stage_farewell _ _)] at gone
      simp only [Hub.perform, known]
      exact gone

/-- Connections that may be left are left one after the other. -/
theorem performs_leavings
    {connections : List Connection} (apart : (connections.map (·.number)).Nodup)
    (known : ∀ connection ∈ connections,
      busy.hub.connection? connection.number = some connection)
    (may : ∀ connection ∈ connections, busy.mayLeave connection = true) :
    ∃ after, busy.Performs after (Hub.leavings connections) ∧ after.tasks = busy.tasks := by
  induction connections generalizing busy with
  | nil =>
      exact ⟨busy, .refl busy, rfl⟩
  | cons connection rest ih =>
      rw [List.map_cons, List.nodup_cons] at apart
      rw [List.forall_mem_cons] at known may
      have left : busy.step (.leave connection.number) = busy.leave connection := by
        refine (on_of_known known.1 _).trans ?_
        rw [if_pos may.1]
      let next : BusyHub := { busy with hub := (busy.hub.perform (.leave connection.number)).1 }
      have one : busy.Performs next [.leave connection.number] :=
        performs_leave known.1 (show Step.Succeeds (.leave connection.number) from trivial) left
      have others : ∀ other ∈ rest, next.hub.connection? other.number = some other := by
        intro other inside
        have different : some connection.number ≠ some other.number :=
          fun same => apart.1 (Option.some.inj same ▸ List.mem_map_of_mem inside)
        have allowed : busy.hub.Allows (.leave connection.number) := trivial
        exact (Hub.connection?_perform allowed different (by simp)).trans (known.2 other inside)
      have mayToo : ∀ other ∈ rest, next.mayLeave other = true := by
        intro other inside
        simp only [mayLeave, next, clock_leave]
        exact may.2 other inside
      rcases ih apart.2 others mayToo with ⟨after, later, tasks⟩
      exact ⟨after, one.trans later, tasks⟩

/-! ## Inputs -/

/-- Nothing waits on a connection, unless it is not there any more. -/
def Rests (busy : BusyHub) (number : Nat) : Prop :=
  (busy.tasks number).waiting = [] ∨ busy.hub.Gone number

theorem Rests.idle (rests : busy.Rests number)
    (known : busy.hub.connection? number = some connection) : (busy.tasks number).waiting = [] := by
  refine rests.resolve_right fun gone => ?_
  rw [gone.2] at known
  cases known

theorem Rests.of_performs
    {after : BusyHub} {acts : List Act} (rests : busy.Rests number) (fluent : busy.Fluent max)
    (allowed : ∀ done ∈ busy.hub.run acts, done.before.Allows done.act)
    (performs : busy.Performs after acts) (tasks : after.tasks number = busy.tasks number) :
    after.Rests number := by
  rcases rests with idle | gone
  · exact .inl (tasks ▸ idle)
  · right
    rw [performs.hub]
    exact gone.performAll fluent.consistent allowed

theorem rests_of_absent
    (fluent : busy.Fluent max) (known : busy.hub.connection? number = some connection)
    {after : BusyHub} {acts : List Act} (performs : busy.Performs after acts)
    (absent : after.hub.connection? number = none) : after.Rests number := by
  refine .inr ⟨?_, absent⟩
  have born := fluent.consistent.numbered connection (Hub.mem_of_connection? known)
  rw [Hub.number_of_connection? known] at born
  rw [performs.hub]
  exact Nat.lt_of_lt_of_le born (busy.hub.nextNumber_performAll acts)

/-- Some acts are done by steps with which no write fails, and nothing is left to do after them. -/
def Serves (busy : BusyHub) (max : Nat) (acts : List Act) : Prop :=
  ∃ after, busy.Performs after acts ∧ after.Fluent max ∧ ∀ number, after.Rests number

section Serves

variable (fluent : busy.Fluent max) (rests : ∀ number, busy.Rests number)

include fluent rests

theorem serves_of_performs
    {after : BusyHub} {acts : List Act} (performs : busy.Performs after acts)
    (allowed : ∀ done ∈ busy.hub.run acts, done.before.Allows done.act)
    (flows : ∀ number, (after.tasks number).forwards = true)
    (own : ∀ number, after.tasks number ≠ busy.tasks number → after.Rests number) :
    busy.Serves max acts := by
  refine ⟨after, performs, performs.fluent fluent allowed flows, fun number => ?_⟩
  by_cases same : after.tasks number = busy.tasks number
  · exact (rests number).of_performs fluent allowed performs same
  · exact own number same

theorem serves_of_same
    {after : BusyHub} {acts : List Act} (performs : busy.Performs after acts)
    (allowed : ∀ done ∈ busy.hub.run acts, done.before.Allows done.act)
    (tasks : after.tasks = busy.tasks) : busy.Serves max acts :=
  serves_of_performs fluent rests performs allowed (fun number => tasks ▸ fluent.flows number)
    fun number different => absurd (congrFun tasks number) different

theorem serves_bytes
    (known : busy.hub.connection? number = some connection) (now : Instant)
    (bytes : List UInt8) : busy.Serves max (busy.hub.actsFor (.bytes number now bytes)) := by
  have allowed := busy.hub.allows_actsFor (.bytes number now bytes)
  obtain rfl := Hub.number_of_connection? known
  have idle := (rests connection.number).idle known
  let read := busy.read connection bytes
  have performed : busy.hub.perform (.read connection.number bytes) = (read.hub, []) := by
    simp only [Hub.perform, known]
    rfl
  have stepped : busy.step (.read connection.number bytes) = (read, []) := by
    refine (on_of_known known _).trans ?_
    simp [hasEnded, idle, read]
  have one : busy.Performs read [.read connection.number bytes] := by
    refine .of_step (show Step.Succeeds (.read connection.number bytes) from trivial) ?_ ?_
    · rw [performed]
      exact stepped
    · rw [performed]
  have tasks : read.tasks = busy.tasksWith connection.number
      { busy.tasks connection.number with
        waiting := (busy.tasks connection.number).waiting ++
          (connection.reader.feed bytes).1.map some } := tasks_await busy _ _ _
  have fluentRead : read.Fluent max := by
    refine one.fluent fluent ?_ fun other => tasks ▸ flows_tasksWith fluent.flows _ _ other
    simpa [Hub.run] using ⟨connection, known⟩
  have waits : (read.tasks connection.number).waiting =
      (connection.reader.feed bytes).1.map some ++ [] := by
    rw [tasks, tasksWith, if_pos rfl, idle, List.append_nil]
    rfl
  rcases performs_hearings fluentRead now waits with ⟨after, later, last, others, ended⟩
  have all := one.trans (later.trans (performs_forward last))
  have acts : busy.hub.actsFor (.bytes connection.number now bytes) =
      [.read connection.number bytes] ++
        (read.hub.hearings connection.number now (connection.reader.feed bytes).1 ++
          [.forward]) := by
    simp only [Hub.actsFor, known]
    rfl
  rw [acts] at allowed ⊢
  refine serves_of_performs fluent rests all allowed last.flows fun other different => ?_
  by_cases own : other = connection.number
  · subst own
    rcases ended with gone | empty
    · exact rests_of_absent fluent known all gone
    · exact .inl empty
  · refine absurd ?_ different
    exact (others other own).trans (by rw [tasks, tasksWith, if_neg own])

theorem serves_endOfStream
    (known : busy.hub.connection? number = some connection) (now : Instant) :
    busy.Serves max (busy.hub.actsFor (.endOfStream number now)) := by
  have allowed := busy.hub.allows_actsFor (.endOfStream number now)
  obtain rfl := Hub.number_of_connection? known
  have idle := (rests connection.number).idle known
  let finished := busy.finish connection connection.reader.finish
  have stepped : busy.step (.finish connection.number) = (finished, []) := by
    refine (on_of_known known _).trans ?_
    simp [hasEnded, idle, finished]
  have one : busy.Performs finished [] :=
    ⟨.of_step (show Step.Succeeds (.finish connection.number) from trivial) stepped, rfl⟩
  have tasks : finished.tasks = busy.tasksWith connection.number
      { busy.tasks connection.number with
        waiting := (busy.tasks connection.number).waiting ++
          connection.reader.finish.toList.map some ++ [none] } := tasks_await busy _ _ _
  have fluentThen : finished.Fluent max :=
    one.fluent fluent (by simp [Hub.run]) fun other =>
      tasks ▸ flows_tasksWith fluent.flows _ _ other
  have waits : (finished.tasks connection.number).waiting =
      connection.reader.finish.toList.map some ++ [none] := by
    rw [tasks, tasksWith, if_pos rfl, idle]
    rfl
  rcases performs_hearings fluentThen now waits with ⟨heard, later, fluentHeard, others, ended⟩
  rcases performs_end connection.number now ended with ⟨left, leaves, same, gone⟩
  have last : left.Fluent max :=
    leaves.fluent fluentHeard (by simp [Hub.run, Hub.Allows]) fun other =>
      same ▸ fluentHeard.flows other
  have all := one.trans (later.trans (leaves.trans (performs_forward last)))
  have acts : busy.hub.actsFor (.endOfStream connection.number now) =
      [] ++ (finished.hub.hearings connection.number now connection.reader.finish.toList ++
        ([.leave connection.number] ++ [.forward])) := by
    simp only [Hub.actsFor, known]
    rfl
  rw [acts] at allowed ⊢
  refine serves_of_performs fluent rests all allowed last.flows fun other different => ?_
  by_cases own : other = connection.number
  · subst own
    exact rests_of_absent fluent known all gone
  · refine absurd ?_ different
    refine (congrFun same other).trans ((others other own).trans ?_)
    rw [tasks, tasksWith, if_neg own]

theorem serves_time (milliseconds : Nat) :
    busy.Serves max (busy.hub.actsFor (.time milliseconds)) := by
  let later : BusyHub :=
    { busy with hub := { busy.hub with clock := busy.hub.clock + milliseconds } }
  let late := busy.hub.connections.filter (Hub.isLate (busy.hub.clock + milliseconds))
  have passed : busy.Performs later [.pass milliseconds] :=
    .of_step (show Step.Succeeds (.pass milliseconds) from trivial) rfl rfl
  have apart : (late.map (·.number)).Nodup :=
    fluent.consistent.apart.sublist (List.filter_sublist.map _)
  have known : ∀ connection ∈ late,
      later.hub.connection? connection.number = some connection := fun connection inside =>
    Hub.connection?_of_mem fluent.consistent.apart (List.mem_filter.mp inside).1
  have may : ∀ connection ∈ late, later.mayLeave connection = true := fun connection inside => by
    simp only [mayLeave, later, (List.mem_filter.mp inside).2, Bool.true_or]
  rcases performs_leavings apart known may with ⟨after, left, tasks⟩
  exact serves_of_same fluent rests (passed.trans left)
    (busy.hub.allows_actsFor (.time milliseconds)) tasks

theorem serves_shutdown : busy.Serves max (busy.hub.actsFor .shutdown) := by
  let served := busy.hub.connections.filter fun connection => (Hub.servedFrame? connection).isSome
  have allowed := busy.hub.allows_actsFor .shutdown
  have apart : (served.map (·.number)).Nodup :=
    fluent.consistent.apart.sublist (List.filter_sublist.map _)
  have known : ∀ connection ∈ served,
      busy.hub.connection? connection.number = some connection := fun connection inside =>
    Hub.connection?_of_mem fluent.consistent.apart (List.mem_filter.mp inside).1
  have may : ∀ connection ∈ served, busy.mayLeave connection = true := fun connection inside => by
    simp only [mayLeave, (List.mem_filter.mp inside).2, Bool.or_true]
  rcases performs_leavings apart known may with ⟨after, left, tasks⟩
  have nobody : ∀ connection ∈ after.hub.connections, Hub.servedFrame? connection = none := by
    rw [left.hub]
    refine allowed ⟨(busy.hub.performAll (Hub.leavings served)).1, .stop⟩ ?_
    rw [Hub.actsFor, Hub.run_append]
    exact List.mem_append_right _ (List.mem_singleton_self _)
  have stopped : after.step .stop =
      ({ after with hub := { after.hub with stopping := true } }, []) := by
    have none : (after.hub.connections.any fun connection =>
        (Hub.servedFrame? connection).isSome) = false := by
      rw [List.any_eq_false]
      intro connection inside
      simp [nobody connection inside]
    simp only [BusyHub.step, none]
    rfl
  have stops : after.Performs { after with hub := { after.hub with stopping := true } } [.stop] :=
    .of_step (show Step.Succeeds .stop from trivial) stopped rfl
  exact serves_of_same fluent rests (left.trans stops) allowed tasks

end Serves

/-- What comes to a hub is done by steps with which no write fails. -/
theorem serves_actsFor
    (fluent : busy.Fluent max) (rests : ∀ number, busy.Rests number) (input : Hub.Input) :
    busy.Serves max (busy.hub.actsFor input) := by
  have allowed := busy.hub.allows_actsFor input
  cases input with
  | connection =>
      have accepts : Step.Succeeds .accept := trivial
      exact serves_of_same fluent rests (.of_step accepts rfl rfl) allowed rfl
  | bytes number now bytes =>
      cases known : busy.hub.connection? number with
      | none =>
          simp only [Hub.actsFor, known]
          exact ⟨busy, .refl busy, fluent, rests⟩
      | some connection =>
          exact serves_bytes fluent rests known now bytes
  | endOfStream number now =>
      cases known : busy.hub.connection? number with
      | none =>
          simp only [Hub.actsFor, known]
          exact ⟨busy, .refl busy, fluent, rests⟩
      | some connection =>
          exact serves_endOfStream fluent rests known now
  | time milliseconds =>
      exact serves_time fluent rests milliseconds
  | shutdown =>
      exact serves_shutdown fluent rests

theorem leads_takeAll
    (fluent : busy.Fluent max) (rests : ∀ number, busy.Rests number) (inputs : List Hub.Input) :
    ∃ after, busy.Leads after (busy.hub.takeAll inputs).2 ∧
      after.hub = (busy.hub.takeAll inputs).1 ∧ after.Fluent max ∧
      ∀ number, after.Rests number := by
  induction inputs generalizing busy with
  | nil =>
      exact ⟨busy, .refl busy, rfl, fluent, rests⟩
  | cons input more ih =>
      rcases serves_actsFor fluent rests input with ⟨next, performs, fluentThen, restsThen⟩
      rcases performs with ⟨leads, hub⟩
      rw [Hub.performAll_actsFor fluent.consistent.apart] at leads hub
      rcases ih fluentThen restsThen with ⟨after, later, last, others⟩
      rw [hub] at later last
      exact ⟨after, leads.trans later, last, others⟩

/--
A hub that runs what comes to it to its end is a busy hub with whose steps no write fails.  Whatever
comes, there are such steps that lead to the same hub and do the same on its connections, and they
leave nothing to do.
-/
theorem exists_run_eq_takeAll (limits : Limits) (max : Nat) (inputs : List Hub.Input) :
    ∃ steps, (∀ step ∈ steps, Step.Succeeds step) ∧
      let busy := ((start limits max).run steps).1
      busy.hub = ((Hub.start limits max).takeAll inputs).1 ∧
      ((start limits max).run steps).2 =
        ((Hub.start limits max).takeAll inputs).2.map Output.effect ∧
      ∀ number, busy.hub.connection? number ≠ none → busy.tasks number = ⟨[], true⟩ := by
  have fluent : (start limits max).Fluent max :=
    ⟨Hub.consistent_start limits max, List.nodup_nil, fun _ => rfl⟩
  rcases leads_takeAll fluent (fun _ => .inl rfl) inputs with
    ⟨after, ⟨steps, succeed, led⟩, hub, last, rests⟩
  refine ⟨steps, succeed, ?_⟩
  rw [led]
  refine ⟨hub, rfl, fun number there => ?_⟩
  have idle := (rests number).resolve_right fun gone => there gone.2
  have flows := last.flows number
  cases tasks : after.tasks number with
  | mk waiting forwards =>
      rw [tasks] at idle flows
      cases idle
      cases flows
      rfl

end BusyHub

end SessionBus
