import SessionBus.Proofs.Command.Probe

/-!
# The status of a hub among other frames

A probe recognises a hub if nothing comes between its identity and the answer to its ping.  The
command that asks for the status is a probe without any other frame; a packet of another frame may
make all the difference.
-/

namespace SessionBus.Command

open SessionBus.Hub (Act Moment Reached told heard)

namespace Daemon

variable {limits : Limits} {max number : Nat} {past : List Moment} {hub : Hub} {act : Act}
  {probing : Probing}

/-! ## The verdict -/

theorem verdict_accept (frame : FrameId) (lines : List String) :
    verdict (Line.ofHub (.accept frame) :: lines) =
      (answered lines[0]?).map fun _ => frame := by
  rw [verdict]
  simp only [List.getElem?_cons_zero, greeted_accept, List.getElem?_cons_succ, Fallible.ok_bind]
  cases answered lines[0]? <;> rfl

namespace Probed

/-- A probe that waits for the hub reads what the hub has told it first. -/
theorem greets
    (probed : Probed limits max number past hub .greeting) {frame : FrameId}
    {more : List HubMessage} (said : Output.messagesTo number (told past) = .accept frame :: more) :
    Probed limits max number past hub (.pinging frame) := by
  have found := finds number past 0 (.inl (by rw [said]; exact Nat.succ_pos _))
  rw [getElem?_linesTo, said, List.getElem?_cons_zero, Option.map_some] at found
  have read := probed.read rfl found
  simp only [Probing.take, greeted_accept] at read
  exact read

/-- A probe that waits for its answer reads the second message, whatever it is. -/
theorem pings
    {frame : FrameId} (probed : Probed limits max number past hub (.pinging frame))
    {first second : HubMessage} {more : List HubMessage}
    (said : Output.messagesTo number (told past) = first :: second :: more) :
    Probed limits max number past hub
      ((Probing.pinging frame).take (some (Line.ofHub second))) := by
  have found := finds number past 1 (.inl (by rw [said]; exact Nat.succ_lt_succ (Nat.succ_pos _)))
  rw [getElem?_linesTo, said, List.getElem?_cons_succ, List.getElem?_cons_zero,
    Option.map_some] at found
  exact probed.read rfl found

end Probed

/-- Packets in front of the answer keep the probe from its verdict. -/
theorem verdict_delivered (frame : FrameId) (packets : List Packet) (lines : List String) :
    verdict (Line.ofHub (.accept frame) ::
        (packets.map fun packet => Line.ofHub (.deliver packet)) ++
          Line.ofHub (.pong 1) :: lines) = .ok frame ↔ packets = [] := by
  rw [List.cons_append, verdict_accept]
  cases packets with
  | nil =>
      simp [answered_pong, Except.map]
  | cons packet packets =>
      simp only [List.map_cons, List.cons_append, List.getElem?_cons_zero]
      rcases answered_deliver packet with wrong | ⟨error, wrong⟩ <;> simp [wrong, Except.map]

/-- A verdict with a frame has two lines. -/
theorem two_lines_of_verdict {frame : FrameId} {lines : List String}
    (found : verdict lines = .ok frame) :
    ∃ first second more, lines = first :: second :: more ∧ greeted (some first) = .ok frame ∧
      answered (some second) = .ok () := by
  rw [verdict] at found
  cases lines with
  | nil =>
      cases found
  | cons first lines =>
      cases made : greeted (some first) with
      | error fault =>
          simp only [List.getElem?_cons_zero, made] at found
          cases found
      | ok other =>
          simp only [List.getElem?_cons_zero, List.getElem?_cons_succ, made,
            Fallible.ok_bind] at found
          cases lines with
          | nil =>
              cases found
          | cons second more =>
              rw [List.getElem?_cons_zero] at found
              cases answer : answered (some second) with
              | error fault =>
                  rw [answer] at found
                  cases found
              | ok _ =>
                  rw [answer] at found
                  cases found
                  exact ⟨first, second, more, rfl, made, answer⟩

/-- The verdict is a frame if the hub tells the probe its identity and the answer to its ping, with
nothing in between. -/
theorem Probed.verdict_eq_ok
    (probed : Probed limits max number past hub probing) (frame : FrameId) :
    verdict (linesTo number (told past)) = .ok frame ↔
      ∃ more, Output.messagesTo number (told past) = .accept frame :: .pong 1 :: more := by
  constructor
  · intro found
    rcases two_lines_of_verdict found with ⟨first, second, more, lines, greets, answers⟩
    rw [linesTo] at lines
    obtain ⟨one, rest, said, rfl, tail⟩ := List.map_eq_cons_iff.mp lines
    obtain ⟨two, messages, rfl, rfl, _⟩ := List.map_eq_cons_iff.mp tail
    cases probed.reached.dialogue number with
    | silent _ written =>
        cases said.symm.trans written
    | refused _ _ _ written =>
        rw [said] at written
        rcases written with ⟨nothing, _⟩ | ⟨_, single | single⟩
        · cases nothing
        · cases single
        · cases single
    | served _ _ _ other _ _ _ written =>
        cases said.symm.trans written
        cases (greeted_accept other).symm.trans greets
        rcases probed.second said with rfl | ⟨packet, rfl⟩
        · exact ⟨messages, said⟩
        · rcases answered_deliver packet with wrong | ⟨error, wrong⟩
          · cases answers.symm.trans wrong
          · cases answers.symm.trans wrong
  · rintro ⟨more, said⟩
    rw [linesTo, said, List.map_cons, verdict_accept, List.map_cons, List.getElem?_cons_zero,
      answered_pong]
    rfl

/-! ## The command among them -/

namespace Probed

/-- Any acts that hear no more than the probe has written. -/
theorem performAll
    (probed : Probed limits max number past hub probing) {acts : List Act}
    (allowed : ∀ moment ∈ hub.run acts, moment.before.Allows moment.act)
    (within : heard number (past ++ hub.run acts) <+: spoken max probing) :
    Probed limits max number (past ++ hub.run acts) (hub.performAll acts).1 probing := by
  induction acts generalizing past hub with
  | nil =>
      rw [Hub.run, List.append_nil]
      exact probed
  | cons act rest ih =>
      rw [Hub.run, List.forall_mem_cons] at allowed
      rw [Hub.run, List.append_cons] at within ⊢
      refine ih (probed.act act allowed.1 ?_) allowed.2 within
      rw [Hub.heard_append] at within
      exact (List.prefix_append _ _).trans within

/-- The hub takes the next line of the probe. -/
theorem takesLine
    (probed : Probed limits max number past hub probing)
    (rested : (Hub.reading max number past).2 = .start max) {request : SessionBus.Request}
    (next : heard number past ++
      [LineReader.seen max (FrameMessage.ofRequest request).toJson] <+: spoken max probing)
    (now : Instant) :
    let taken := hub.receive number now (Line.ofFrame (.ofRequest request)).toUTF8.toList
    ∃ moments, told moments = taken.2 ∧
      Probed limits max number (past ++ moments) taken.1 probing ∧
        (Hub.reading max number (past ++ moments)).2 = .start max ∧
          (.close number ∈ told (past ++ moments) ∨
            heard number (past ++ moments) = heard number past ++
              [LineReader.seen max (FrameMessage.ofRequest request).toJson]) := by
  intro taken
  let message := FrameMessage.ofRequest request
  let bytes := (Line.ofFrame message).toUTF8.toList
  have fed : (LineReader.start max).feed bytes =
      ([LineReader.seen max message.toJson], .start max) :=
    LineReader.feed_line _ max
  by_cases closed : .close number ∈ told past
  · have nothing : taken = (hub, []) := (Hub.take_of_closed probed.reached closed now bytes).1
    refine ⟨[], ?_, ?_⟩
    · rw [nothing]
      rfl
    · rw [List.append_nil, nothing]
      exact ⟨probed, rested, .inl closed⟩
  · rcases probed.connected closed with ⟨connection, known⟩
    have consistent := probed.reached.consistent
    have performed := Hub.performAll_actsFor consistent.apart (.bytes number now bytes)
    have reader := (probed.reached.attends number).reader connection known
    rcases Hub.heard_bytes consistent known now bytes with ⟨came, lines⟩
    rw [reader, rested, fed] at lines
    have few : heard number (hub.run (hub.actsFor (.bytes number now bytes))) <+:
        [LineReader.seen max message.toJson] := by
      rcases lines with all | ⟨some, _⟩
      · exact all ▸ List.prefix_rfl
      · exact some
    refine ⟨hub.run (hub.actsFor (.bytes number now bytes)), ?_, ?_, ?_, ?_⟩
    · rw [Hub.told_run, performed]
      rfl
    · have later := probed.performAll (hub.allows_actsFor (.bytes number now bytes)) (by
        rw [Hub.heard_append]
        exact ((List.prefix_append_right_inj _).mpr few).trans next)
      rw [performed] at later
      exact later
    · rw [Hub.reading, Hub.received_append, came, LineReader.feed_append]
      have before : ((LineReader.start max).feed (Hub.received number past)).2 = .start max :=
        rested
      rw [before, fed]
    · rcases lines with all | ⟨_, ended⟩
      · right
        rw [Hub.heard_append, all]
      · left
        rw [Hub.told_append]
        exact List.mem_append_right _ ended.close_mem

/-- What is said to a probe follows what is heard of it. -/
theorem heard_ne_nil
    (probed : Probed limits max number past hub probing)
    (said : Output.messagesTo number (told past) ≠ []) : heard number past ≠ [] := by
  cases probed.reached.dialogue number with
  | silent _ written =>
      exact absurd written said
  | refused _ lines | served _ _ _ _ _ lines =>
      rw [lines]
      exact List.cons_ne_nil _ _

/-- A probe to which something is said before its ping has been heard with its greeting. -/
theorem heard_eq_greeting
    (probed : Probed limits max number past hub .greeting)
    (said : Output.messagesTo number (told past) ≠ []) :
    heard number past = spoken max .greeting := by
  have within := probed.within
  cases lines : heard number past with
  | nil =>
      exact absurd lines (probed.heard_ne_nil said)
  | cons line others =>
      rw [lines, spoken, Probing.requests, List.map_singleton, List.cons_prefix_cons,
        List.prefix_nil] at within
      rw [within.1, within.2]
      rfl

/-- A probe whose greeting has been heard comes to its end when the hub takes the ping. -/
theorem takesPing
    {frame : FrameId} (probed : Probed limits max number past hub (.pinging frame))
    (rested : (Hub.reading max number past).2 = .start max)
    (lines : heard number past = spoken max .greeting) (now : Instant) :
    let taken := hub.receive number now ping.toUTF8.toList
    ∃ moments after, told moments = taken.2 ∧
      Probed limits max number (past ++ moments) taken.1 after ∧
        after.result? = some (verdict (linesTo number (told (past ++ moments)))) := by
  intro taken
  rcases probed.takesLine rested (by rw [lines]; exact List.prefix_rfl) now with
    ⟨moments, written, later, _, heardPing⟩
  have final := later.read rfl (later.finds_of_heard 1 (Nat.le_refl 1)
    (heardPing.imp_right fun both => by
      rw [both, lines]
      exact Nat.one_lt_two))
  rcases Probing.result?_take_pinging frame (linesTo number (told (past ++ moments)))[1]? with
    ⟨result, ended⟩
  rw [final.judges.verdict_eq ended] at ended
  exact ⟨moments, _, written, final, ended⟩

/-- A probe that has not been told its identity is left alone. -/
theorem closed_of_refused
    {fault : ProbeFault} (probed : Probed limits max number past hub (.refused fault)) :
    .close number ∈ told past := by
  rcases probed.judges with ⟨line, ⟨here, ended⟩, made⟩
  cases probed.reached.dialogue number with
  | silent _ written =>
      rw [getElem?_linesTo, written] at here
      exact ended here.symm
  | refused _ _ closed =>
      exact closed
  | served _ _ _ frame _ _ _ written =>
      rw [getElem?_linesTo, written] at here
      rw [← here] at made
      cases (greeted_accept frame).symm.trans made

end Probed

/-- Nothing is written on a connection that comes next. -/
theorem linesTo_next
    (reached : Reached limits max past hub) (moments : List Moment) :
    linesTo hub.nextNumber (told (past ++ [⟨hub, .accept⟩] ++ moments)) =
      linesTo hub.nextNumber (told moments) := by
  have quiet : Output.messagesTo hub.nextNumber (told past) = [] := by
    cases reached.standing hub.nextNumber with
    | unborn _ _ quiet | greeting _ _ _ quiet =>
        exact Output.messagesTo_eq_nil quiet
    | serving _ next | gone next =>
        exact absurd next (Nat.lt_irrefl _)
  rw [linesTo, Hub.told_append, Hub.told_concat, Output.messagesTo_append,
    Output.messagesTo_append, quiet]
  rfl

/-- The command that asks a running hub is a probe without anything else in between. -/
theorem probe_probed
    (reached : Reached limits max past hub) (running : hub.stopping = false) (now : Instant) :
    ∃ moments after probing, Probed limits max hub.nextNumber (past ++ moments) after probing ∧
      probing.result? = some (probe hub now).1 := by
  let number := hub.nextNumber
  let one := hub.accept.2.receive number now greeting.toUTF8.toList
  let two := one.1.receive number now ping.toUTF8.toList
  have accepted : hub.accept = (some number, hub.accept.2) := by
    simp [Hub.accept, running, number]
  have result : (probe hub now).1 = verdict (linesTo number (one.2 ++ two.2)) := by
    rw [probe, accepted]
  have unborn := (reached.attends number).unborn (Nat.lt_irrefl _)
  have comes : Probed limits max number (past ++ [⟨hub, .accept⟩]) hub.accept.2 .greeting :=
    .connect reached running rfl
  have silent : heard number (past ++ [⟨hub, .accept⟩]) = [] := by
    rw [Hub.heard_concat, unborn.2]
    rfl
  have rested : (Hub.reading max number (past ++ [⟨hub, .accept⟩])).2 = .start max := by
    rw [Hub.reading, Hub.received_concat, unborn.1]
    rfl
  rcases comes.takesLine rested (by rw [silent]; exact List.prefix_rfl) now with
    ⟨first, firstTold, greets, restedToo, heardFirst⟩
  have read := greets.read rfl (greets.finds_of_heard 0 (Nat.zero_le 1)
    (heardFirst.imp_right fun lines => by
      rw [lines, silent]
      exact Nat.one_pos))
  cases made : greeted (linesTo number (told (past ++ [⟨hub, .accept⟩] ++ first)))[0]? with
  | error fault =>
      simp only [Probing.take, made] at read
      have nothing : two = (one.1, []) :=
        (Hub.take_of_closed read.reached read.closed_of_refused now _).1
      refine ⟨[⟨hub, .accept⟩] ++ first, one.1, .refused fault, ?_, ?_⟩
      · rw [← List.append_assoc]
        exact read
      · have judged := read.judges.verdict_eq rfl
        rw [linesTo_next reached, firstTold] at judged
        rw [result, nothing, List.append_nil]
        exact congrArg some judged
  | ok frame =>
      simp only [Probing.take, made] at read
      have said : Output.messagesTo number (told (past ++ [⟨hub, .accept⟩] ++ first)) ≠ [] := by
        intro none
        rw [getElem?_linesTo, none] at made
        cases made
      rcases read.takesPing restedToo (greets.heard_eq_greeting said) now with
        ⟨second, after, secondTold, final, ended⟩
      have written := linesTo_next reached (first ++ second)
      rw [← List.append_assoc, Hub.told_append first, firstTold, secondTold] at written
      rw [written] at ended
      refine ⟨[⟨hub, .accept⟩] ++ (first ++ second), two.1, after, ?_,
        ended.trans (congrArg some result.symm)⟩
      rw [← List.append_assoc, ← List.append_assoc]
      exact final

/-! ## Other frames -/

/--
Whatever other frames do, and whenever the hub comes to what the probe has written: a hub that runs
and has room tells the probe its identity if it takes a line as long as the greeting, and closes the
connection if not.  The probe comes to an end without waiting for anything but that the hub hears
its lines.  It has recognised a hub if the first two messages to it are its identity and the answer
to its ping.  With a packet between them it has not; of all sequences with packets in front of the
answer, it recognises the hub only by the one without packets.
-/
theorem recognised_unless_disturbed (probed : Probed limits max number past hub probing) :
    (heard number past = [] → .close number ∉ told past → hub.stopping = false →
      ∀ board, hub.exchange.board = some board → ∀ frame, board.register.reply = .ok frame →
        ∀ now, (hub.perform (.hear number now (LineReader.seen max hello.toJson))).2 =
          if hello.toJson.compact.utf8ByteSize ≤ max then [.write number (.accept frame)]
          else [.close number]) ∧
      (∃ acts after, (∀ act ∈ acts, ∃ now incoming, act = .hear number now incoming) ∧
        Probed limits max number (past ++ hub.run acts) (hub.performAll acts).1 after ∧
          after.result?.isSome = true) ∧
      (∀ result, probing.result? = some result →
        (∀ frame, result = .ok frame ↔
          ∃ more, Output.messagesTo number (told past) = .accept frame :: .pong 1 :: more) ∧
        ∀ frame packet more,
          Output.messagesTo number (told past) = .accept frame :: .deliver packet :: more →
            result = .error .unexpectedPong ∨ ∃ error, result = .error (.unreadable error)) ∧
      ∀ frame packets lines,
        verdict (Line.ofHub (.accept frame) ::
            (packets.map fun packet => Line.ofHub (.deliver packet)) ++
              Line.ofHub (.pong 1) :: lines) = .ok frame ↔ packets = [] := by
  refine ⟨fun unheard goesOn running board runs frame room now =>
    probed.takenIn unheard goesOn running runs room now, probed.ends, ?_, verdict_delivered⟩
  intro result ended
  have judged := probed.judges.verdict_eq ended
  constructor
  · intro frame
    rw [judged]
    exact probed.verdict_eq_ok frame
  · intro frame packet more said
    rw [judged, linesTo, said, List.map_cons, verdict_accept, List.map_cons,
      List.getElem?_cons_zero]
    rcases answered_deliver packet with wrong | ⟨error, wrong⟩
    · rw [wrong]
      exact .inl rfl
    · rw [wrong]
      exact .inr ⟨error, rfl⟩

/-- A hub at its start. -/
def idle : Hub :=
  .start {} Line.maxSize

/-- What a hub hears of the greeting and of the ping of a probe, if it takes lines of any usual
size. -/
def heardHello (number : Nat) : Act :=
  .hear number .epoch (LineReader.seen Line.maxSize hello.toJson)

def heardQuestion (number : Nat) : Act :=
  .hear number .epoch (LineReader.seen Line.maxSize question.toJson)

/-- Without other frames, a probe recognises a hub. -/
theorem lone_probe_recognises :
    ∃ past hub, Probed {} Line.maxSize 0 past hub (.recognised ⟨1⟩) ∧
      ∃ more, Output.messagesTo 0 (told past) = .accept ⟨1⟩ :: .pong 1 :: more := by
  let taken := (idle.perform .accept).1
  have comes : Probed {} Line.maxSize 0 [⟨idle, .accept⟩] taken .greeting :=
    .connect .start rfl rfl
  -- The hub has not heard the greeting, runs and has room.
  have accepted := (recognised_unless_disturbed comes).1 rfl (by decide) rfl _ rfl ⟨1⟩ rfl .epoch
  rw [if_pos (by decide +kernel)] at accepted
  have greeted := comes.act (heardHello 0)
    (Option.isSome_iff_exists.mp (by decide +kernel)) List.prefix_rfl
  have pinging := (greeted.greets (by
    rw [Hub.messagesTo_concat, heardHello, accepted]
    rfl)).act (heardQuestion 0) (Option.isSome_iff_exists.mp (by decide +kernel)) List.prefix_rfl
  have said : Output.messagesTo 0 (told ([⟨idle, .accept⟩] ++ [⟨taken, heardHello 0⟩] ++
      [⟨(taken.perform (heardHello 0)).1, heardQuestion 0⟩])) = [.accept ⟨1⟩, .pong 1] := by
    decide +kernel
  have final := pinging.pings said
  simp only [Probing.take, answered_pong] at final
  exact ⟨_, _, final,
    (((recognised_unless_disturbed final).2.2.1 _ rfl).1 ⟨1⟩).mp rfl⟩

/-- A packet of another frame to all. -/
def word : Packet where
  topic := "t"
  data := Json.toValue .null
  sender := ⟨1⟩
  session := none
  destination := none

/-- Another frame connects before the probe. -/
def neighbour : List Act :=
  [.accept, heardHello 0]

/-- The hub delivers a packet of the other frame before it comes to the ping. -/
def disturbance : List Act :=
  [.hear 0 .epoch (LineReader.seen Line.maxSize
      (FrameMessage.ofRequest (.send .broadcast word)).toJson), .forward, heardQuestion 1]

/-- A hub that answers all lines of the probe counts as not running when another frame sends a packet
to all. -/
theorem packet_disturbs_probe :
    ∃ past hub, Probed {} Line.maxSize 1 past hub (.missed ⟨2⟩ .unexpectedPong) ∧
      hub.stopping = false ∧ hub.exchange.board.isSome = true ∧
        Output.messagesTo 1 (told past) = [.accept ⟨2⟩, .deliver word, .pong 1] := by
  let joined := (idle.performAll neighbour).1
  let waiting := (joined.perform .accept).1
  let taken := (waiting.perform (heardHello 1)).1
  have permitted : ∀ moment ∈ idle.run neighbour, moment.before.Allows moment.act := by
    refine List.forall_mem_cons.mpr ⟨trivial, List.forall_mem_cons.mpr ⟨?_, by simp [Hub.run]⟩⟩
    exact Option.isSome_iff_exists.mp (by decide +kernel)
  have first : Reached {} Line.maxSize (idle.run neighbour) joined :=
    Reached.start.performAll permitted
  have comes : Probed {} Line.maxSize 1 (idle.run neighbour ++ [⟨joined, .accept⟩]) waiting
      .greeting :=
    .connect first (by decide +kernel) (by decide +kernel)
  have greeted : Probed {} Line.maxSize 1 _ taken .greeting := comes.act (heardHello 1)
    (Option.isSome_iff_exists.mp (by decide +kernel)) List.prefix_rfl
  have accepted : Output.messagesTo 1 (told (idle.run neighbour ++ [⟨joined, .accept⟩] ++
      [⟨waiting, heardHello 1⟩])) = [.accept ⟨2⟩] := by
    decide +kernel
  have allowed : ∀ moment ∈ taken.run disturbance, moment.before.Allows moment.act := by
    refine List.forall_mem_cons.mpr ⟨?_, List.forall_mem_cons.mpr ⟨trivial,
      List.forall_mem_cons.mpr ⟨?_, by simp [Hub.run]⟩⟩⟩
    · exact Option.isSome_iff_exists.mp (by decide +kernel)
    · exact Option.isSome_iff_exists.mp (by decide +kernel)
  have pinging := (greeted.greets accepted).performAll allowed List.prefix_rfl
  have ended : (taken.performAll disturbance).1.stopping = false ∧
      Output.messagesTo 1 (told (idle.run neighbour ++ [⟨joined, .accept⟩] ++
        [⟨waiting, heardHello 1⟩] ++ taken.run disturbance)) =
          [.accept ⟨2⟩, .deliver word, .pong 1] := by
    decide +kernel
  have missed : answered (some (Line.ofHub (.deliver word))) = .error .unexpectedPong := by
    decide +kernel
  have final := pinging.pings ended.2
  simp only [Probing.take, missed] at final
  exact ⟨_, _, final, ended.1, final.reached.consistent.running, ended.2⟩

end Daemon

end SessionBus.Command
