import SessionBus.Proofs.Hub.Work

/-!
# What a busy hub hears

The lines of a connection are found by its reader and wait until they are heard, one after the
other.  None of them gets lost or out of order: what has been heard and what still waits are always
the lines of the bytes that have been read.  That ends only when an answer cannot be written; then
what waits is forgotten, and nothing is heard on the connection any more.
-/

namespace SessionBus.BusyHub

open Hub (Act)

variable {busy : BusyHub} {limits : Limits} {max number : Nat} {past : List Moment} {step : Step}
  {connection : Connection}

/-- An answer cannot be written to a connection. -/
def LosesAnswer (number : Nat) (effects : List Effect) : Prop :=
  ∃ message, .cut number message ∈ effects ∧ message.isDelivery = false

theorem LosesAnswer.later {effects : List Effect} (loses : LosesAnswer number effects)
    (more : List Effect) : LosesAnswer number (effects ++ more) := by
  rcases loses with ⟨message, inside, answer⟩
  exact ⟨message, List.mem_append_left more inside, answer⟩

/-- What a hub hears on a connection: all lines of its bytes, until an answer is lost there.  At the
end of the stream, but not if it is lost, a line that was left unfinished is one of them. -/
inductive Listens (busy : BusyHub) (max number : Nat) (past : List Moment) : Prop
  | all (last : List (Option Incoming))
      (ends : last = [] ∨ last = [none] ∨
        last = (reading max number past).2.finish.toList.map some ++ [none])
      (lines : (heard number past).map some ++ (busy.tasks number).waiting =
        (reading max number past).1.map some ++ last)
  | broken
      (lost : LosesAnswer number (told past))
      (waits : (busy.tasks number).waiting = [none])
      (lines : heard number past <+:
        (reading max number past).1 ++ (reading max number past).2.finish.toList)

/-- What begins like the lines and what is found behind them is some of the lines. -/
theorem prefix_of_lines
    {lines found : List Incoming} {rest last : List (Option Incoming)} {reader : LineReader}
    (ends : last = [] ∨ last = [none] ∨ last = reader.finish.toList.map some ++ [none])
    (all : lines.map some ++ rest = found.map some ++ last) :
    lines <+: found ++ reader.finish.toList := by
  have behind : last.filterMap id <+: reader.finish.toList := by
    rcases ends with rfl | rfl | rfl
    · exact List.nil_prefix
    · exact List.nil_prefix
    · simp
  have whole := congrArg (List.filterMap id) all
  simp only [List.filterMap_append, List.filterMap_map, Function.id_comp,
    List.filterMap_some] at whole
  have start : lines <+: found ++ last.filterMap id := whole ▸ List.prefix_append _ _
  exact start.trans ((List.prefix_append_right_inj _).mpr behind)

/-- As long as the stream has not ended, there is nothing behind the lines. -/
theorem Listens.lines_of_open
    (listens : busy.Listens max number past) (goesOn : busy.hasEnded number = false) :
    (heard number past).map some ++ (busy.tasks number).waiting =
      (reading max number past).1.map some := by
  have unended : none ∉ (busy.tasks number).waiting := by
    simpa [hasEnded] using goesOn
  cases listens with
  | broken lost waits lines =>
      simp [waits] at unended
  | all last ends lines =>
      have never : none ∉ last := by
        intro inside
        have found : none ∈ (heard number past).map some ++ (busy.tasks number).waiting :=
          lines ▸ List.mem_append_right _ inside
        simp [unended] at found
      rcases ends with rfl | rfl | rfl
      · rw [lines, List.append_nil]
      · simp at never
      · simp at never

/-- What is heard next is the next of the lines. -/
theorem Listens.next
    (listens : busy.Listens max number past) {incoming : Incoming} {rest : List (Option Incoming)}
    (waits : (busy.tasks number).waiting = some incoming :: rest) :
    ∃ last : List (Option Incoming),
      (last = [] ∨ last = [none] ∨
          last = (reading max number past).2.finish.toList.map some ++ [none]) ∧
        (heard number past ++ [incoming]).map some ++ rest =
          (reading max number past).1.map some ++ last := by
  cases listens with
  | broken lost waiting lines =>
      rw [waiting] at waits
      cases waits
  | all last ends lines =>
      refine ⟨last, ends, ?_⟩
      rw [← lines, waits]
      simp

/-- A step after which the same has been read and heard, and the same waits, changes nothing. -/
theorem Listens.same
    (listens : busy.Listens max number past)
    (acts : ∀ act ∈ busy.actsFor step, act.bytesOn number = [] ∧ act.heardOn number = none)
    (waits : ((busy.step step).1.tasks number).waiting = (busy.tasks number).waiting) :
    (busy.step step).1.Listens max number (past ++ [⟨busy, step⟩]) := by
  have noBytes : (busy.actsFor step).flatMap (Act.bytesOn number) = [] :=
    List.flatMap_eq_nil_iff.mpr fun act inside => (acts act inside).1
  have nothing : (busy.actsFor step).filterMap (Act.heardOn number) = [] :=
    List.filterMap_eq_nil_iff.mpr fun act inside => (acts act inside).2
  have read : reading max number (past ++ [⟨busy, step⟩]) = reading max number past := by
    rw [reading, received_concat, noBytes, List.append_nil]
    rfl
  have lines : heard number (past ++ [⟨busy, step⟩]) = heard number past := by
    rw [heard_concat, nothing, List.append_nil]
  cases listens with
  | all last ends all =>
      refine .all last ?_ ?_
      · rw [read]
        exact ends
      · rw [lines, read, waits]
        exact all
  | broken lost waiting within =>
      refine .broken ?_ (waits.trans waiting) ?_
      · rw [told_concat]
        exact lost.later _
      · rw [lines, read]
        exact within

/-- The reader of a connection has read what came on it. -/
theorem Reached.reader_eq
    (reached : Reached limits max past busy)
    (known : busy.hub.connection? number = some connection) :
    connection.reader = (reading max number past).2 := by
  rcases reached.shadowed with ⟨shadows, hub, shadowed⟩
  have attends := shadowed.reached.attends number
  rw [reading, ← shadowed.received_eq]
  exact attends.reader connection ((shadowed.connection?_eq number).trans known)

/-- A handshake whose answer is cut off hears one line, as any other line does. -/
theorem hears_of_breaks
    {now : Instant} {incoming : Incoming}
    (acts : busy.actsFor step = .hear number now incoming ::
      if (Hub.servedFrame? connection).isSome then [] else [.leave number]) :
    busy.actsFor step = [.hear number now incoming] ∨
      busy.actsFor step = [.hear number now incoming, .leave number] := by
  rw [acts]
  split
  · exact .inl rfl
  · exact .inr rfl

/-- Hearing something reads no bytes. -/
theorem reading_of_hears
    (max : Nat) (past : List Moment) {now : Instant} {incoming : Incoming}
    (acts : busy.actsFor step = [.hear number now incoming] ∨
      busy.actsFor step = [.hear number now incoming, .leave number]) :
    reading max number (past ++ [⟨busy, step⟩]) = reading max number past := by
  rw [reading, received_concat]
  rcases acts with acts | acts <;> rw [acts] <;> simp [Act.bytesOn, reading]

theorem heard_of_hears
    (past : List Moment) {now : Instant} {incoming : Incoming}
    (acts : busy.actsFor step = [.hear number now incoming] ∨
      busy.actsFor step = [.hear number now incoming, .leave number]) :
    heard number (past ++ [⟨busy, step⟩]) = heard number past ++ [incoming] := by
  rw [heard_concat]
  rcases acts with acts | acts <;> rw [acts] <;> simp [Act.heardOn]

theorem Listens.take
    (listens : busy.Listens max number past) (reached : Reached limits max past busy)
    (step : Step) : (busy.step step).1.Listens max number (past ++ [⟨busy, step⟩]) := by
  by_cases own : step.number? = some number
  · cases work reached.consistent own with
    | idle nothing acts =>
        exact listens.same (by simp [acts]) (by rw [nothing])
    | leaves connection known reason acts tasks effects =>
        exact listens.same (by simp [acts, Act.bytesOn, Act.heardOn]) (by rw [tasks])
    | forwards connection frame packet written known serving going acts tasks effects =>
        exact listens.same (by simp [acts]) (by rw [tasks, tasksWith, if_pos rfl])
    | reads connection bytes known goesOn acts tasks silent =>
        have before := listens.lines_of_open goesOn
        have read : reading max number (past ++ [⟨busy, step⟩]) =
            ((reading max number past).1 ++ (connection.reader.feed bytes).1,
              (connection.reader.feed bytes).2) := by
          rw [reading, received_concat, acts, LineReader.feed_append, reached.reader_eq known]
          simp only [List.flatMap_singleton, Act.bytesOn, if_true]
          rfl
        have lines : heard number (past ++ [⟨busy, step⟩]) = heard number past := by
          rw [heard_concat, acts]
          exact List.append_nil _
        refine .all [] (.inl rfl) ?_
        rw [lines, read, tasks, tasksWith, if_pos rfl, ← List.append_assoc, before,
          List.map_append, List.append_nil]
    | ends connection last known goesOn left acts tasks hub silent =>
        have before := listens.lines_of_open goesOn
        have read : reading max number (past ++ [⟨busy, step⟩]) = reading max number past := by
          rw [reading, received_concat, acts, List.flatMap_nil, List.append_nil]
          rfl
        have lines : heard number (past ++ [⟨busy, step⟩]) = heard number past := by
          rw [heard_concat, acts]
          exact List.append_nil _
        refine .all (last.toList.map some ++ [none]) ?_ ?_
        · rw [read, ← reached.reader_eq known]
          rcases left with rfl | rfl
          · exact .inr (.inr rfl)
          · exact .inr (.inl rfl)
        · rw [lines, read, tasks, tasksWith, if_pos rfl, ← before]
          simp only [List.append_assoc]
    | answers connection now incoming rest known waits acts tasks effects =>
        have read := reading_of_hears max past (.inl acts)
        have lines := heard_of_hears past (.inl acts)
        rcases listens.next waits with ⟨last, ends, all⟩
        refine .all last (read ▸ ends) ?_
        rw [lines, read, tasks, tasksWith, if_pos rfl]
        exact all
    | breaks connection now incoming rest known waits said acts tasks effects =>
        have hears := hears_of_breaks acts
        have read := reading_of_hears max past hears
        have lines := heard_of_hears past hears
        rcases listens.next waits with ⟨last, ends, all⟩
        refine .broken ?_ (by rw [tasks, tasksWith, if_pos rfl]) ?_
        · rcases List.exists_mem_of_ne_nil _ said with ⟨message, inside⟩
          refine ⟨message, ?_, busy.isDelivery_answer connection now incoming message inside⟩
          rw [told_concat, effects]
          exact List.mem_append_right _ (List.mem_append_left _ (List.mem_map_of_mem inside))
        · rw [lines, read]
          exact prefix_of_lines ends all
  · have spared := spares reached.consistent own
    refine listens.same (fun act inside => ?_) (by rw [spared.tasks])
    exact Act.silent_of_number (spared.acts act inside)

/-- A busy hub hears the lines of each connection. -/
theorem Reached.listens
    (reached : Reached limits max past busy) (number : Nat) : busy.Listens max number past := by
  induction reached with
  | start =>
      exact .all [] (.inl rfl) rfl
  | step reached step ih =>
      exact ih.take reached step

end SessionBus.BusyHub
