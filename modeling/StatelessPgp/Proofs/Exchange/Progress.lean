import StatelessPgp.Proofs.Exchange.Soundness

/-!
# The pumps never get stuck

A program that is held up always has a pump that can move, and pumps that move on
their own run out of work.  Once all of them are at their ends, everything that the
program wrote has been delivered, and a program that stopped reading or ended early
has not made the run fail.
-/

namespace StatelessPgp

namespace Copy

/-- A bound on the steps that a copy takes when there is nothing more to read. -/
def backlog (copy : Copy) : Nat :=
  copy.held.length + if copy.ended then 1 else 2

theorem backlog_pos (copy : Copy) : 0 < copy.backlog := by
  rw [backlog]
  split <;> omega

theorem backlog_fill (copy : Copy) (data : Bytes) :
    (copy.fill data).backlog = copy.backlog + data.length := by
  rw [backlog, fill, List.length_append]
  exact Nat.add_right_comm _ _ _

theorem backlog_finish {copy : Copy} (room : 0 < copy.room) :
    copy.finish.backlog + 1 = copy.backlog := by
  simp [backlog, finish, ended_eq_false_of_room_pos room]

theorem backlog_drain {copy : Copy} {count : Nat} (there : count ≤ copy.held.length) :
    (copy.drain count).backlog + count = copy.backlog := by
  rw [backlog, drain, List.length_drop, Nat.add_right_comm, Nat.sub_add_cancel there]
  rfl

end Copy

/-- The work that is left to a pump. -/
def Pump.backlog {Work Result : Type} (weight : Work → Nat) : Pump Work Result → Nat
  | .working work => weight work
  | .finished _ | .failed _ => 0

namespace Exchange

variable {program : Program} {limit : Nat} {total : Bytes}
variable {exchange next : Exchange program}

/-- The work that is left to all pumps when the program does nothing more.  What still
has to go through a buffer counts twice. -/
def backlog (exchange : Exchange program) : Nat :=
  2 * exchange.payload.length + exchange.feeding.backlog Copy.backlog +
    (2 * exchange.output.contents.length + exchange.delivering.backlog Copy.backlog) +
    (exchange.report.contents.length + exchange.collecting.backlog fun _ => 1)

/-- All pumps are at their ends. -/
def AllFinished (exchange : Exchange program) : Prop :=
  (∃ count, exchange.feeding = .finished count) ∧
    (∃ count, exchange.delivering = .finished count) ∧
    ∃ kept, exchange.collecting = .finished kept

theorem FeedStep.backlog_lt (step : FeedStep exchange next) :
    next.backlog < exchange.backlog := by
  cases step with
  | @read copy working count positive there bounded =>
      have filled := copy.backlog_fill (exchange.payload.take count)
      rw [List.length_take_of_le there] at filled
      simp only [backlog, working, Pump.backlog, filled, List.length_drop]
      omega
  | readEnd working empty room =>
      have finished := Copy.backlog_finish room
      simp only [backlog, working, Pump.backlog]
      omega
  | write working readable count positive there enough =>
      have drained := Copy.backlog_drain there
      simp only [backlog, working, Pump.backlog]
      omega
  | @refused copy error working held refused =>
      obtain ⟨-, rfl⟩ := Pipe.verdict_eq_error refused
      have positive := copy.backlog_pos
      simp only [backlog, working, Pump.afterRefusal_brokenPipe, Pump.backlog]
      omega
  | @close copy working done =>
      have positive := copy.backlog_pos
      simp only [backlog, working, Pump.afterShutdown_verdict, Pump.backlog]
      omega

theorem DeliverStep.backlog_lt (step : DeliverStep exchange next) :
    next.backlog < exchange.backlog := by
  cases step with
  | @read copy working count positive there bounded =>
      have filled := copy.backlog_fill (exchange.output.contents.take count)
      rw [List.length_take_of_le there] at filled
      simp only [backlog, working, Pump.backlog, filled, Pipe.drop, List.length_drop]
      omega
  | readEnd working closed empty room =>
      have finished := Copy.backlog_finish room
      simp only [backlog, working, Pump.backlog]
      omega
  | write working count positive there =>
      have drained := Copy.backlog_drain there
      simp only [backlog, working, Pump.backlog]
      omega
  | @close copy working done =>
      have positive := copy.backlog_pos
      simp only [backlog, working, Pump.backlog]
      omega

theorem CollectStep.backlog_lt (step : CollectStep limit exchange next) :
    next.backlog < exchange.backlog := by
  cases step with
  | read working count positive there bounded =>
      simp only [backlog, working, Pump.backlog, Pipe.drop, List.length_drop]
      omega
  | readEnd working closed empty =>
      simp only [backlog, working, Pump.backlog]
      omega

/-- Every step of a pump leaves less work. -/
theorem PumpStep.backlog_lt (step : PumpStep limit exchange next) :
    next.backlog < exchange.backlog := by
  cases step with
  | feed step => exact step.backlog_lt
  | deliver step => exact step.backlog_lt
  | collect step => exact step.backlog_lt

/-- The feeding can go on when the pipe is empty or nobody reads from it. -/
theorem exists_feedStep {copy : Copy} (working : exchange.feeding = .working copy)
    (free : exchange.input.contents = [] ∨ exchange.input.readable = false) :
    ∃ next, FeedStep exchange next := by
  by_cases empty : copy.held = []
  · cases ended : copy.ended with
    | true => exact ⟨_, .close working (copy.isDone_iff.2 ⟨ended, empty⟩)⟩
    | false =>
        have room := Copy.room_of_empty empty ended
        by_cases left : exchange.payload = []
        · exact ⟨_, .readEnd working left (by rw [room]; decide)⟩
        · exact ⟨_, .read working 1 Nat.one_pos (List.length_pos_iff.2 left)
            (by rw [room]; decide)⟩
  · -- What is held is either refused or fits, for an empty pipe has room.
    cases readable : exchange.input.readable with
    | false =>
        exact ⟨_, .refused working empty (Pipe.verdict_of_unread readable)⟩
    | true =>
        have drained : exchange.input.contents = [] := by
          rcases free with drained | unread
          · exact drained
          · rw [readable] at unread
            cases unread
        have room := Pipe.room_pos_of_empty drained
        refine ⟨_, .write working readable 1 Nat.one_pos (List.length_pos_iff.2 empty) ?_⟩
        rw [List.length_take]
        omega

/-- The delivering can go on when the pipe holds something or has been closed. -/
theorem exists_deliverStep {copy : Copy} (working : exchange.delivering = .working copy)
    (free : exchange.output.contents ≠ [] ∨ exchange.output.writable = false) :
    ∃ next, DeliverStep exchange next := by
  by_cases empty : copy.held = []
  · cases ended : copy.ended with
    | true => exact ⟨_, .close working (copy.isDone_iff.2 ⟨ended, empty⟩)⟩
    | false =>
        have room := Copy.room_of_empty empty ended
        by_cases drained : exchange.output.contents = []
        · have closed : exchange.output.writable = false := free.resolve_left (· drained)
          exact ⟨_, .readEnd working closed drained (by rw [room]; decide)⟩
        · exact ⟨_, .read working 1 Nat.one_pos (List.length_pos_iff.2 drained)
            (by rw [room]; decide)⟩
  · exact ⟨_, .write working 1 Nat.one_pos (List.length_pos_iff.2 empty)⟩

/-- The collecting can go on when the pipe holds something or has been closed. -/
theorem exists_collectStep {kept : Bytes}
    (working : exchange.collecting = .working kept)
    (free : exchange.report.contents ≠ [] ∨ exchange.report.writable = false) :
    ∃ next, CollectStep limit exchange next := by
  by_cases drained : exchange.report.contents = []
  · have closed : exchange.report.writable = false := free.resolve_left (· drained)
    exact ⟨_, .readEnd working closed drained⟩
  · exact ⟨_, .read working 1 Nat.one_pos (List.length_pos_iff.2 drained) (by decide)⟩

/-- A pump can take a step while the program is held up: the pump at the other end of
the pipe. -/
theorem Sound.exists_pumpStep_of_blocked (sound : exchange.Sound limit total)
    (blocked : exchange.Blocked) : ∃ next, PumpStep limit exchange next := by
  cases blocked with
  | read running offered readable writable empty =>
      cases sound.feeding with
      | working copy working =>
          obtain ⟨next, step⟩ := exists_feedStep working (.inl empty)
          exact ⟨next, .feed step⟩
      | complete _ _ closed | refused _ _ closed =>
          rw [closed] at writable
          cases writable
  | @write state stream data next running offered writable full occupied =>
      cases stream with
      | output =>
          cases sound.delivering with
          | working copy working =>
              obtain ⟨next, step⟩ := exists_deliverStep working (.inl occupied)
              exact ⟨next, .deliver step⟩
          | complete _ closed empty => exact absurd empty occupied
      | report =>
          cases sound.collecting with
          | working working =>
              obtain ⟨next, step⟩ := exists_collectStep working (.inl occupied)
              exact ⟨next, .collect step⟩
          | complete _ closed empty => exact absurd empty occupied

/-- After the end of the program, the pumps come to their ends. -/
theorem Sound.finished_or_exists_pumpStep (sound : exchange.Sound limit total)
    {exit : Exit} (ended : exchange.child = .inr exit) :
    exchange.AllFinished ∨ ∃ next, PumpStep limit exchange next := by
  obtain ⟨unread, outputClosed, reportClosed⟩ := sound.ended exit ended
  have fed : (∃ count, exchange.feeding = .finished count) ∨
      ∃ next, FeedStep exchange next := by
    cases sound.feeding with
    | working copy working => exact .inr (exists_feedStep working (.inr unread))
    | complete count finished | refused count finished => exact .inl ⟨count, finished⟩
  have delivered : (∃ count, exchange.delivering = .finished count) ∨
      ∃ next, DeliverStep exchange next := by
    cases sound.delivering with
    | working copy working => exact .inr (exists_deliverStep working (.inr outputClosed))
    | complete finished => exact .inl ⟨_, finished⟩
  have collected : (∃ kept, exchange.collecting = .finished kept) ∨
      ∃ next, CollectStep limit exchange next := by
    cases sound.collecting with
    | working working => exact .inr (exists_collectStep working (.inr reportClosed))
    | complete finished => exact .inl ⟨_, finished⟩
  rcases fed with fed | ⟨next, step⟩
  · rcases delivered with delivered | ⟨next, step⟩
    · rcases collected with collected | ⟨next, step⟩
      · exact .inl ⟨fed, delivered, collected⟩
      · exact .inr ⟨next, .collect step⟩
    · exact .inr ⟨next, .deliver step⟩
  · exact .inr ⟨next, .feed step⟩

/-- A program that is ready to read or to write at an end it has not closed can do so,
or it is held up. -/
theorem exists_childStep_or_blocked {state : program.State}
    (running : exchange.child = .inl state) {action : Action program.State}
    (offered : program.offers state action)
    (opened : match action with
      | .read _ _ => exchange.input.readable = true
      | .write stream _ _ => (exchange.pipe stream).writable = true
      | _ => True) :
    (∃ next, ChildStep exchange next) ∨ exchange.Blocked := by
  cases action with
  | read more next =>
      by_cases empty : exchange.input.contents = []
      · cases writable : exchange.input.writable with
        | true => exact .inr (.read running offered opened writable empty)
        | false => exact .inl ⟨_, .readEnd running offered opened writable empty⟩
      · exact .inl ⟨_, .read running offered opened 1 Nat.one_pos (Nat.le_add_left 1 more)
          (List.length_pos_iff.2 empty)⟩
  | write stream data next =>
      by_cases fits : data.length ≤ (exchange.pipe stream).room
      · refine .inl ⟨_, .write running offered opened data.length ?_ ?_⟩
        · rw [List.length_pos_iff]
          exact (em (data = [])).symm
        · rwa [List.take_length]
      · by_cases drained : (exchange.pipe stream).contents = []
        · have room := Pipe.room_pos_of_empty drained
          refine .inl ⟨_, .write running offered opened 1 (.inl Nat.one_pos) ?_⟩
          rw [List.length_take]
          omega
        · exact .inr (.write running offered opened (Nat.lt_of_not_le fits) drained)
  | closeInput next => exact .inl ⟨_, .closeInput running offered⟩
  | close stream next => exact .inl ⟨_, .close running offered⟩
  | work next => exact .inl ⟨_, .work running offered⟩
  | finish exit => exact .inl ⟨_, .finish running offered⟩

/-- Where all pumps are at their ends, nothing has been lost. -/
theorem Sound.of_allFinished (sound : exchange.Sound limit total)
    (finished : exchange.AllFinished) :
    exchange.delivering = .finished exchange.trace.output.length ∧
      exchange.sink = exchange.trace.output ∧
      exchange.trace.input <+: total ∧
      (exchange.trace.sawEnd = true → exchange.trace.input = total) ∧
      exchange.collecting = .finished (exchange.trace.report.take limit) ∧
      exchange.trace.pieces.flatten = exchange.trace.report := by
  obtain ⟨⟨fed, isFed⟩, ⟨delivered, isDelivered⟩, ⟨kept, isKept⟩⟩ := finished
  have read : exchange.trace.input <+: total ∧
      (exchange.trace.sawEnd = true → exchange.trace.input = total) := by
    cases sound.feeding with
    | working copy working =>
        rw [working] at isFed
        cases isFed
    | complete count finished closed seen all =>
        refine ⟨⟨_, all⟩, ?_⟩
        intro saw
        rw [← all, seen saw, List.append_nil]
    | refused count finished closed unread unseen start =>
        refine ⟨start, ?_⟩
        intro saw
        rw [unseen] at saw
        cases saw
  have written : exchange.delivering = .finished exchange.trace.output.length ∧
      exchange.sink = exchange.trace.output := by
    cases sound.delivering with
    | working copy working =>
        rw [working] at isDelivered
        cases isDelivered
    | complete finished closed empty all => exact ⟨finished, all⟩
  have captured : exchange.collecting = .finished (exchange.trace.report.take limit) ∧
      exchange.trace.pieces.flatten = exchange.trace.report := by
    cases sound.collecting with
    | working working =>
        rw [working] at isKept
        cases isKept
    | complete finished closed empty all =>
        rw [foldl_keepPiece, all] at finished
        exact ⟨finished, all⟩
  exact ⟨written.1, written.2, read.1, read.2, captured.1, captured.2⟩

/-- No pump is stopped by an error. -/
theorem Sound.not_failed (sound : exchange.Sound limit total) (error : SystemError) :
    exchange.feeding ≠ .failed error ∧ exchange.delivering ≠ .failed error ∧
      exchange.collecting ≠ .failed error := by
  refine ⟨?_, ?_, ?_⟩ <;> intro failed
  · cases sound.feeding with
    | working _ other | complete _ other | refused _ other =>
        rw [failed] at other
        cases other
  · cases sound.delivering with
    | working _ other | complete other =>
        rw [failed] at other
        cases other
  · cases sound.collecting with
    | working other | complete other =>
        rw [failed] at other
        cases other

/-- A run never amounts to a failure. -/
theorem Sound.answer?_ne_error (sound : exchange.Sound limit total) (failure : Failure) :
    exchange.answer? ≠ some (.error failure) := by
  intro answered
  unfold answer? at answered
  split at answered
  · next error failed => exact (sound.not_failed error).1 failed
  · next error failed _ => exact (sound.not_failed error).2.1 failed
  · next error failed _ _ => exact (sound.not_failed error).2.2 failed
  · next => cases answered
  · next => cases answered

/-- What a run amounts to is found from what the program has done alone. -/
theorem Sound.answer?_eq {config : Config}
    (sound : exchange.Sound config.reportLimit total) (finished : exchange.AllFinished)
    {exit : Exit} (ended : exchange.child = .inr exit) (files : FileTree) :
    exchange.answer? = some (Conduct.outcome config
      ⟨exchange.trace.output, exchange.trace.pieces, files, some exit⟩) := by
  obtain ⟨delivered, -, -, -, captured, arrived⟩ := sound.of_allFinished finished
  obtain ⟨⟨fed, isFed⟩, -⟩ := finished
  have kept : keptReport config.reportLimit exchange.trace.pieces =
      Text.decodeLossy (exchange.trace.report.take config.reportLimit) := by
    rw [keptReport, foldl_keepPiece, arrived]
  simp only [answer?, isFed, delivered, captured, ended, Conduct.outcome, kept]

end Exchange

open Exchange in
/-- In every exchange that can be reached, a program that is held up has a pump that can
move, after its end the pumps can move until all are at their ends, and they only move
so often.  At their ends nothing has been lost or mixed up, the error output has been cut
at the limit, and the run amounts to what the program has done: it never fails. -/
theorem pumps_lose_nothing {program : Program} {config : Config}
    {payload : Option Bytes} {input output report : Capacity}
    {exchange : Exchange program}
    (reached : Reachable config.reportLimit (start program payload input output report)
      exchange) :
    (exchange.Blocked → ∃ next, PumpStep config.reportLimit exchange next) ∧
      (∀ exit, exchange.child = .inr exit →
        exchange.AllFinished ∨ ∃ next, PumpStep config.reportLimit exchange next) ∧
      (∀ next, PumpStep config.reportLimit exchange next →
        next.backlog < exchange.backlog) ∧
      (exchange.AllFinished →
        exchange.sink = exchange.trace.output ∧
          exchange.delivering = .finished exchange.trace.output.length ∧
          exchange.trace.input <+: payload.getD [] ∧
          (exchange.trace.sawEnd = true → exchange.trace.input = payload.getD []) ∧
          exchange.collecting =
            .finished (exchange.trace.report.take config.reportLimit)) ∧
      (∀ error, exchange.feeding ≠ .failed error ∧ exchange.delivering ≠ .failed error ∧
        exchange.collecting ≠ .failed error) ∧
      (∀ failure, exchange.answer? ≠ some (.error failure)) ∧
      ∀ exit files, exchange.AllFinished → exchange.child = .inr exit →
        exchange.answer? = some (Conduct.outcome config
          ⟨exchange.trace.output, exchange.trace.pieces, files, some exit⟩) := by
  have sound := reached.sound
  refine ⟨sound.exists_pumpStep_of_blocked, ?_, ?_, ?_, sound.not_failed,
    sound.answer?_ne_error, ?_⟩
  · intro exit ended
    exact sound.finished_or_exists_pumpStep ended
  · intro next step
    exact step.backlog_lt
  · intro finished
    obtain ⟨delivered, same, start, whole, captured, -⟩ := sound.of_allFinished finished
    exact ⟨same, delivered, start, whole, captured⟩
  · intro exit files finished ended
    exact sound.answer?_eq finished ended files

/-- A program that closes its input unread, writes one byte and ends. -/
def Program.earlyCloser : Program where
  State := Nat
  start := 0
  offers
    | 0, action => action = .closeInput 1
    | 1, action => action = .write .output [65] fun _ => 2
    | _, action => action = .finish (.status 0)

open Exchange in
theorem pumps_lose_nothing_to_earlyCloser :
    let config := Config.new (Path.ofText "sop")
    let first := start Program.earlyCloser (some [1, 2]) ⟨1, Nat.one_pos⟩
      ⟨1, Nat.one_pos⟩ ⟨1, Nat.one_pos⟩
    ∃ exchange : Exchange Program.earlyCloser,
      Reachable config.reportLimit first exchange ∧ exchange.AllFinished ∧
      exchange.child = .inr (.status 0) ∧ exchange.sink = [65] ∧
      exchange.trace.input <+: [1, 2] ∧
      exchange.answer? = some (.ok ⟨.status 0, keptReport config.reportLimit [], 1⟩) := by
  intro config first
  have closed := Relation.ReflTransGen.single (.child (.closeInput rfl rfl) :
    Step config.reportLimit first _)
  have refused := (closed.tail (.pump (.feed (.read rfl 2 (by decide) (by decide)
    (by decide))))).tail (.pump (.feed (.refused rfl (by decide) rfl)))
  have writes : Program.earlyCloser.offers (1 : Nat)
    (.write .output [65] fun _ => (2 : Nat)) := rfl
  have ends : Program.earlyCloser.offers (2 : Nat) (.finish (.status 0)) := rfl
  have ended := (refused.tail (.child (.write rfl writes rfl 1 (.inl (by decide))
    (by decide)))).tail (.child (.finish rfl ends))
  have delivered := (((ended.tail (.pump (.deliver (.read rfl 1 (by decide) (by decide)
    (by decide))))).tail (.pump (.deliver (.readEnd rfl rfl rfl (by decide))))).tail
      (.pump (.deliver (.write rfl 1 (by decide) (by decide))))).tail
        (.pump (.deliver (.close rfl rfl)))
  have reached := delivered.tail (.pump (.collect (.readEnd rfl rfl rfl)))
  have kept := pumps_lose_nothing reached
  obtain ⟨same, -, start, -⟩ := kept.2.2.2.1 ⟨⟨0, rfl⟩, ⟨1, rfl⟩, ⟨[], rfl⟩⟩
  have answered := kept.2.2.2.2.2.2 (.status 0) .empty
    ⟨⟨0, rfl⟩, ⟨1, rfl⟩, ⟨[], rfl⟩⟩ rfl
  exact ⟨_, reached, ⟨⟨0, rfl⟩, ⟨1, rfl⟩, ⟨[], rfl⟩⟩, rfl, same, start,
    answered⟩

end StatelessPgp
