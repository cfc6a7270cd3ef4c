import Mathlib.Data.List.Induction
import StatelessPgp.Backend.Exchange

/-!
# What the pumps keep

For every pump, the bytes at both of its ends and those in its buffer together are
always all the bytes there have been, in order.  The conditions on the three pumps
speak of separate parts of an exchange, so a step of one pump is harmless to the
others.
-/

namespace StatelessPgp

/-- Keeping one more piece is keeping the start of all that has arrived. -/
theorem keepPiece_take (limit : Nat) (arrived piece : Bytes) :
    keepPiece limit (arrived.take limit) piece = (arrived ++ piece).take limit := by
  rw [keepPiece, List.take_append, List.length_take]
  rcases Nat.le_total limit arrived.length with longer | shorter
  · simp [longer]
  · rw [Nat.min_eq_right shorter]

/-- Keeping piece after piece is keeping the start of their concatenation. -/
theorem foldl_keepPiece (limit : Nat) (pieces : List Bytes) :
    pieces.foldl (keepPiece limit) [] = pieces.flatten.take limit := by
  induction pieces using List.reverseRecOn with
  | nil => simp
  | append_singleton pieces piece hypothesis =>
      rw [List.foldl_append, hypothesis, List.foldl_cons, List.foldl_nil,
        keepPiece_take, List.flatten_append, List.flatten_singleton]

/-- The feeding is sound: a pump at work has the rest of the payload, and one at its
end has handed over everything or has met a program that stopped reading. -/
inductive FeedSound (total payload : Bytes) (input : Pipe) (read : Bytes)
    (sawEnd : Bool) (pump : Pump Copy Nat) : Prop where
  | working (copy : Copy) (isWorking : pump = .working copy)
      (writable : input.writable = true) (unseen : sawEnd = false)
      (ended : copy.ended = true → payload = [])
      (all : read ++ (input.contents ++ (copy.held ++ payload)) = total)
  | complete (count : Nat) (isFinished : pump = .finished count)
      (closed : input.writable = false) (seen : sawEnd = true → input.contents = [])
      (all : read ++ input.contents = total)
  | refused (count : Nat) (isFinished : pump = .finished count)
      (closed : input.writable = false) (unread : input.readable = false)
      (unseen : sawEnd = false) (start : read <+: total)

/-- The delivering is sound: what is in the sink, the buffer and the pipe is what the
program wrote. -/
inductive DeliverSound (output : Pipe) (sink written : Bytes) (pump : Pump Copy Nat) :
    Prop where
  | working (copy : Copy) (isWorking : pump = .working copy)
      (counted : copy.count = sink.length)
      (ended : copy.ended = true → output.writable = false ∧ output.contents = [])
      (all : sink ++ (copy.held ++ output.contents) = written)
  | complete (isFinished : pump = .finished written.length)
      (closed : output.writable = false) (empty : output.contents = [])
      (all : sink = written)

/-- The collecting is sound: what has arrived and what is in the pipe is what the
program wrote, and the start of what has arrived is kept. -/
inductive CollectSound (limit : Nat) (report : Pipe) (pieces : List Bytes)
    (written : Bytes) (pump : Pump Bytes Bytes) : Prop where
  | working (isWorking : pump = .working (pieces.foldl (keepPiece limit) []))
      (all : pieces.flatten ++ report.contents = written)
  | complete (isFinished : pump = .finished (pieces.foldl (keepPiece limit) []))
      (closed : report.writable = false) (empty : report.contents = [])
      (all : pieces.flatten = written)

namespace Exchange

variable {program : Program} {limit : Nat} {total : Bytes}
variable {exchange next : Exchange program}

/-- All pumps are sound, and a program that has ended has closed its ends. -/
structure Sound (limit : Nat) (total : Bytes) (exchange : Exchange program) : Prop where
  feeding : FeedSound total exchange.payload exchange.input exchange.trace.input
    exchange.trace.sawEnd exchange.feeding
  delivering : DeliverSound exchange.output exchange.sink exchange.trace.output
    exchange.delivering
  collecting : CollectSound limit exchange.report exchange.trace.pieces
    exchange.trace.report exchange.collecting
  ended : ∀ exit, exchange.child = .inr exit → exchange.input.readable = false ∧
    exchange.output.writable = false ∧ exchange.report.writable = false

theorem sound_start (program : Program) (limit : Nat) (payload : Option Bytes)
    (input output report : Capacity) :
    (start program payload input output report).Sound limit (payload.getD []) where
  feeding := by
    cases payload with
    | none => exact .complete 0 rfl rfl (fun _ => rfl) rfl
    | some payload => exact .working .start rfl rfl rfl (by intro ended; cases ended) rfl
  delivering := .working .start rfl rfl (by intro ended; cases ended) rfl
  collecting := .working rfl rfl
  ended := by
    intro exit isEnded
    cases isEnded

end Exchange

namespace FeedSound

variable {total payload read : Bytes} {input : Pipe} {sawEnd : Bool}
variable {pump : Pump Copy Nat}

theorem childReads (sound : FeedSound total payload input read sawEnd pump)
    (readable : input.readable = true) (count : Nat) :
    FeedSound total payload (input.drop count) (read ++ input.contents.take count)
      sawEnd pump := by
  cases sound with
  | working copy isWorking writable unseen ended all =>
      refine .working copy isWorking writable unseen ended ?_
      rw [← all, List.append_assoc, ← List.append_assoc (input.contents.take count)]
      exact congrArg (fun contents => read ++ (contents ++ _))
        (List.take_append_drop count input.contents)
  | complete result isFinished closed seen all =>
      refine .complete result isFinished closed ?_ ?_
      · intro saw
        simp [Pipe.drop, seen saw]
      · rw [← all, List.append_assoc]
        exact congrArg (read ++ ·) (List.take_append_drop count input.contents)
  | refused result isFinished closed unread unseen start =>
      rw [unread] at readable
      cases readable

theorem childReadsEnd (sound : FeedSound total payload input read sawEnd pump)
    (readable : input.readable = true) (closed : input.writable = false)
    (empty : input.contents = []) :
    FeedSound total payload input read true pump := by
  cases sound with
  | working copy isWorking writable unseen ended all =>
      rw [closed] at writable
      cases writable
  | complete result isFinished closed seen all =>
      exact .complete result isFinished closed (fun _ => empty) all
  | refused result isFinished closed unread unseen start =>
      rw [unread] at readable
      cases readable

theorem childClosesInput (sound : FeedSound total payload input read sawEnd pump) :
    FeedSound total payload input.closeReader read sawEnd pump := by
  cases sound with
  | working copy isWorking writable unseen ended all =>
      exact .working copy isWorking writable unseen ended all
  | complete result isFinished closed seen all =>
      exact .complete result isFinished closed seen all
  | refused result isFinished closed unread unseen start =>
      exact .refused result isFinished closed rfl unseen start

/-- What is known of a pump at work. -/
theorem of_working {copy : Copy}
    (sound : FeedSound total payload input read sawEnd pump)
    (isWorking : pump = .working copy) :
    input.writable = true ∧ sawEnd = false ∧ (copy.ended = true → payload = []) ∧
      read ++ (input.contents ++ (copy.held ++ payload)) = total := by
  subst isWorking
  cases sound with
  | working copy' isWorking writable unseen ended all =>
      cases isWorking
      exact ⟨writable, unseen, ended, all⟩
  | complete result isFinished => cases isFinished
  | refused result isFinished => cases isFinished

end FeedSound

namespace DeliverSound

variable {output : Pipe} {sink written : Bytes} {pump : Pump Copy Nat}

theorem childWrites (sound : DeliverSound output sink written pump)
    (writable : output.writable = true) {data : Bytes}
    (enough : data.length ≤ output.room) :
    DeliverSound (output.put data enough) sink (written ++ data) pump := by
  cases sound with
  | working copy isWorking counted ended all =>
      refine .working copy isWorking counted ?_ ?_
      · intro atEnd
        rw [(ended atEnd).1] at writable
        cases writable
      · rw [← all, List.append_assoc, List.append_assoc]
        rfl
  | complete isFinished closed empty all =>
      rw [closed] at writable
      cases writable

theorem childCloses (sound : DeliverSound output sink written pump) :
    DeliverSound output.closeWriter sink written pump := by
  cases sound with
  | working copy isWorking counted ended all =>
      exact .working copy isWorking counted (fun atEnd => ⟨rfl, (ended atEnd).2⟩) all
  | complete isFinished closed empty all =>
      exact .complete isFinished rfl empty all

theorem of_working {copy : Copy} (sound : DeliverSound output sink written pump)
    (isWorking : pump = .working copy) :
    copy.count = sink.length ∧
      (copy.ended = true → output.writable = false ∧ output.contents = []) ∧
      sink ++ (copy.held ++ output.contents) = written := by
  subst isWorking
  cases sound with
  | working copy' isWorking counted ended all =>
      cases isWorking
      exact ⟨counted, ended, all⟩
  | complete isFinished => cases isFinished

end DeliverSound

namespace CollectSound

variable {limit : Nat} {report : Pipe} {pieces : List Bytes} {written : Bytes}
variable {pump : Pump Bytes Bytes}

theorem childWrites (sound : CollectSound limit report pieces written pump)
    (writable : report.writable = true) {data : Bytes}
    (enough : data.length ≤ report.room) :
    CollectSound limit (report.put data enough) pieces (written ++ data) pump := by
  cases sound with
  | working isWorking all =>
      refine .working isWorking ?_
      rw [← all, List.append_assoc]
      rfl
  | complete isFinished closed empty all =>
      rw [closed] at writable
      cases writable

theorem childCloses (sound : CollectSound limit report pieces written pump) :
    CollectSound limit report.closeWriter pieces written pump := by
  cases sound with
  | working isWorking all => exact .working isWorking all
  | complete isFinished closed empty all => exact .complete isFinished rfl empty all

theorem of_working {kept : Bytes} (sound : CollectSound limit report pieces written pump)
    (isWorking : pump = .working kept) :
    kept = pieces.foldl (keepPiece limit) [] ∧
      pieces.flatten ++ report.contents = written := by
  subst isWorking
  cases sound with
  | working isWorking all =>
      cases isWorking
      exact ⟨rfl, all⟩
  | complete isFinished => cases isFinished

end CollectSound

namespace Exchange

variable {program : Program} {limit : Nat} {total : Bytes}
variable {exchange next : Exchange program}

/-- A step of the feeding moves bytes on, or ends it. -/
theorem FeedStep.feedSound (step : FeedStep exchange next)
    (sound : FeedSound total exchange.payload exchange.input exchange.trace.input
      exchange.trace.sawEnd exchange.feeding) :
    FeedSound total next.payload next.input next.trace.input next.trace.sawEnd
      next.feeding := by
  cases step with
  | @read copy working count positive there bounded =>
      obtain ⟨writable, unseen, -, all⟩ := sound.of_working working
      have unended := Copy.ended_eq_false_of_room_pos (Nat.lt_of_lt_of_le positive bounded)
      refine .working _ rfl writable unseen ?_ ?_
      · intro ended
        rw [Copy.fill, unended] at ended
        cases ended
      · rw [← all, Copy.fill, List.append_assoc copy.held, List.take_append_drop]
  | readEnd working empty room =>
      obtain ⟨writable, unseen, -, all⟩ := sound.of_working working
      exact .working _ rfl writable unseen (fun _ => empty) all
  | @write copy working readable count positive there enough =>
      obtain ⟨writable, unseen, ended, all⟩ := sound.of_working working
      refine .working _ rfl writable unseen ended ?_
      rw [← all, Pipe.put, Copy.drain, List.append_assoc,
        ← List.append_assoc (copy.held.take count), List.take_append_drop]
  | refused working held refused =>
      obtain ⟨-, unseen, -, all⟩ := sound.of_working working
      obtain ⟨unread, rfl⟩ := Pipe.verdict_eq_error refused
      exact .refused 0 rfl rfl unread unseen ⟨_, all⟩
  | @close copy working done =>
      obtain ⟨-, unseen, ended, all⟩ := sound.of_working working
      obtain ⟨atEnd, empty⟩ := copy.isDone_iff.1 done
      refine .complete copy.count (Pump.afterShutdown_verdict copy exchange.input) rfl ?_ ?_
      · intro seen
        rw [unseen] at seen
        cases seen
      · rw [← all, empty, ended atEnd]
        simp [Pipe.closeWriter]

/-- A step of the delivering moves bytes on, or ends it. -/
theorem DeliverStep.deliverSound (step : DeliverStep exchange next)
    (sound : DeliverSound exchange.output exchange.sink exchange.trace.output
      exchange.delivering) :
    DeliverSound next.output next.sink next.trace.output next.delivering := by
  cases step with
  | @read copy working count positive there bounded =>
      obtain ⟨counted, -, all⟩ := sound.of_working working
      have unended := Copy.ended_eq_false_of_room_pos (Nat.lt_of_lt_of_le positive bounded)
      refine .working _ rfl counted ?_ ?_
      · intro ended
        rw [Copy.fill, unended] at ended
        cases ended
      · rw [← all, Copy.fill, Pipe.drop, List.append_assoc copy.held,
          List.take_append_drop]
  | readEnd working closed empty room =>
      obtain ⟨counted, -, all⟩ := sound.of_working working
      exact .working _ rfl counted (fun _ => ⟨closed, empty⟩) all
  | @write copy working count positive there =>
      obtain ⟨counted, ended, all⟩ := sound.of_working working
      refine .working _ rfl ?_ ended ?_
      · rw [Copy.drain, counted, List.length_append, List.length_take,
          Nat.min_eq_left there]
      · rw [← all, Copy.drain, List.append_assoc,
          ← List.append_assoc (copy.held.take count), List.take_append_drop]
  | @close copy working done =>
      obtain ⟨counted, ended, all⟩ := sound.of_working working
      obtain ⟨atEnd, empty⟩ := copy.isDone_iff.1 done
      obtain ⟨closed, drained⟩ := ended atEnd
      have same : exchange.sink = exchange.trace.output := by
        rw [← all, empty, drained, List.nil_append, List.append_nil]
      refine .complete ?_ closed drained same
      rw [counted, same]

/-- A step of the collecting takes one more piece, or ends it. -/
theorem CollectStep.collectSound (step : CollectStep limit exchange next)
    (sound : CollectSound limit exchange.report exchange.trace.pieces
      exchange.trace.report exchange.collecting) :
    CollectSound limit next.report next.trace.pieces next.trace.report
      next.collecting := by
  cases step with
  | read working count positive there bounded =>
      obtain ⟨rfl, all⟩ := sound.of_working working
      refine .working ?_ ?_
      · rw [List.foldl_append, List.foldl_cons, List.foldl_nil]
      · rw [← all, List.flatten_append, List.flatten_singleton, List.append_assoc,
          Pipe.drop, List.take_append_drop]
  | readEnd working closed empty =>
      obtain ⟨rfl, all⟩ := sound.of_working working
      refine .complete rfl closed empty ?_
      rw [← all, empty, List.append_nil]

/-- A step of the program leaves the pumps sound: it takes bytes from one pipe, adds
bytes to another, or closes an end. -/
theorem ChildStep.sound (step : ChildStep exchange next)
    (sound : exchange.Sound limit total) : next.Sound limit total := by
  obtain ⟨feeding, delivering, collecting, ended⟩ := sound
  cases step with
  | read running offered readable count positive bounded there =>
      exact ⟨feeding.childReads readable count, delivering, collecting, nofun⟩
  | readEnd running offered readable closed empty =>
      exact ⟨feeding.childReadsEnd readable closed empty, delivering, collecting, nofun⟩
  | @write state stream data next running offered writable count positive enough =>
      cases stream with
      | output => exact ⟨feeding, delivering.childWrites writable enough, collecting, nofun⟩
      | report => exact ⟨feeding, delivering, collecting.childWrites writable enough, nofun⟩
  | closeInput running offered =>
      exact ⟨feeding.childClosesInput, delivering, collecting, nofun⟩
  | @close state next stream running offered =>
      cases stream with
      | output => exact ⟨feeding, delivering.childCloses, collecting, nofun⟩
      | report => exact ⟨feeding, delivering, collecting.childCloses, nofun⟩
  | work running offered => exact ⟨feeding, delivering, collecting, nofun⟩
  | finish running offered =>
      exact ⟨feeding.childClosesInput, delivering.childCloses, collecting.childCloses,
        fun _ _ => ⟨rfl, rfl, rfl⟩⟩

/-- A step of a pump leaves all pumps sound. -/
theorem PumpStep.sound (step : PumpStep limit exchange next)
    (sound : exchange.Sound limit total) : next.Sound limit total := by
  obtain ⟨feeding, delivering, collecting, ended⟩ := sound
  -- The parts that a pump does not touch are the same up to unfolding.
  cases step with
  | feed step =>
      have fed := step.feedSound feeding
      cases step <;> exact ⟨fed, delivering, collecting, ended⟩
  | deliver step =>
      have delivered := step.deliverSound delivering
      cases step <;> exact ⟨feeding, delivered, collecting, ended⟩
  | collect step =>
      have collected := step.collectSound collecting
      cases step <;> exact ⟨feeding, delivering, collected, ended⟩

/-- All pumps are sound in every exchange that can be reached. -/
theorem Reachable.sound {payload : Option Bytes} {input output report : Capacity}
    (reached : Reachable limit (start program payload input output report) exchange) :
    exchange.Sound limit (payload.getD []) := by
  induction reached with
  | refl => exact sound_start program limit payload input output report
  | tail _ step hypothesis =>
      cases step with
      | child step => exact step.sound hypothesis
      | pump step => exact step.sound hypothesis

end Exchange
end StatelessPgp
