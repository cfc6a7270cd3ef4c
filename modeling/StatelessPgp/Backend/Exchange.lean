import Mathlib.Logic.Relation
import StatelessPgp.Backend.Pipe
import StatelessPgp.Backend.Run

/-!
# Exchanges of data with a backend

While a backend runs, three pumps move data: one feeds the payload to its standard
input, one delivers its standard output to a sink, and one collects its error
output.  The backend and the pumps take steps in any order, and every read or write
moves as many bytes as it happens to, at least one.  The exchange keeps a record of
what the backend has done.
-/

namespace StatelessPgp

/-- A stream that a program writes. -/
inductive Stream where
  | output
  | report
  deriving DecidableEq, Repr

/-- What a program does next. -/
inductive Action (State : Type) where
  /-- Read one byte and so many more at most; none are read at the end. -/
  | read (more : Nat) (next : Bytes → State)
  /-- Write data; the program goes on from the number of bytes written. -/
  | write (stream : Stream) (data : Bytes) (next : Nat → State)
  | closeInput (next : State)
  | close (stream : Stream) (next : State)
  | work (next : State)
  /-- End, which closes everything. -/
  | finish (exit : Exit)

/-- A program as it behaves step by step.  It may be ready for several actions. -/
structure Program where
  State : Type
  start : State
  offers : State → Action State → Prop

/-- How far the copying of a stream through a buffer has come. -/
structure Copy where
  /-- What has been read and is still to be written. -/
  held : Bytes
  /-- How much of the buffer has been filled since it was last empty. -/
  used : Nat
  ended : Bool
  count : Nat
  used_eq_zero : held = [] → used = 0
  deriving DecidableEq

namespace Copy

def size : Nat := 8192

def start : Copy := ⟨[], 0, false, 0, fun _ => rfl⟩

/-- How many bytes can be read into the buffer.  After the end nothing is read. -/
def room (copy : Copy) : Nat :=
  if copy.ended then 0 else size - copy.used

def fill (copy : Copy) (data : Bytes) : Copy :=
  { copy with
    held := copy.held ++ data
    used := copy.used + data.length
    used_eq_zero := by
      intro empty
      obtain ⟨heldEmpty, dataEmpty⟩ := List.append_eq_nil_iff.1 empty
      simp [copy.used_eq_zero heldEmpty, dataEmpty] }

def finish (copy : Copy) : Copy :=
  { copy with ended := true }

def drain (copy : Copy) (count : Nat) : Copy where
  held := copy.held.drop count
  used := if (copy.held.drop count).isEmpty then 0 else copy.used
  ended := copy.ended
  count := copy.count + count
  used_eq_zero := by
    intro empty
    simp [empty]

/-- Whether everything up to the end has been written. -/
def isDone (copy : Copy) : Bool :=
  copy.ended && copy.held.isEmpty

theorem isDone_iff (copy : Copy) :
    copy.isDone = true ↔ copy.ended = true ∧ copy.held = [] := by
  rw [isDone, Bool.and_eq_true, List.isEmpty_iff]

theorem ended_eq_false_of_room_pos {copy : Copy} (room : 0 < copy.room) :
    copy.ended = false := by
  cases ended : copy.ended with
  | false => rfl
  | true => simp [Copy.room, ended] at room

/-- An empty buffer has room until the end of the source has been read. -/
theorem room_of_empty {copy : Copy} (empty : copy.held = [])
    (unended : copy.ended = false) : copy.room = size := by
  simp [room, unended, copy.used_eq_zero empty]

end Copy

/-- A pump: at work, at its end with a result, or stopped by an error. -/
inductive Pump (Work Result : Type) where
  | working (work : Work)
  | finished (result : Result)
  | failed (error : SystemError)
  deriving DecidableEq

/-- What becomes of feeding when data cannot be written.  A program may stop reading
early; its exit decides. -/
def Pump.afterRefusal (error : SystemError) : Pump Copy Nat :=
  if error.isBrokenPipe then .finished 0 else .failed error

/-- What becomes of feeding when the pipe is shut down behind all data. -/
def Pump.afterShutdown (copy : Copy) : Except SystemError Unit → Pump Copy Nat
  | .ok () => .finished copy.count
  | .error error => if error.isBrokenPipe then .finished copy.count else .failed error

theorem Pump.afterRefusal_brokenPipe : Pump.afterRefusal .brokenPipe = .finished 0 := rfl

/-- A shutdown ends the feeding with the count, also when nobody reads any more. -/
theorem Pump.afterShutdown_verdict (copy : Copy) (pipe : Pipe) :
    Pump.afterShutdown copy pipe.verdict = .finished copy.count := by
  rw [Pipe.verdict]
  split <;> rfl

/-- How many bytes of error output are read at once. -/
def pieceSize : Nat := 4096

structure Trace where
  input : Bytes
  /-- Whether it has read the end of its input. -/
  sawEnd : Bool
  output : Bytes
  report : Bytes
  /-- The pieces in which its error output has arrived. -/
  pieces : List Bytes
  deriving DecidableEq, Repr

structure Exchange (program : Program) where
  /-- The state of the program, or how it ended. -/
  child : program.State ⊕ Exit
  input : Pipe
  output : Pipe
  report : Pipe
  /-- What is left of the payload. -/
  payload : Bytes
  sink : Bytes
  feeding : Pump Copy Nat
  delivering : Pump Copy Nat
  /-- The pump for the error output, with what it keeps. -/
  collecting : Pump Bytes Bytes
  trace : Trace

namespace Exchange

variable {program : Program}

/-- A program has been started.  Without a payload its input is at its end at once. -/
def start (program : Program) (payload : Option Bytes) (input output report : Capacity) :
    Exchange program where
  child := .inl program.start
  input := match payload with
    | none => (Pipe.fresh input).closeWriter
    | some _ => Pipe.fresh input
  output := Pipe.fresh output
  report := Pipe.fresh report
  payload := payload.getD []
  sink := []
  feeding := match payload with
    | none => .finished 0
    | some _ => .working .start
  delivering := .working .start
  collecting := .working []
  trace := ⟨[], false, [], [], []⟩

def pipe (exchange : Exchange program) : Stream → Pipe
  | .output => exchange.output
  | .report => exchange.report

def childReads (exchange : Exchange program) (count : Nat) : Exchange program :=
  { exchange with
    input := exchange.input.drop count
    trace.input := exchange.trace.input ++ exchange.input.contents.take count }

def childReadsEnd (exchange : Exchange program) : Exchange program :=
  { exchange with trace.sawEnd := true }

def childWrites (exchange : Exchange program) (stream : Stream) (data : Bytes)
    (enough : data.length ≤ (exchange.pipe stream).room) : Exchange program :=
  match stream with
  | .output =>
      { exchange with
        output := exchange.output.put data enough
        trace.output := exchange.trace.output ++ data }
  | .report =>
      { exchange with
        report := exchange.report.put data enough
        trace.report := exchange.trace.report ++ data }

def childClosesInput (exchange : Exchange program) : Exchange program :=
  { exchange with input := exchange.input.closeReader }

def childCloses (exchange : Exchange program) : Stream → Exchange program
  | .output => { exchange with output := exchange.output.closeWriter }
  | .report => { exchange with report := exchange.report.closeWriter }

def resume (exchange : Exchange program) (state : program.State) : Exchange program :=
  { exchange with child := .inl state }

def childFinishes (exchange : Exchange program) (exit : Exit) : Exchange program :=
  { ((exchange.childClosesInput.childCloses .output).childCloses .report) with
    child := .inr exit }

inductive ChildStep : Exchange program → Exchange program → Prop where
  | read {exchange : Exchange program} {state : program.State} {more : Nat}
      {next : Bytes → program.State} (running : exchange.child = .inl state)
      (offered : program.offers state (.read more next))
      (readable : exchange.input.readable = true) (count : Nat) (positive : 0 < count)
      (bounded : count ≤ more + 1) (there : count ≤ exchange.input.contents.length) :
      ChildStep exchange
        ((exchange.childReads count).resume (next (exchange.input.contents.take count)))
  | readEnd {exchange : Exchange program} {state : program.State} {more : Nat}
      {next : Bytes → program.State} (running : exchange.child = .inl state)
      (offered : program.offers state (.read more next))
      (readable : exchange.input.readable = true)
      (closed : exchange.input.writable = false) (empty : exchange.input.contents = []) :
      ChildStep exchange (exchange.childReadsEnd.resume (next []))
  | write {exchange : Exchange program} {state : program.State} {stream : Stream}
      {data : Bytes} {next : Nat → program.State} (running : exchange.child = .inl state)
      (offered : program.offers state (.write stream data next))
      (writable : (exchange.pipe stream).writable = true) (count : Nat)
      (positive : 0 < count ∨ data = [])
      (enough : (data.take count).length ≤ (exchange.pipe stream).room) :
      ChildStep exchange
        ((exchange.childWrites stream (data.take count) enough).resume
          (next (data.take count).length))
  | closeInput {exchange : Exchange program} {state next : program.State}
      (running : exchange.child = .inl state)
      (offered : program.offers state (.closeInput next)) :
      ChildStep exchange (exchange.childClosesInput.resume next)
  | close {exchange : Exchange program} {state next : program.State} {stream : Stream}
      (running : exchange.child = .inl state)
      (offered : program.offers state (.close stream next)) :
      ChildStep exchange ((exchange.childCloses stream).resume next)
  | work {exchange : Exchange program} {state next : program.State}
      (running : exchange.child = .inl state)
      (offered : program.offers state (.work next)) :
      ChildStep exchange (exchange.resume next)
  | finish {exchange : Exchange program} {state : program.State} {exit : Exit}
      (running : exchange.child = .inl state)
      (offered : program.offers state (.finish exit)) :
      ChildStep exchange (exchange.childFinishes exit)

/-- The program is held up: it is ready to read from an empty pipe that may still
be written, or to write what does not fit into a pipe that holds something. -/
inductive Blocked (exchange : Exchange program) : Prop where
  | read {state : program.State} {more : Nat} {next : Bytes → program.State}
      (running : exchange.child = .inl state)
      (offered : program.offers state (.read more next))
      (readable : exchange.input.readable = true)
      (writable : exchange.input.writable = true) (empty : exchange.input.contents = [])
  | write {state : program.State} {stream : Stream} {data : Bytes}
      {next : Nat → program.State} (running : exchange.child = .inl state)
      (offered : program.offers state (.write stream data next))
      (writable : (exchange.pipe stream).writable = true)
      (full : (exchange.pipe stream).room < data.length)
      (occupied : (exchange.pipe stream).contents ≠ [])

/-- A step of the pump that feeds the payload to the program.  Reading the payload
never fails. -/
inductive FeedStep : Exchange program → Exchange program → Prop where
  | read {exchange : Exchange program} {copy : Copy}
      (working : exchange.feeding = .working copy) (count : Nat) (positive : 0 < count)
      (there : count ≤ exchange.payload.length) (bounded : count ≤ copy.room) :
      FeedStep exchange
        { exchange with
          payload := exchange.payload.drop count
          feeding := .working (copy.fill (exchange.payload.take count)) }
  | readEnd {exchange : Exchange program} {copy : Copy}
      (working : exchange.feeding = .working copy) (empty : exchange.payload = [])
      (room : 0 < copy.room) :
      FeedStep exchange { exchange with feeding := .working copy.finish }
  | write {exchange : Exchange program} {copy : Copy}
      (working : exchange.feeding = .working copy)
      (readable : exchange.input.readable = true) (count : Nat) (positive : 0 < count)
      (there : count ≤ copy.held.length)
      (enough : (copy.held.take count).length ≤ exchange.input.room) :
      FeedStep exchange
        { exchange with
          input := exchange.input.put (copy.held.take count) enough
          feeding := .working (copy.drain count) }
  | refused {exchange : Exchange program} {copy : Copy} {error : SystemError}
      (working : exchange.feeding = .working copy) (held : copy.held ≠ [])
      (refused : exchange.input.verdict = .error error) :
      FeedStep exchange
        { exchange with
          input := exchange.input.closeWriter
          feeding := .afterRefusal error }
  | close {exchange : Exchange program} {copy : Copy}
      (working : exchange.feeding = .working copy) (done : copy.isDone = true) :
      FeedStep exchange
        { exchange with
          input := exchange.input.closeWriter
          feeding := .afterShutdown copy exchange.input.verdict }

/-- A step of the pump that delivers the standard output.  The sink accepts every
write. -/
inductive DeliverStep : Exchange program → Exchange program → Prop where
  | read {exchange : Exchange program} {copy : Copy}
      (working : exchange.delivering = .working copy) (count : Nat) (positive : 0 < count)
      (there : count ≤ exchange.output.contents.length) (bounded : count ≤ copy.room) :
      DeliverStep exchange
        { exchange with
          output := exchange.output.drop count
          delivering := .working (copy.fill (exchange.output.contents.take count)) }
  | readEnd {exchange : Exchange program} {copy : Copy}
      (working : exchange.delivering = .working copy)
      (closed : exchange.output.writable = false) (empty : exchange.output.contents = [])
      (room : 0 < copy.room) :
      DeliverStep exchange { exchange with delivering := .working copy.finish }
  | write {exchange : Exchange program} {copy : Copy}
      (working : exchange.delivering = .working copy) (count : Nat) (positive : 0 < count)
      (there : count ≤ copy.held.length) :
      DeliverStep exchange
        { exchange with
          sink := exchange.sink ++ copy.held.take count
          delivering := .working (copy.drain count) }
  | close {exchange : Exchange program} {copy : Copy}
      (working : exchange.delivering = .working copy) (done : copy.isDone = true) :
      DeliverStep exchange { exchange with delivering := .finished copy.count }

/-- A step of the pump that collects the error output and keeps what is within the
limit. -/
inductive CollectStep (limit : Nat) : Exchange program → Exchange program → Prop where
  | read {exchange : Exchange program} {kept : Bytes}
      (working : exchange.collecting = .working kept) (count : Nat) (positive : 0 < count)
      (there : count ≤ exchange.report.contents.length) (bounded : count ≤ pieceSize) :
      CollectStep limit exchange
        { exchange with
          report := exchange.report.drop count
          collecting :=
            .working (keepPiece limit kept (exchange.report.contents.take count))
          trace.pieces := exchange.trace.pieces ++ [exchange.report.contents.take count] }
  | readEnd {exchange : Exchange program} {kept : Bytes}
      (working : exchange.collecting = .working kept)
      (closed : exchange.report.writable = false)
      (empty : exchange.report.contents = []) :
      CollectStep limit exchange { exchange with collecting := .finished kept }

inductive PumpStep (limit : Nat) (before after : Exchange program) : Prop where
  | feed (step : FeedStep before after)
  | deliver (step : DeliverStep before after)
  | collect (step : CollectStep limit before after)

inductive Step (limit : Nat) (before after : Exchange program) : Prop where
  | child (step : ChildStep before after)
  | pump (step : PumpStep limit before after)

/-- The exchanges that any order of steps leads to. -/
def Reachable (limit : Nat) (first : Exchange program) : Exchange program → Prop :=
  Relation.ReflTransGen (Step limit) first

/-- What the run amounts to, once that is known: the first error of a pump, or how the
program ended when all pumps are at their ends. -/
def answer? (exchange : Exchange program) : Option (Except Failure Completed) :=
  match exchange.feeding, exchange.delivering, exchange.collecting, exchange.child with
  | .failed error, _, _, _ => some (.error (.transfer error))
  | _, .failed error, _, _ => some (.error (.transfer error))
  | _, _, .failed error, _ => some (.error (.transfer error))
  | .finished _, .finished written, .finished kept, .inr exit =>
      some (.ok ⟨exit, Text.decodeLossy kept, written⟩)
  | _, _, _, _ => none

end Exchange
end StatelessPgp
