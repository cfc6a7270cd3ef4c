import StatelessPgp.Failure.System
import StatelessPgp.Text.Utf8

/-!
# Pipes

A pipe hands bytes from a writer to a reader in order.  It has room for a limited
number of them, at least one, and either end may be closed.
-/

namespace StatelessPgp

/-- How many bytes a pipe has room for. -/
abbrev Capacity := { size : Nat // 0 < size }

structure Pipe where
  capacity : Capacity
  /-- The bytes in it, oldest first. -/
  contents : Bytes
  /-- Whether its writer has not closed it. -/
  writable : Bool
  /-- Whether its reader has not closed it. -/
  readable : Bool
  contents_le : contents.length ≤ capacity.val

namespace Pipe

def fresh (capacity : Capacity) : Pipe :=
  ⟨capacity, [], true, true, Nat.zero_le _⟩

def room (pipe : Pipe) : Nat :=
  pipe.capacity.val - pipe.contents.length

theorem room_pos_of_empty {pipe : Pipe} (empty : pipe.contents = []) :
    0 < pipe.room := by
  have positive := pipe.capacity.property
  simpa [room, empty] using positive

def put (pipe : Pipe) (data : Bytes) (enough : data.length ≤ pipe.room) : Pipe :=
  { pipe with
    contents := pipe.contents ++ data
    contents_le := by
      have bounded := pipe.contents_le
      rw [room] at enough
      rw [List.length_append]
      omega }

def drop (pipe : Pipe) (count : Nat) : Pipe :=
  { pipe with
    contents := pipe.contents.drop count
    contents_le := by
      have bounded := pipe.contents_le
      rw [List.length_drop]
      omega }

def closeWriter (pipe : Pipe) : Pipe :=
  { pipe with writable := false }

def closeReader (pipe : Pipe) : Pipe :=
  { pipe with readable := false }

/-- What the system says when data is written, or is to be written to the end:
that nobody reads it any more, if so. -/
def verdict (pipe : Pipe) : Except SystemError Unit :=
  if pipe.readable then .ok () else .error .brokenPipe

theorem verdict_eq_error {pipe : Pipe} {error : SystemError}
    (refused : pipe.verdict = .error error) :
    pipe.readable = false ∧ error = .brokenPipe := by
  cases readable : pipe.readable with
  | true => simp [verdict, readable] at refused
  | false =>
      rw [verdict, readable] at refused
      cases refused
      exact ⟨rfl, rfl⟩

theorem verdict_of_unread {pipe : Pipe} (unread : pipe.readable = false) :
    pipe.verdict = .error .brokenPipe := by
  rw [verdict, unread]
  rfl

end Pipe
end StatelessPgp
