import StatelessPgp.Backend.Exchange

/-!
# Collecting an error output through a buffer

An error output is read into a buffer of a fixed size until a read brings nothing, and of each read
as much is kept as there is room for.  Whatever can go wrong with the buffer or the room makes that
there is no answer.
-/

namespace StatelessPgp

/-- What a read brings before the end of a stream: something, and no more than fits into the
buffer. -/
structure Arrival where
  data : Bytes
  positive : 0 < data.length
  bounded : data.length ≤ pieceSize

namespace Arrival

def pieces (arrivals : List Arrival) : List Bytes :=
  arrivals.map data

def stream (arrivals : List Arrival) : Bytes :=
  (pieces arrivals).flatten

end Arrival

/-- What a pump for an error output holds. -/
structure Collector where
  buffer : Bytes
  kept : Bytes
  deriving DecidableEq, Repr

namespace Collector

/-- What is left of a number when another is taken away, unless that one is greater. -/
def subtract? (number other : Nat) : Option Nat :=
  if other ≤ number then some (number - other) else none

/-- The part of a buffer in front of an offset, unless the offset is beyond its end. -/
def front? (stop : Nat) (buffer : Bytes) : Option Bytes :=
  if stop ≤ buffer.length then some (buffer.take stop) else none

/-- The buffer is blank, and nothing is kept. -/
def start : Collector :=
  ⟨List.replicate pieceSize 0, []⟩

/-- A read puts its bytes over those at the front of the buffer, unless it has no place for
them. -/
def fill? (data : Bytes) (collector : Collector) : Option Collector :=
  if data.length ≤ collector.buffer.length then
    some { collector with buffer := data ++ collector.buffer.drop data.length }
  else none

/-- Of so many bytes at the front of the buffer, keep those for which there is room. -/
def keep? (limit count : Nat) (collector : Collector) : Option Collector := do
  let room ← subtract? limit collector.kept.length
  let part ← front? (min count room) collector.buffer
  return { collector with kept := collector.kept ++ part }

/-- Read once and keep what there is room for. -/
def round? (limit : Nat) (data : Bytes) (collector : Collector) : Option Collector :=
  (collector.fill? data).bind (keep? limit data.length)

/-- Read until a read brings nothing, as every read does at the end of the stream.  There is no
answer if anything goes wrong on the way; an answer comes with the reads that were not made. -/
def collect? (limit : Nat) : List Bytes → Collector → Option (Collector × List Bytes)
  | [], collector => some (collector, [])
  | data :: reads, collector =>
      if data.isEmpty then some (collector, reads)
      else (collector.round? limit data).bind (collect? limit reads)

end Collector
end StatelessPgp
