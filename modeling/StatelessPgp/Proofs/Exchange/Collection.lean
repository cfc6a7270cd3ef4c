import StatelessPgp.Backend.Collector
import StatelessPgp.Proofs.Exchange.Soundness

/-!
# What is collected of an error output

However an error output is cut into reads, all of it is read, no difference is negative, nothing
beyond the end of the buffer is asked for, and what is kept is the start of the output.
-/

namespace StatelessPgp

@[simp] theorem Arrival.pieces_append (arrivals later : List Arrival) :
    Arrival.pieces (arrivals ++ later) = Arrival.pieces arrivals ++ Arrival.pieces later :=
  List.map_append

namespace Collector

/-- A collector that has taken in the given bytes. -/
structure Holds (limit : Nat) (arrived : Bytes) (collector : Collector) : Prop where
  buffer : collector.buffer.length = pieceSize
  kept : collector.kept = arrived.take limit

variable {limit : Nat} {arrived : Bytes} {collector : Collector}

theorem holds_start (limit : Nat) : start.Holds limit [] :=
  ⟨List.length_replicate, List.take_nil.symm⟩

theorem Holds.length_kept_le (holds : collector.Holds limit arrived) :
    collector.kept.length ≤ limit := by
  rw [holds.kept]
  exact List.length_take_le limit arrived

theorem subtract?_eq_some {number other : Nat} (within : other ≤ number) :
    subtract? number other = some (number - other) :=
  if_pos within

/-- The front of a buffer within the bytes of the last read does not show what earlier reads have
left behind them. -/
theorem front?_append {data : Bytes} (room : Nat) (behind : Bytes) :
    front? (min data.length room) (data ++ behind) = some (data.take room) := by
  have within : min data.length room ≤ data.length := Nat.min_le_left _ _
  have there : min data.length room ≤ (data ++ behind).length := by
    rw [List.length_append]
    omega
  rw [front?, if_pos there, List.take_append_of_le_length within, Nat.min_comm, ← List.take_take,
    List.take_length]

/-- A round never goes wrong, and keeps just what is kept of a piece. -/
theorem Holds.round?_eq (holds : collector.Holds limit arrived) (arrival : Arrival) :
    collector.round? limit arrival.data =
      some ⟨arrival.data ++ collector.buffer.drop arrival.data.length,
        keepPiece limit collector.kept arrival.data⟩ := by
  have place : arrival.data.length ≤ collector.buffer.length := by
    rw [holds.buffer]
    exact arrival.bounded
  rw [round?, fill?, if_pos place, Option.bind_some, keep?, subtract?_eq_some holds.length_kept_le,
    Option.bind_eq_bind, Option.bind_some, front?_append]
  rfl

theorem Holds.round (holds : collector.Holds limit arrived) (arrival : Arrival) :
    ∃ next, collector.round? limit arrival.data = some next ∧
      next.Holds limit (arrived ++ arrival.data) := by
  refine ⟨_, holds.round?_eq arrival, ?_, ?_⟩
  · have place := arrival.bounded
    rw [List.length_append, List.length_drop, holds.buffer]
    omega
  · change keepPiece limit collector.kept arrival.data = _
    rw [holds.kept, keepPiece_take]

/-- Rounds never go wrong, and the loop goes on behind them. -/
theorem Holds.rounds (holds : collector.Holds limit arrived) (arrivals : List Arrival) :
    ∃ next, next.Holds limit (arrived ++ Arrival.stream arrivals) ∧
      ∀ reads, collect? limit (Arrival.pieces arrivals ++ reads) collector =
        collect? limit reads next := by
  induction arrivals generalizing collector arrived with
  | nil =>
      refine ⟨collector, ?_, fun reads => rfl⟩
      change collector.Holds limit (arrived ++ [])
      rwa [List.append_nil]
  | cons arrival arrivals hypothesis =>
      obtain ⟨middle, round, taken⟩ := holds.round arrival
      obtain ⟨next, later, continues⟩ := hypothesis taken
      refine ⟨next, ?_, fun reads => ?_⟩
      · change next.Holds limit (arrived ++ (arrival.data ++ Arrival.stream arrivals))
        rwa [← List.append_assoc]
      · have something : arrival.data.isEmpty = false :=
          List.isEmpty_eq_false_iff.2 (List.ne_nil_of_length_pos arrival.positive)
        change collect? limit (arrival.data :: (Arrival.pieces arrivals ++ reads)) collector = _
        rw [collect?, something, if_neg Bool.false_ne_true, round, Option.bind_some,
          continues reads]

end Collector

open Collector

/-- However an error output arrives, the loop makes all reads up to its end, never keeps more than
the limit allows on the way, and never subtracts too much or asks for more than the buffer holds.
What it reports is the start of the output up to the limit as text, the same for all ways in which
the same bytes may arrive. -/
theorem report_is_kept_however_it_arrives (limit : Nat) (arrivals : List Arrival) :
    (∃ collector,
      collect? limit (Arrival.pieces arrivals) start = some (collector, []) ∧
        collector.kept = (Arrival.stream arrivals).take
          (min limit (Arrival.stream arrivals).length) ∧
        keptReport limit (Arrival.pieces arrivals) = Text.decodeLossy collector.kept) ∧
    (∀ earlier later, arrivals = earlier ++ later →
      ∃ collector, collect? limit (Arrival.pieces earlier) start = some (collector, []) ∧
        collector.kept.length ≤ limit ∧
        collect? limit (Arrival.pieces arrivals) start =
          collect? limit (Arrival.pieces later) collector) ∧
    ∀ others : List Arrival, Arrival.stream others = Arrival.stream arrivals →
      keptReport limit (Arrival.pieces others) = keptReport limit (Arrival.pieces arrivals) := by
  have reported (arrivals : List Arrival) : keptReport limit (Arrival.pieces arrivals) =
      Text.decodeLossy ((Arrival.stream arrivals).take limit) := by
    rw [keptReport, foldl_keepPiece, Arrival.stream]
  refine ⟨?_, ?_, ?_⟩
  · obtain ⟨collector, holds, continues⟩ := (holds_start limit).rounds arrivals
    have made := continues []
    rw [List.append_nil] at made
    refine ⟨collector, made, ?_, ?_⟩
    · rw [holds.kept, List.nil_append, ← List.take_eq_take_min]
    · rw [reported, holds.kept, List.nil_append]
  · rintro earlier later rfl
    obtain ⟨collector, holds, continues⟩ := (holds_start limit).rounds earlier
    have made := continues []
    rw [List.append_nil] at made
    refine ⟨collector, made, holds.length_kept_le, ?_⟩
    rw [Arrival.pieces_append]
    exact continues _
  · intro others same
    rw [reported, reported, same]

/-- The limit falls within a character of two bytes, which arrive one by one or together. -/
theorem cut_character_is_kept_however_it_arrives :
    let together : List Arrival := [⟨[0x61, 0xC3, 0xA9], by decide, by decide⟩]
    let first : List Arrival := [⟨[0x61, 0xC3], by decide, by decide⟩]
    let second : List Arrival := [⟨[0xA9], by decide, by decide⟩]
    Arrival.stream (first ++ second) = Arrival.stream together ∧
      (∃ collector, collect? 2 (Arrival.pieces first) start = some (collector, []) ∧
        collector.kept.length ≤ 2) ∧
      keptReport 2 (Arrival.pieces (first ++ second)) = keptReport 2 (Arrival.pieces together) ∧
      keptReport 2 (Arrival.pieces together) = "a\uFFFD" := by
  intro together first second
  have same : Arrival.stream (first ++ second) = Arrival.stream together := rfl
  obtain ⟨-, between, -⟩ := report_is_kept_however_it_arrives 2 (first ++ second)
  obtain ⟨collector, made, within, -⟩ := between first second rfl
  obtain ⟨-, -, alike⟩ := report_is_kept_however_it_arrives 2 together
  exact ⟨same, ⟨collector, made, within⟩, alike _ same, by decide⟩

end StatelessPgp
