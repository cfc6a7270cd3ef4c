import StatelessPgp.Proofs.Concurrent.Nests
import StatelessPgp.Proofs.Concurrent.Progress
import StatelessPgp.Proofs.Operation.Vector

/-!
# Invocations alike

Two invocations are alike if they are the same up to the private directories that their
words name.  If their channels are as the same slots say, one of them takes every step
that the other takes, and they stay alike.
-/

namespace StatelessPgp

open FileTree

/-- Words that are the same up to the directories of the channels at their end. -/
def AlikeWords (first second : Path) (left right : List String) : Prop :=
  ∃ (common : List String) (options : List (String × Channel)),
    left = common ++ options.map (Operation.channelWord first) ∧
      right = common ++ options.map (Operation.channelWord second)

theorem AlikeWords.refl (first second : Path) (words : List String) :
    AlikeWords first second words words :=
  ⟨words, [], by simp, by simp⟩

/-- Command lines that are the same up to the private directories. -/
structure Command.Alike (first second : Path) (left right : Command) : Prop where
  program : left.program = right.program
  subcommand : left.subcommand = right.subcommand
  words : AlikeWords first second left.words right.words
  secrets : left.secrets = right.secrets

structure Call.Alike (first second : Path) (left right : Call) : Prop where
  arguments : AlikeWords first second left.arguments right.arguments
  environment : left.environment = right.environment
  input : left.input = right.input
  directory : left.directory = right.directory

/-- The same result, or the same reason for which no private directory could be made. -/
inductive AlikeResults {α : Type} (first second : Path) :
    Except Failure α → Except Failure α → Prop where
  | same (result : Except Failure α) : AlikeResults first second result result
  | unmade (error : SystemError) :
      AlikeResults first second
        (.error (.transfer (error.createdAt (Text.quotedBytes first))))
        (.error (.transfer (error.createdAt (Text.quotedBytes second))))

inductive Stage.Alike {operation : Operation} (first second : Path) :
    Stage operation → Stage operation → Prop where
  | drafting {draft other : Draft} (option : String × Channel)
      (rest : List (String × Channel))
      (same : Command.Alike first second draft.freeze other.freeze) :
      Alike first second (.drafting draft option rest) (.drafting other option rest)
  | ready : Alike first second .ready .ready
  | running : Alike first second .running .running
  | reading (retrieval : Retrieval operation.Result) :
      Alike first second (.reading retrieval) (.reading retrieval)
  | settled {left right : Except Failure operation.Result}
      (same : AlikeResults first second left right) :
      Alike first second (.reading (.done left)) (.reading (.done right))
  | released {left right : Option (Except Failure operation.Result)}
      (same : Option.Rel (AlikeResults first second) left right) :
      Alike first second (.released left) (.released right)

theorem Stage.Alike.result? {operation : Operation} {first second : Path}
    {left right : Stage operation} (alike : left.Alike first second right) :
    Option.Rel (AlikeResults first second) left.result? right.result? := by
  cases alike with
  | drafting | ready | running => exact .none
  | reading retrieval =>
      cases retrieval with
      | done result => exact .some (.same result)
      | consume channel next => exact .none
  | settled same => exact .some same
  | released same => exact same

/-- Invocations that are the same up to their private directories. -/
structure Progress.Alike {operation : Operation} (first second : Path)
    (left right : Progress operation) : Prop where
  stage : left.stage.Alike first second right.stage
  command : Option.Rel (Command.Alike first second) left.command right.command
  call : Option.Rel (Call.Alike first second) left.call right.call

namespace Progress.Alike

variable {operation : Operation} {first second : Path} {left right : Progress operation}

theorem settle (alike : left.Alike first second right)
    {one other : Except Failure operation.Result}
    (same : AlikeResults first second one other) :
    (left.settle one).Alike first second (right.settle other) :=
  ⟨.settled same, alike.command, alike.call⟩

/-- Drafts that are alike, with the same channels still to be reserved. -/
theorem drafted {one other : Channels} {draft sibling : Draft}
    (same : Command.Alike first second draft.freeze sibling.freeze)
    (options : List (String × Channel)) :
    (Progress.drafted one draft options : Progress operation).Alike first second
      (Progress.drafted other sibling options) := by
  cases options with
  | nil => exact ⟨.ready, .some same, .none⟩
  | cons option rest => exact ⟨.drafting option rest same, .none, .none⟩

theorem start (first second : Path) (config : Config) (job : Job) :
    (Progress.start config job).Alike first second (Progress.start config job) := by
  unfold Progress.start
  split
  · exact ⟨.reading _, .none, .none⟩
  · exact drafted ⟨rfl, rfl, .refl _ _ _, rfl⟩ _

end Progress.Alike

/-- Options for one more channel are alike, each with the file in its own directory. -/
theorem Command.Alike.option {first second : Path} {draft sibling : Draft}
    (same : Command.Alike first second draft.freeze sibling.freeze)
    (option : String × Channel) :
    Command.Alike first second
      (draft.option option.1
        (first.join (Path.ofText option.2.fileName)).display).freeze
      (sibling.option option.1
        (second.join (Path.ofText option.2.fileName)).display).freeze := by
  obtain ⟨common, options, left, right⟩ := same.words
  refine ⟨same.program, same.subcommand, ⟨common, options ++ [option], ?_, ?_⟩, same.secrets⟩
  · change draft.words ++ [Operation.channelWord first option] = _
    rw [show draft.words = _ from left, List.map_append, List.append_assoc]
    rfl
  · change sibling.words ++ [Operation.channelWord second option] = _
    rw [show sibling.words = _ from right, List.map_append, List.append_assoc]
    rfl

namespace Progress.Alike

variable {operation : Operation} {first second : Path} {left right later : Progress operation}

theorem launch (alike : left.Alike first second right) {host : Host} {config : Config}
    {input : Bytes} {place : Except SystemError Location}
    (starts : left.launch host config input place = some later) :
    ∃ other, right.launch host config input place = some other ∧
      later.Alike first second other ∧ later.channels = left.channels ∧
      other.channels = right.channels := by
  obtain ⟨stage, channels, command, call⟩ := left
  obtain ⟨sibling, others, _, _⟩ := right
  obtain ⟨stages, commands, calls⟩ := alike
  dsimp only at stages commands calls
  cases stages with
  | drafting | running | reading | settled | released => cases starts
  | ready =>
      cases commands with
      | none => cases starts
      | @some command other same =>
          cases starts
          refine ⟨_, rfl, ?_⟩
          have valid : command.validate = other.validate := by
            rw [Command.validate, Command.validate, same.secrets]
          dsimp only
          rw [valid]
          cases other.validate with
          | error failure => exact ⟨settle ⟨.ready, .some same, calls⟩ (.same _), rfl, rfl⟩
          | ok =>
              cases place with
              | error reason =>
                  rw [same.program]
                  exact ⟨settle ⟨.ready, .some same, calls⟩ (.same _), rfl, rfl⟩
              | ok directory =>
                  refine ⟨⟨.running, .some same, .some ⟨?_, ?_, rfl, rfl⟩⟩, rfl, rfl⟩
                  · obtain ⟨common, options, one, two⟩ := same.words
                    refine ⟨command.subcommand :: common, options, ?_, ?_⟩
                    · rw [Command.arguments, one, List.cons_append]
                    · rw [Command.arguments, two, same.subcommand, List.cons_append]
                  · rw [Host.environmentFor, Host.environmentFor, same.secrets]

theorem finish (alike : left.Alike first second right) {config : Config} {output : Bytes}
    {report : List Bytes} {exit : Option Exit}
    (ends : left.finish config output report exit = some later) :
    ∃ other, right.finish config output report exit = some other ∧
      later.Alike first second other ∧ later.channels = left.channels ∧
      other.channels = right.channels := by
  obtain ⟨stage, channels, command, call⟩ := left
  obtain ⟨sibling, others, _, _⟩ := right
  obtain ⟨stages, commands, calls⟩ := alike
  dsimp only at stages commands calls
  cases stages with
  | drafting | ready | reading | settled | released => cases ends
  | running =>
      cases ends
      refine ⟨_, rfl, ?_⟩
      dsimp only
      split
      · exact ⟨settle ⟨.running, commands, calls⟩ (.same _), rfl, rfl⟩
      · exact ⟨⟨.reading _, commands, calls⟩, rfl, rfl⟩

end Progress.Alike

end StatelessPgp
