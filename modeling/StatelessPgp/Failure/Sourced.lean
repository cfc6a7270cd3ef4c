import StatelessPgp.Failure.Basic

/-!
# Failures with their sources

Messages are put over a failure one after the other.  Each makes the failure below it the source of
a new one, and where sources are kept as they are, one can go down from each to the next.
-/

namespace StatelessPgp

namespace Failure

/-- Put messages over a failure, one after the other. -/
def contexts (failure : Failure) (messages : List String) : Failure :=
  messages.foldl (fun inner message => inner.context message) failure

/-- The message of a failure and those below it, outermost first. -/
def lines (failure : Failure) : List String :=
  failure.message :: failure.causes

end Failure

/-- What an error names as its source: nothing, a failure, or an error from elsewhere of which the
text is known. -/
inductive Origin where
  | nothing
  | failure (layer : Layer) (source : Origin)
  | foreign (text : String) (source : Origin)
  deriving DecidableEq, Repr

namespace Origin

def source : Origin → Origin
  | nothing => nothing
  | failure _ source => source
  | foreign _ source => source

/-- What is found after so many steps from source to source. -/
def descend : Nat → Origin → Origin
  | 0, origin => origin
  | count + 1, origin => origin.source.descend count

/-- The texts that are found on the way from source to source. -/
def texts : Origin → List String
  | nothing => []
  | failure layer source => layer.message :: source.texts
  | foreign text source => text :: source.texts

end Origin

/-- A failure whose sources are there as they are, not as texts only. -/
structure Sourced where
  layer : Layer
  source : Origin
  deriving DecidableEq, Repr

namespace Sourced

/-- The failure with the texts of its sources. -/
def failure (sourced : Sourced) : Failure :=
  ⟨sourced.layer, sourced.source.texts⟩

/-- The failure as a source of another one. -/
def origin (sourced : Sourced) : Origin :=
  .failure sourced.layer sourced.source

/-- Put a message of the same kind over a failure, which becomes its source. -/
def context (message : String) (sourced : Sourced) : Sourced :=
  ⟨.operation sourced.layer.kind message none, sourced.origin⟩

def contexts (sourced : Sourced) (messages : List String) : Sourced :=
  messages.foldl (fun inner message => inner.context message) sourced

end Sourced
end StatelessPgp
