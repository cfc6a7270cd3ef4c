import StatelessPgp.Backend.Basic

/-!
# Scripted backends

A backend that does what a script tells it: it writes fixed output, repeats its
input or not, writes files to the paths that it is given for them, and ends as it
is told.  A script may choose another one by the first argument of the call.
-/

namespace StatelessPgp

/-- What a script leaves at a path. -/
inductive Artifact where
  | file (data : Bytes)
  | directory
  deriving DecidableEq, Repr

/-- What a scripted backend does. -/
structure Act where
  /-- Whether it does nothing until it is killed. -/
  hangs : Bool
  /-- What it writes to the standard output first. -/
  output : Bytes
  readsInput : Bool
  echoes : Bool
  /-- What it writes to the error output. -/
  report : Bytes
  /-- What it leaves at the path that an option gives it. -/
  artifacts : List (String × Artifact)
  /-- The signal that it sends to itself, if any. -/
  signal : Option Int
  /-- The status with which it ends; the system keeps its lowest eight bits. -/
  status : Int
  /-- The variables of which it keeps a record. -/
  watched : List String
  deriving DecidableEq, Repr

structure Script where
  /-- What is done for a given first argument. -/
  cases : List (String × Act)
  otherwise : Act
  deriving DecidableEq, Repr

structure Record where
  /-- The words after the name of the program. -/
  arguments : List String
  /-- The variables that were watched, as it finds them. -/
  environment : List (String × Bytes)
  /-- The input, if it was read. -/
  input : Option Bytes
  deriving DecidableEq, Repr

namespace Script

def act (script : Script) (call : Call) : Act :=
  (script.cases.lookup (call.arguments.getD 1 "")).getD script.otherwise

/-- The path that a word gives for an option. -/
def pathFor? (option word : String) : Option Path :=
  let mark := option.toList ++ ['=']
  if mark.isPrefixOf word.toList then
    some (Path.ofText (String.ofList (word.toList.drop mark.length)))
  else none

/-- Leave an artifact at a path.  What cannot be written is left out. -/
def leave (directory : Location) (files : FileTree) (path : Path) :
    Artifact → FileTree
  | .file data => (files.write directory path data).toOption.getD files
  | .directory =>
      match files.createDirectory directory path with
      | .ok (_, files) => files
      | .error _ => files

/-- Leave the artifact of an option at all paths that the words give for it. -/
def leaveAll (call : Call) (files : FileTree) (option : String)
    (artifact : Artifact) : FileTree :=
  (call.arguments.filterMap (pathFor? option)).foldl
    (fun files path => leave call.directory files path artifact) files

/-- Whether a signal ends the backend.  It ignores a broken pipe, and signals about
children, continuation, terminals, urgent data and windows end no program. -/
def isFatal (signal : Int) : Bool :=
  1 ≤ signal && signal ≤ 64 && !([13, 17, 18, 20, 21, 22, 23, 28].contains signal)

/-- The signal that stops a program without ending it. -/
def stopSignal : Int := 19

/-- How a script ends, if it does. -/
def exit (act : Act) : Option Exit :=
  match act.signal with
  | none => some (.status (act.status % 256))
  | some signal =>
      if signal = stopSignal then none
      else if isFatal signal then some (.signal (some signal))
      else some (.status (act.status % 256))

def backend (script : Script) : Backend := fun call files =>
  let act := script.act call
  if act.hangs then ⟨[], [], files, none⟩
  else
    { output := act.output ++ (if act.readsInput && act.echoes then call.input else [])
      report := [act.report]
      files := act.artifacts.foldl
        (fun files (option, artifact) => leaveAll call files option artifact) files
      exit := exit act }

/-- Whether a variable is named like one that carries a secret. -/
def isSecretName (name : String) : Bool :=
  Category.all.any fun category =>
    let mark := category.label.toList ++ ['_']
    let index := name.toList.drop mark.length
    mark.isPrefixOf name.toList && !index.isEmpty && index.all Text.isDigit

def record (script : Script) (call : Call) : Option Record :=
  let act := script.act call
  if act.hangs then none
  else
    some
      { arguments := call.arguments
        environment := call.environment.received.entries.filter fun (name, _) =>
          isSecretName name || act.watched.contains name
        input := if act.readsInput then some call.input else none }

end Script
end StatelessPgp
