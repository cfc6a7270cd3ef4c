import StatelessPgp.Failure.Duration
import StatelessPgp.Failure.Kind
import StatelessPgp.Failure.System
import StatelessPgp.Text.Blank

/-!
# Failures

A failure is its outermost layer together with the messages of everything below
it, outermost first.  Wrapping a failure in a new message keeps its kind and
moves its own message to the front of the causes.
-/

namespace StatelessPgp

/-- The outermost layer of a failure. -/
inductive Layer where
  /-- A failure with a kind and a message.  The status is the one by which a
  backend reported it, if a backend did. -/
  | operation (kind : Kind) (message : String) (status : Option Int)
  /-- The backend could not be started. -/
  | spawn (backend : String) (reason : SystemError)
  /-- Data could not be moved to or from the backend or a file. -/
  | transfer (reason : SystemError)
  /-- The backend did not end in time. -/
  | timeout (limit : Duration)
  /-- The backend ended with a status outside the table. -/
  | unspecified (status : Int) (report : String)
  | terminated (signal : Option Int)
  deriving DecidableEq, Repr

/-- A backend's report as it is appended to a message. -/
def reportSuffix (report : String) : String :=
  match Text.stripped? report with
  | none => ""
  | some text => ":\n" ++ text

namespace Layer

/-- The kind of a layer; only operations have one of their own. -/
def kind : Layer → Kind
  | .operation kind _ _ => kind
  | _ => .generic

def message : Layer → String
  | .operation _ message _ => message
  | .spawn backend reason =>
      "Failed to spawn backend \x60" ++ backend ++ "\x60: " ++ reason.message
  | .transfer reason => "IO error: " ++ reason.message
  | .timeout limit => "Backend did not finish within " ++ limit.text
  | .unspecified status report =>
      "Backend reported unknown exit code (" ++ Text.integerText status ++ ")" ++
        reportSuffix report
  | .terminated (some signal) =>
      "Backend was terminated by signal Some(" ++ Text.integerText signal ++ ")"
  | .terminated none => "Backend was terminated by signal None"

def backendStatus : Layer → Option Int
  | .operation _ _ status => status
  | .unspecified status _ => some status
  | _ => none

/-- Whether a layer says that the backend could not be run to its end. -/
def isTransport : Layer → Bool
  | .spawn _ _ | .transfer _ | .timeout _ | .terminated _ => true
  | .operation _ _ _ | .unspecified _ _ => false

end Layer

/-- A failure: its outermost layer and the messages below it. -/
structure Failure where
  layer : Layer
  /-- The messages below, outermost first. -/
  causes : List String
  deriving DecidableEq, Repr

namespace Failure

/-- A failure of a kind with a message and nothing below. -/
def new (kind : Kind) (message : String) : Failure :=
  ⟨.operation kind message none, []⟩

/-- A failure of a kind with a message and one cause. -/
def because (kind : Kind) (message cause : String) : Failure :=
  ⟨.operation kind message none, [cause]⟩

/-- The backend could not be started for this reason. -/
def spawn (backend : String) (reason : SystemError) : Failure :=
  ⟨.spawn backend reason, [reason.message]⟩

/-- A transfer of data failed for this reason. -/
def transfer (reason : SystemError) : Failure :=
  ⟨.transfer reason, [reason.message]⟩

/-- The backend did not end within the limit. -/
def timeout (limit : Duration) : Failure :=
  ⟨.timeout limit, []⟩

/-- The backend ended with a status outside the table. -/
def unspecified (status : Int) (report : String) : Failure :=
  ⟨.unspecified status report, []⟩

/-- A signal ended the backend. -/
def terminated (signal : Option Int) : Failure :=
  ⟨.terminated signal, []⟩

def kind (failure : Failure) : Kind :=
  failure.layer.kind

def message (failure : Failure) : String :=
  failure.layer.message

/-- The exit status by which a front end reports a failure. -/
def status (failure : Failure) : Nat :=
  failure.kind.status

/-- The status that a backend reported, if the failure is its report. -/
def backendStatus (failure : Failure) : Option Int :=
  failure.layer.backendStatus

/-- Whether the backend could not be run to its end. -/
def isTransport (failure : Failure) : Bool :=
  failure.layer.isTransport

/-- Put a new message over a failure, of the same kind. -/
def context (message : String) (failure : Failure) : Failure :=
  ⟨.operation failure.kind message none, failure.message :: failure.causes⟩

/-- What the exit status and the error output of a backend mean: zero is
success, a status in the table is a failure of its kind, and any other status is
kept as it is. -/
def ofStatus (status : Int) (report : String) : Except Failure Unit :=
  if status = 0 then .ok ()
  else
    match Kind.ofStatus? status with
    | some kind =>
        .error ⟨.operation kind
          ("Backend reported error " ++ kind.label ++ " (" ++
            Text.integerText status ++ ")" ++ reportSuffix report)
          (some status), []⟩
    | none => .error (unspecified status (Text.strip report))

end Failure
end StatelessPgp
