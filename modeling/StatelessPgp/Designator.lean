import StatelessPgp.Backend.Basic
import StatelessPgp.Failure.Basic

/-!
# Designators

Data is named by a token: `@ENV:NAME` for a variable, `@FD:N` for an open
descriptor, and anything else for a file.  A token of one of the special forms is
refused if a file has the token for its name, so that no file can take the place
of what was meant.  Descriptors are reached through a directory of the system, and
refused where there is none.  Outputs never replace a file.
-/

namespace StatelessPgp

/-- What a token names. -/
inductive Designator where
  | variable (name : String)
  | descriptor (number : Nat)
  | file (path : String)
  deriving DecidableEq, Repr

namespace Designator

/-- What stands before the number of a descriptor. -/
def descriptorMark : List Char := "@FD:".toList

/-- The number that a token gives after the mark of descriptors: one to three
digits. -/
def descriptorNumber? (token : List Char) : Option Nat :=
  let run := token.drop descriptorMark.length
  if descriptorMark.isPrefixOf token && !run.isEmpty && run.length ≤ 3 &&
      run.all Text.isDigit then
    some (Text.numberOfDigits run)
  else none

/-- Read a token.  Blank characters around it do not count. -/
def parse (token : String) : Except Failure Designator :=
  let token := Text.trim token.toList
  if token.isEmpty then
    .error (.new .missingArg "Indirect data designator cannot be blank.")
  else if environmentMark.toList.isPrefixOf token then
    .ok (.variable (String.ofList (token.drop environmentMark.length)))
  else
    match descriptorNumber? token with
    | some number => .ok (.descriptor number)
    | none => .ok (.file (String.ofList token))

end Designator

namespace Host

/-- The path of a file from the current directory. -/
def pathOf (host : Host) (path : String) : Path :=
  host.workingPath.join (Path.ofText path)

/-- Refuse a token of a special form that is also the name of an entry. -/
def rejectAmbiguous (host : Host) (files : FileTree) (token : String) :
    Except Failure Unit :=
  let token := Text.strip token
  let literal := host.pathOf token
  if files.exists? host.directory literal then
    .error (.new .ambiguousInput
      ("'" ++ token ++ "' is both a special designator and an existing file: " ++
        literal.display))
  else .ok ()

/-- Whether a byte is white space in ASCII, of which the vertical tab is not a
part here. -/
def isAsciiBlank (byte : UInt8) : Bool :=
  byte == 32 || byte == 9 || byte == 10 || byte == 12 || byte == 13

/-- Read a variable.  A blank value counts as missing. -/
def readVariable (host : Host) (name : String) : Except Failure Bytes :=
  match host.lookup name with
  | none =>
      .error (.new .missingInput ("Environment variable '" ++ name ++ "' not set."))
  | some value =>
      if value.all isAsciiBlank then
        .error (.new .missingInput ("Environment variable '" ++ name ++ "' is empty."))
      else .ok value

/-- The directory in which the system shows the open descriptors. -/
def descriptorPath : Path :=
  Path.ofText "/dev/fd"

def descriptorsUnsupported : Failure :=
  .new .unsupportedSpecialPrefix
    ("File descriptor designators are not supported: " ++ descriptorPath.display ++
      " is unavailable")

/-- Refuse descriptors where the system does not show them. -/
def checkDescriptors (host : Host) (files : FileTree) : Except Failure Unit :=
  if files.leadsToDirectory host.directory descriptorPath then .ok ()
  else .error descriptorsUnsupported

def notOpen (kind : Kind) (number : Nat) (purpose : String) : Failure :=
  .because kind
    ("File descriptor " ++ String.ofList (Text.digits number) ++
      " is not open for " ++ purpose)
    SystemError.noEntry.message

def readDescriptor (host : Host) (files : FileTree) (number : Nat) :
    Except Failure Bytes :=
  match host.descriptors.lookup number with
  | none => .error (notOpen .missingInput number "reading")
  | some (.file location) =>
      match files.get? location with
      | some (.file data) => .ok data
      | _ => .ok []
  | some .output | some .report => .ok []

def readFile (host : Host) (files : FileTree) (path : String) :
    Except Failure Bytes :=
  let path := host.pathOf path
  match files.find host.directory path true with
  | .error error =>
      .error (.because .missingInput
        ("Input file " ++ path.display ++ " does not exist.") error.message)
  | .ok (_, .file data) => .ok data
  | .ok (_, .program data) => .ok data
  | .ok _ =>
      .error (.new .missingInput ("Input " ++ path.display ++ " is not a file."))

/-- Read what a token names. -/
def readInput (host : Host) (files : FileTree) (token : String) :
    Except Failure Bytes := do
  match ← Designator.parse token with
  | .variable name =>
      host.rejectAmbiguous files token
      host.readVariable name
  | .descriptor number =>
      host.rejectAmbiguous files token
      host.checkDescriptors files
      host.readDescriptor files number
  | .file path => host.readFile files path

def variableOutput : Failure :=
  .new .unsupportedSpecialPrefix
    "Special designator @ENV cannot be used for output."

def outputExists (path : Path) : Failure :=
  .new .outputExists ("Output file " ++ path.display ++ " already exists.")

/-- Check, without changing anything, that nothing is in the way of an output and that
what it names can be reached. -/
def checkOutput (host : Host) (files : FileTree) (token : String) :
    Except Failure Unit := do
  match ← Designator.parse token with
  | .variable _ => throw variableOutput
  | .descriptor _ =>
      host.rejectAmbiguous files token
      host.checkDescriptors files
  | .file path =>
      let path := host.pathOf path
      if files.exists? host.directory path then throw (outputExists path)

/-- Open what a token names for writing.  A file is created and must not be there
yet. -/
def openOutput (host : Host) (files : FileTree) (token : String) :
    Except Failure (Descriptor × FileTree) := do
  match ← Designator.parse token with
  | .variable _ => throw variableOutput
  | .descriptor number =>
      host.rejectAmbiguous files token
      host.checkDescriptors files
      match host.descriptors.lookup number with
      | some descriptor => return (descriptor, files)
      | none => throw (notOpen .generic number "writing")
  | .file path =>
      let path := host.pathOf path
      if files.exists? host.directory path then throw (outputExists path)
      match files.createFile host.directory path with
      | .ok (location, files) => return (.file location, files)
      | .error (.code 17) => throw (outputExists path)
      | .error error =>
          throw (.because .generic
            ("Output file " ++ path.display ++ " cannot be created.") error.message)

end Host

/-- Write data at the start of what is open. -/
def FileTree.writeTo (files : FileTree) (data : Bytes) : Descriptor → FileTree
  | .file location =>
      match files.get? location with
      | some (.file old) => files.set location (.file (FileTree.overlay data old))
      | _ => files
  | .output | .report => files

end StatelessPgp
