import StatelessPgp.Backend.Basic

/-!
# Side channels

Besides its standard output, a backend can write further results to files.  Every
invocation has a private directory for them, which is made when the first channel
is reserved.  A channel is emptied when it is read, and releasing the channels
removes whatever is left.
-/

namespace StatelessPgp

/-- A further result of an operation. -/
inductive Channel where
  | sessionKey
  | verifications
  | signatures
  | micAlg
  deriving DecidableEq, Repr

namespace Channel

def fileName : Channel → String
  | .sessionKey => "session-key-out"
  | .verifications => "verify-out"
  | .signatures => "signatures-out"
  | .micAlg => "micalg-out"

/-- The name of a channel as descriptions show it. -/
def label : Channel → String
  | .sessionKey => "SessionKeyOut"
  | .verifications => "VerifyOut"
  | .signatures => "SignaturesOut"
  | .micAlg => "MicAlgOut"

end Channel

/-- A description of the place for scratch directories. -/
def ScratchParent.description : ScratchParent → String
  | .system => "System"
  | .within directory => "In(" ++ Text.quotedBytes directory ++ ")"

/-- The channels of one invocation. -/
structure Channels where
  /-- Where the private directory is made. -/
  parent : ScratchParent
  /-- The private directory, once it exists. -/
  directory : Option Path
  /-- The reserved channels with the paths of their files, in the order of their
  reservation. -/
  reserved : List (Channel × Path)
  deriving DecidableEq, Repr

/-- Remove a file.  That there is none is not an error. -/
def FileTree.discard (files : FileTree) (base : Location) (path : Path) :
    Except SystemError FileTree :=
  match files.removeFile base path with
  | .ok files => .ok files
  | .error error => if error.isMissing then .ok files else .error error

/-- The directory in which scratch directories are made. -/
def Host.scratchParent (host : Host) (parent : ScratchParent) : Path :=
  host.workingPath.join
    (match parent with
      | .system => host.temporary
      | .within directory => directory)

def Host.createScratch (host : Host) (parent : ScratchParent) (files : FileTree) :
    Except SystemError (Path × FileTree) :=
  let parent := host.scratchParent parent
  let path := parent.join (host.scratchName files parent)
  match files.createDirectory host.directory path with
  | .ok (_, files) => .ok (path, files)
  | .error error => .error (error.createdAt (Text.quotedBytes path))

namespace Channels

/-- A description of channels.  How a scratch directory is shown is left to its
maker. -/
def description (showDirectory : Path → String) (channels : Channels) : String :=
  "SideChannels \x7b location: " ++ channels.parent.description ++ ", dir: " ++
    (match channels.directory with
      | none => "None"
      | some directory => "Some(" ++ showDirectory directory ++ ")") ++
    ", reserved: [" ++
    String.intercalate ", " (channels.reserved.map fun (channel, path) =>
      "(" ++ channel.label ++ ", " ++ Text.quotedBytes path ++ ")") ++ "] \x7d"

/-- No channel is reserved, and there is no directory. -/
def new (parent : ScratchParent) : Channels :=
  ⟨parent, none, []⟩

def path? (channels : Channels) (channel : Channel) : Option Path :=
  channels.reserved.lookup channel

/-- The private directory, which is made if it does not exist. -/
def openDirectory (host : Host) (channels : Channels) (files : FileTree) :
    Except SystemError Path × Channels × FileTree :=
  match channels.directory with
  | some directory => (.ok directory, channels, files)
  | none =>
      match host.createScratch channels.parent files with
      | .error error => (.error error, channels, files)
      | .ok (directory, files) =>
          (.ok directory, { channels with directory := some directory }, files)

/-- Reserve a channel and return the path at which the backend is to write.
Something that is left there from before is removed, unless the channel is
reserved already. -/
def reserve (host : Host) (channel : Channel) (channels : Channels)
    (files : FileTree) : Except SystemError Path × Channels × FileTree :=
  match channels.path? channel with
  | some path => (.ok path, channels, files)
  | none =>
      match channels.openDirectory host files with
      | (.error error, channels, files) => (.error error, channels, files)
      | (.ok directory, channels, files) =>
          let path := directory.join (Path.ofText channel.fileName)
          match files.discard host.directory path with
          | .error error => (.error error, channels, files)
          | .ok files =>
              (.ok path,
                { channels with reserved := channels.reserved ++ [(channel, path)] },
                files)

/-- The channels without the reservation of one. -/
def forget (channels : Channels) (channel : Channel) : Channels :=
  { channels with
    reserved := channels.reserved.filter fun entry => decide (entry.1 ≠ channel) }

@[simp] theorem path?_forget_self (channels : Channels) (channel : Channel) :
    (channels.forget channel).path? channel = none :=
  lookup_filter_self channel channels.reserved

theorem path?_forget_of_ne (channels : Channels) {channel other : Channel}
    (differs : other ≠ channel) :
    (channels.forget channel).path? other = channels.path? other :=
  lookup_filter_of_ne differs channels.reserved

/-- Read what the backend wrote to a channel, and remove it.  There is nothing if
it wrote nothing or if the channel is not reserved; afterwards it is not. -/
def consume (directory : Location) (channel : Channel) (channels : Channels)
    (files : FileTree) :
    Except SystemError (Option Bytes) × Channels × FileTree :=
  match channels.path? channel with
  | none => (.ok none, channels, files)
  | some path =>
      let contents := files.read directory path
      match files.discard directory path with
      | .error error => (.error error, channels.forget channel, files)
      | .ok files =>
          let data := match contents with
            | .ok data => .ok (some data)
            | .error error => if error.isMissing then .ok none else .error error
          (data, channels.forget channel, files)

/-- Remove the files of all reserved channels and then the private directory.
What cannot be removed stays. -/
def release (directory : Location) (channels : Channels) (files : FileTree) :
    FileTree :=
  let files := channels.reserved.foldl
    (fun files entry => (files.discard directory entry.2).toOption.getD files) files
  match channels.directory with
  | none => files
  | some path => files.removeDirectory directory path

end Channels

/-- A computation that reads channels; it knows the current directory. -/
abbrev ChannelReader :=
  ReaderT Location (ExceptT Failure (StateM (Channels × FileTree)))

namespace ChannelReader

/-- Read and remove what was written to a channel. -/
def consume (channel : Channel) : ChannelReader (Option Bytes) := do
  let directory ← read
  let (channels, files) ← get
  match channels.consume directory channel files with
  | (.ok data, state) => set state; return data
  | (.error error, state) => set state; throw (.transfer error)

/-- The text that was written to a channel, without blank characters around it.
Blank text counts as none. -/
def text (channel : Channel) : ChannelReader (Option String) := do
  match ← consume channel with
  | none => return none
  | some data =>
      match Text.decode data with
      | .ok text => return Text.stripped? text
      | .error error =>
          throw (.because .badData
            ("Backend wrote non UTF-8 data to " ++ channel.fileName) error.message)

end ChannelReader
end StatelessPgp
