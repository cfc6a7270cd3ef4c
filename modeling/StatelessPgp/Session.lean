import StatelessPgp.Channels

/-!
# Sessions of side channels

A session is the time from the making of channels to their release.  Operations on the
channels take turns with a backend, which writes files and makes directories at the
paths of reserved channels, and with others, which change files elsewhere.
-/

namespace StatelessPgp

open FileTree

/-- What happens in a session. -/
inductive Event where
  | reserve (channel : Channel)
  /-- The path of a channel is asked for. -/
  | path (channel : Channel)
  | consume (channel : Channel)
  /-- The channels are released. -/
  | drop
  /-- The backend writes the file of a reserved channel. -/
  | write (channel : Channel) (bytes : Bytes)
  /-- The backend makes a directory at the path of a reserved channel. -/
  | makeDirectory (channel : Channel)
  /-- Others change files elsewhere. -/
  | elsewhere
  deriving DecidableEq, Repr

/-- The channel that an event is about. -/
def Event.channel? : Event → Option Channel
  | .reserve channel | .path channel | .consume channel | .write channel _
  | .makeDirectory channel => some channel
  | .drop | .elsewhere => none

/-- What an event yields. -/
inductive Answer where
  | reserved (result : Except SystemError Path)
  | path (path : Option Path)
  | consumed (result : Except SystemError (Option Bytes))
  /-- Whether the backend could do what it attempted. -/
  | attempted (result : Except SystemError Unit)
  | done

structure Session where
  /-- The channels, until they are released. -/
  channels : Option Channels
  files : FileTree
  /-- What the files would be without the private directory. -/
  surroundings : FileTree

namespace Session

def start (parent : ScratchParent) (files : FileTree) : Session :=
  ⟨some (.new parent), files, files⟩

/-- The private directory, while there is one. -/
def directory? (session : Session) : Option Path :=
  session.channels.bind Channels.directory

def path? (session : Session) (channel : Channel) : Option Path :=
  session.channels.bind fun channels => channels.path? channel

/-- The entry that stands in the private directory for a channel. -/
def entryFor (base : Location) (session : Session) (channel : Channel) : Option Entry :=
  session.directory?.bind fun directory =>
    match session.files.resolveName base (directory.join (Path.ofText channel.fileName)) with
    | .ok location => session.files.get? location
    | .error _ => none

/-- Others have changed files, but neither the private directory nor what its path leads
through. -/
inductive Elsewhere (base : Location) (before after : Session) : Prop where
  | unopened (unopened : before.directory? = none) (same : after.channels = before.channels)
      (closed : after.surroundings.Closed)
      (all : after.files.SameEntries after.surroundings)
  | around (directory : Path) (place : Location)
      (opened : before.directory? = some directory)
      (same : after.channels = before.channels) (closed : after.surroundings.Closed)
      (led : before.surroundings.resolveName base directory = .ok place)
      (leads : after.surroundings.resolveName base directory = .ok place)
      (vacant : after.surroundings.get? place = none)
      (within : ∀ location, place <+: location →
        after.files.get? location = before.files.get? location)
      (beyond : ∀ location, ¬ place <+: location →
        after.files.get? location = after.surroundings.get? location)

/-- One event of a session with its answer. -/
inductive Step (host : Host) : Session → Event → Answer → Session → Prop where
  | reserve {channels later : Channels} {files left surroundings : FileTree}
      {channel : Channel} {result : Except SystemError Path}
      (reserves : channels.reserve host channel files = (result, later, left)) :
      Step host ⟨some channels, files, surroundings⟩ (.reserve channel) (.reserved result)
        ⟨some later, left, surroundings⟩
  | path {channels : Channels} {files surroundings : FileTree} (channel : Channel) :
      Step host ⟨some channels, files, surroundings⟩ (.path channel)
        (.path (channels.path? channel)) ⟨some channels, files, surroundings⟩
  | consume {channels later : Channels} {files left surroundings : FileTree}
      {channel : Channel} {result : Except SystemError (Option Bytes)}
      (consumes : channels.consume host.directory channel files = (result, later, left)) :
      Step host ⟨some channels, files, surroundings⟩ (.consume channel) (.consumed result)
        ⟨some later, left, surroundings⟩
  | drop {channels : Channels} {files surroundings : FileTree} :
      Step host ⟨some channels, files, surroundings⟩ .drop .done
        ⟨none, channels.release host.directory files, surroundings⟩
  | write {channels : Channels} {files surroundings : FileTree} {channel : Channel}
      {path : Path} (reserved : channels.path? channel = some path) (bytes : Bytes)
      {result : Except SystemError FileTree}
      (writes : files.write host.directory path bytes = result) :
      Step host ⟨some channels, files, surroundings⟩ (.write channel bytes)
        (.attempted (result.map fun _ => ()))
        ⟨some channels, result.toOption.getD files, surroundings⟩
  | makeDirectory {channels : Channels} {files surroundings : FileTree}
      {channel : Channel} {path : Path} (reserved : channels.path? channel = some path)
      {result : Except SystemError FileTree}
      (makes : (files.createDirectory host.directory path).map Prod.snd = result) :
      Step host ⟨some channels, files, surroundings⟩ (.makeDirectory channel)
        (.attempted (result.map fun _ => ()))
        ⟨some channels, result.toOption.getD files, surroundings⟩
  | elsewhere {before after : Session}
      (changed : Elsewhere host.directory before after) :
      Step host before .elsewhere .done after

/-- The events of a session so far with their answers, oldest first. -/
abbrev Trace := List (Event × Answer)

/-- The sessions that a trace leads to. -/
inductive History (host : Host) (first : Session) : Trace → Session → Prop where
  | start : History host first [] first
  | step {trace : Trace} {session next : Session} {event : Event} {answer : Answer}
      (history : History host first trace session)
      (step : Step host session event answer next) :
      History host first (trace ++ [(event, answer)]) next

/-- What was last written to the file of a channel when one more event has happened. -/
def written (channel : Channel) (last : Option Bytes) : Event → Answer → Option Bytes
  | .write other bytes, .attempted (.ok _) => if other = channel then some bytes else last
  | _, _ => last

/-- What the backend last wrote to the file of a channel. -/
def lastWritten (channel : Channel) (trace : Trace) : Option Bytes :=
  trace.foldl (fun last entry => written channel last entry.1 entry.2) none

end Session

end StatelessPgp
