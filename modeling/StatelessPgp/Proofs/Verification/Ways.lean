import StatelessPgp.Proofs.Operation.Contents
import StatelessPgp.Proofs.Text.Encoding
import StatelessPgp.Proofs.Verification.Report

/-!
# The ways of a report

Reports of verified signatures come on the standard output or by a side channel.  By a side
channel, the report is trimmed as a whole and may be missing, while on the standard output it is
read as it is.  Its lines are trimmed one by one in any case, so that the same records are read.
-/

namespace StatelessPgp

open FileTree

namespace Verification

open Text

theorem ofLine_trim (line : List Char) : ofLine (trim line) = ofLine line := by
  rw [ofLine, ofLine, trim_trim]

theorem parseAll_eq (text : String) : parseAll text = (trimmedLines text.toList).mapM ofLine := by
  have same : ofLine ∘ trim = ofLine := funext ofLine_trim
  rw [parseAll, trimmedLines, List.mapM_map, same]

/-- A report can be trimmed before it is read. -/
theorem parseAll_strip (text : String) : parseAll (strip text) = parseAll text := by
  rw [parseAll_eq, parseAll_eq, strip, String.toList_ofList, trimmedLines_trim]

theorem parseAll_of_stripped?_eq_none {text : String} (blank : stripped? text = none) :
    parseAll text = .ok [] := by
  rw [← parseAll_strip, strip, stripped?_eq_none blank]
  rfl

theorem parseAll_of_stripped?_eq_some {text inner : String} (found : stripped? text = some inner) :
    parseAll inner = parseAll text := by
  have same : inner = strip text := by
    rw [← String.toList_inj, (stripped?_eq_some found).1, strip, String.toList_ofList]
  rw [same, parseAll_strip]

end Verification

namespace Channels

variable {host : Host} {channels later : Channels} {channel other : Channel}
variable {files left : FileTree}

theorem path?_reserve_of_ne {result : Except SystemError Path} (differs : other ≠ channel)
    (reserves : channels.reserve host channel files = (result, later, left)) :
    later.path? other = channels.path? other := by
  unfold reserve at reserves
  split at reserves
  · cases reserves
    rfl
  · have kept := channels.reserved_openDirectory host files
    generalize channels.openDirectory host files = reached at kept reserves
    obtain ⟨error | directory, opened, made⟩ := reached
    · cases reserves
      rw [path?, kept, path?]
    · dsimp only at kept reserves
      split at reserves
      · cases reserves
        rw [path?, kept, path?]
      · cases reserves
        rw [path?_append_of_ne opened differs, path?, kept, path?]

theorem path?_consume_of_ne {base : Location} {result : Except SystemError (Option Bytes)}
    (differs : other ≠ channel)
    (consumes : channels.consume base channel files = (result, later, left)) :
    later.path? other = channels.path? other := by
  unfold consume at consumes
  split at consumes
  · cases consumes
    rfl
  · dsimp only at consumes
    split at consumes <;>
    · cases consumes
      exact path?_forget_of_ne channels differs

end Channels

namespace Operation

variable {operation : Operation} {host : Host} {config : Config} {settings : List Setting}
variable {input : Bytes} {world : World} {ready : Ready operation} {made : FileTree}
variable {conduct : Conduct}

theorem path?_reserveAll {options : List (String × Channel)} {draft reserved : Draft}
    {channels later : Channels} {files left : FileTree} {channel : Channel}
    (unused : channel ∉ options.map Prod.snd)
    (reserve : reserveAll host draft channels files options = (.ok reserved, later, left)) :
    later.path? channel = channels.path? channel := by
  induction options generalizing draft channels files with
  | nil =>
      cases reserve
      rfl
  | cons option rest hypothesis =>
      rw [List.map_cons, List.mem_cons, not_or] at unused
      obtain ⟨differs, unused⟩ := unused
      rw [reserveAll] at reserve
      split at reserve
      · cases reserve
      · next reserves =>
          rw [hypothesis unused reserve, Channels.path?_reserve_of_ne differs reserves]

/-- A channel that is none of the operation's stays unreserved. -/
theorem path?_of_prepare {channel : Channel} {files : FileTree}
    (unused : channel ∉ (operation.channelOptions settings).map Prod.snd)
    (prepared : operation.prepare host config settings input files = (.ok ready, made)) :
    ready.channels.path? channel = none := by
  obtain ⟨completed, reserved, channels, complete, reserve, rfl⟩ := prepare_ok prepared
  exact path?_reserveAll unused reserve

/-- An operation is made ready, and its backend is called and ends with status zero. -/
inductive Succeeds (operation : Operation) (host : Host) (config : Config)
    (settings : List Setting) (input : Bytes) (world : World) :
    Ready operation → FileTree → Conduct → Prop where
  | intro {ready : Ready operation} {made : FileTree} {call : Call}
      (prepared : operation.prepare host config settings input world.files = (.ok ready, made))
      (started : host.call ready.config ready.command ready.input made = .ok call)
      (exited : (host.backend call made).exit = some (.status 0)) :
      Succeeds operation host config settings input world ready made (host.backend call made)

namespace Succeeds

variable (succeeds : operation.Succeeds host config settings input world ready made conduct)
include succeeds

/-- Then the result is what is read from what the backend left. -/
theorem result_invoke : (operation.invoke host config settings input world).result =
    ((operation.finish conduct.output host.directory).run (ready.channels, conduct.files) :
      _ × _).1 := by
  obtain ⟨prepared, started, exited⟩ := succeeds
  have portable : ∀ binding ∈ ready.command.secrets, binding.isPortable = true := by
    rw [Host.call] at started
    split at started
    · cases started
    · next carried =>
        simp only [Host.hasNul, Bool.or_eq_true, not_or, Bool.not_eq_true,
          List.any_eq_false] at carried
        intro binding member
        simpa using carried.1.2 binding member
  have valid := Secrets.validate_of_portable portable
  obtain ⟨completed, executed⟩ : ∃ completed, ready.command.execute host ready.config ready.input
      { world with files := made } = ⟨_, .ok completed, _⟩ :=
    Command.execute_of_succeeded valid started exited
  rw [invoke, prepared]
  exact (Ready.run_of_ok executed).1

theorem owned (closed : world.files.Closed) :
    ready.channels.Owned host.directory world.files made := by
  obtain ⟨prepared, -, -⟩ := succeeds
  exact prepare_owned closed prepared

end Succeeds

/-- Read a report, with a message for one that is no text. -/
def readReport (message : String) (data : Bytes) : Except Failure (List Verification) :=
  match Text.decode data with
  | .ok text => Verification.parseAll text
  | .error error => .error (.because .badData message error.message)

theorem verificationsOf_eq (data : Bytes) :
    verificationsOf data = readReport "Backend wrote non UTF-8 verifications" data := by
  rw [verificationsOf, readReport]
  cases Text.decode data <;> rfl

section

variable {directory : Location} {channels : Channels} {files : FileTree} {data : Bytes}
variable {after : Channels × FileTree}

/-- The text of a report by a side channel is read as it would be on the standard output. -/
theorem readVerifications_of_data
    (consumed : channels.consume directory .verifications files = (.ok (some data), after)) :
    ((readVerifications directory).run (channels, files) : _ × _).1 =
      readReport "Backend wrote non UTF-8 data to verify-out" data := by
  rw [run_readVerifications consumed, Channel.textOf, readReport]
  dsimp only
  cases Text.decode data with
  | error error => rfl
  | ok text =>
      dsimp only [Except.bind]
      cases found : Text.stripped? text with
      | none => exact (Verification.parseAll_of_stripped?_eq_none found).symm
      | some inner => exact Verification.parseAll_of_stripped?_eq_some found

theorem readVerifications_of_unreserved (unreserved : channels.path? .verifications = none) :
    ((readVerifications directory).run (channels, files) : _ × _).1 = .ok [] := by
  have consumed : channels.consume directory .verifications files =
      (.ok none, channels, files) := by
    rw [Channels.consume, unreserved]
  rw [run_readVerifications consumed]
  rfl

theorem finish_decrypt (output : Bytes) (state : Channels × FileTree) :
    ((Operation.decrypt.finish output directory).run state : _ × _).1 =
      match ((readSessionKey directory).run state : _ × _) with
      | (.error failure, _) => .error failure
      | (.ok key, after) =>
          ((readVerifications directory).run after : _ × _).1.map fun verifications =>
            ⟨key, verifications⟩ := by
  rw [finish, ChannelReader.run_bind]
  rcases ((readSessionKey directory).run state : _ × _) with ⟨failure | key, after⟩
  · rfl
  · dsimp only
    rw [ChannelReader.run_bind]
    rcases ((readVerifications directory).run after : _ × _) with
      ⟨failure | verifications, last⟩ <;> rfl

end

/-- What is read when a backend succeeds and reports verified signatures with these bytes: on its
standard output, or in the file of a side channel.  A message is decrypted with whatever session
key is told, or none, and whatever else the backend leaves among the files. -/
inductive Reported (data : Bytes) : Except Failure (List Verification) → Prop where
  | verify {host : Host} {config : Config} {settings : List Setting} {input : Bytes}
      {world : World} {ready : Ready .verify} {made : FileTree} {conduct : Conduct}
      (succeeds : Succeeds .verify host config settings input world ready made conduct)
      (writes : conduct.output = data) :
      Reported data (Operation.verify.invoke host config settings input world).result
  | inlineVerify {host : Host} {config : Config} {settings : List Setting} {input : Bytes}
      {world : World} {ready : Ready .inlineVerify} {made : FileTree} {conduct : Conduct}
      (closed : world.files.Closed)
      (succeeds : Succeeds .inlineVerify host config settings input world ready made conduct)
      (writes : ready.channels.Holds host.directory conduct.files .verifications data) :
      Reported data (Operation.inlineVerify.invoke host config settings input world).result
  | decrypt {host : Host} {config : Config} {settings : List Setting} {input : Bytes}
      {world : World} {ready : Ready .decrypt} {made : FileTree} {conduct : Conduct}
      {key : Option SessionKey} (closed : world.files.Closed)
      (succeeds : Succeeds .decrypt host config settings input world ready made conduct)
      (left : conduct.files.Closed)
      (writes : ready.channels.Holds host.directory conduct.files .verifications data)
      (told : ((readSessionKey host.directory).run (ready.channels, conduct.files) : _ × _).1 =
        .ok key) :
      Reported data
        ((Operation.decrypt.invoke host config settings input world).result.map
          Decryption.verifications)

/-- Whichever way the bytes took, they are decoded and read line by line. -/
theorem Reported.eq {data : Bytes} {result : Except Failure (List Verification)}
    (reported : Reported data result) :
    ∃ message, result = readReport message data := by
  cases reported with
  | verify succeeds writes =>
      refine ⟨"Backend wrote non UTF-8 verifications", ?_⟩
      rw [succeeds.result_invoke, finish_verify, writes, verificationsOf_eq]
  | inlineVerify closed succeeds writes =>
      refine ⟨"Backend wrote non UTF-8 data to verify-out", ?_⟩
      obtain ⟨left, consumed⟩ := writes.consume fun _ => (succeeds.owned closed).getLast?_path
      rw [succeeds.result_invoke]
      exact readVerifications_of_data consumed
  | @decrypt host config settings input world ready made conduct key closed succeeds left writes
      told =>
      refine ⟨"Backend wrote non UTF-8 data to verify-out", ?_⟩
      have owned := succeeds.owned closed
      obtain ⟨⟨channels, files⟩, told⟩ : ∃ after,
          ((readSessionKey host.directory).run (ready.channels, conduct.files) : _ × _) =
            (.ok key, after) := ⟨_, Prod.ext told rfl⟩
      obtain ⟨found, consumed, -⟩ := readSessionKey_eq_ok told
      have kept : channels.path? .verifications = ready.channels.path? .verifications :=
        Channels.path?_consume_of_ne (by decide) consumed
      obtain ⟨later, finds⟩ := (writes.after_consume owned left (by decide) consumed).consume
        fun _ reserved => owned.getLast?_path (kept.symm.trans reserved)
      rw [succeeds.result_invoke, finish_decrypt, told, ← readVerifications_of_data finds]
      dsimp only
      cases ((readVerifications host.directory).run (channels, files) : _ × _).1 <;> rfl

end Operation

open Operation

/-- The same bytes are read as the same records, or fail for the same kind of reason, on the
standard output and by a side channel.  Where they are text, malformed lines are complained about
in the same words.  Without a certificate to check signatures against, decrypting yields no
records, whatever is written. -/
theorem reports_are_read_alike :
    (∀ data first second, Reported data first → Reported data second →
      first.mapError Failure.kind = second.mapError Failure.kind ∧
        ∀ text, Text.decode data = .ok text →
          first = Verification.parseAll text ∧ second = first) ∧
    ∀ host config settings input world ready made conduct,
      Operation.decrypt.Succeeds host config settings input world ready made conduct →
      settings.any isVerifyWith = false →
        (Operation.decrypt.invoke host config settings input world).result =
          ((readSessionKey host.directory).run (ready.channels, conduct.files) : _ × _).1.map
            fun key => ⟨key, []⟩ := by
  constructor
  · intro data first second one other
    obtain ⟨message, rfl⟩ := one.eq
    obtain ⟨note, rfl⟩ := other.eq
    rw [readReport, readReport]
    cases Text.decode data with
    | error error => exact ⟨rfl, nofun⟩
    | ok text =>
        refine ⟨rfl, ?_⟩
        rintro _ ⟨⟩
        exact ⟨rfl, rfl⟩
  · intro host config settings input world ready made conduct succeeds unchecked
    have unreserved : ready.channels.path? .verifications = none := by
      obtain ⟨prepared, -, -⟩ := succeeds
      refine path?_of_prepare ?_ prepared
      rw [channelOptions, unchecked]
      decide
    rw [succeeds.result_invoke, finish_decrypt]
    rcases told : ((readSessionKey host.directory).run (ready.channels, conduct.files) : _ × _) with
      ⟨failure | key, channels, files⟩
    · rfl
    · obtain ⟨found, consumed, -⟩ := readSessionKey_eq_ok told
      have kept : channels.path? .verifications = none :=
        (Channels.path?_consume_of_ne (by decide) consumed).trans unreserved
      dsimp only
      rw [readVerifications_of_unreserved kept]
      rfl

theorem report_is_read_alike_three_times :
    let scratch := [Path.ofText "tmp", Path.ofText "sop-scratch"]
    let report := "\n2020-02-29T23:59:59Z K C mode:text\r\n \n 2020-03-01T00:00:00Z K D\r\n"
    let host := { Host.bare .empty [] with
      backend := fun _ files => ⟨Text.encode report, [],
        if files.get? scratch = some .directory then
          files.set (scratch ++ [Path.ofText "verify-out"]) (.file (Text.encode report))
        else files, some (.status 0)⟩ }
    let world : World :=
      ⟨⟨[([Path.ofText "tmp"], .directory), ([Path.ofText "sop"], .program [])]⟩, []⟩
    let config := Config.new (Path.ofText "/sop")
    let verified := Operation.verify.invoke host config [.signatures [83], .cert [67]] [] world
    let inline := Operation.inlineVerify.invoke host config [.cert [67]] [] world
    let decrypted :=
      Operation.decrypt.invoke host config [.verifyWith [67], .key [75]] [] world
    let unchecked := Operation.decrypt.invoke host config [.key [75]] [] world
    verified.result = Verification.parseAll report ∧ inline.result = verified.result ∧
      decrypted.result.map Decryption.verifications = verified.result ∧
      unchecked.result = .ok ⟨none, []⟩ := by
  intro scratch report host world config verified inline decrypted unchecked
  have closed : world.files.Closed := closed_of_shallow (by simp [world, Path.ofText])
  have decoded : Text.decode (Text.encode report) = .ok report := Text.decode_encode report
  obtain ⟨alike, nothing⟩ := reports_are_read_alike
  have first : Reported (Text.encode report) verified.result := by
    let command : Command := ⟨"/sop", "verify", ["@ENV:SIGNATURE_0", "@ENV:CERT_0"],
      [⟨.signature, 0, [83]⟩, ⟨.cert, 0, [67]⟩]⟩
    have prepared : Operation.verify.prepare host config [.signatures [83], .cert [67]] []
        world.files = (.ok ⟨config, command, some [], .new .system⟩, world.files) := by
      dsimp only [host, world, config, command]
      rfl
    have started : host.call config command (some []) world.files =
        .ok ⟨command.arguments, host.environmentFor config command, [], []⟩ := by
      decide +kernel
    exact .verify (.intro prepared started rfl) rfl
  let directory := Path.ofText "/tmp/sop-scratch"
  let made := world.files.set scratch .directory
  have second : Reported (Text.encode report) inline.result := by
    let command : Command := ⟨"/sop", "inline-verify",
      ["@ENV:CERT_0", "--verifications-out=/tmp/sop-scratch/verify-out"], [⟨.cert, 0, [67]⟩]⟩
    let channels : Channels :=
      ⟨.system, some directory, [(.verifications, Path.ofText "/tmp/sop-scratch/verify-out")]⟩
    have prepared : Operation.inlineVerify.prepare host config [.cert [67]] [] world.files =
        (.ok ⟨config, command, some [], channels⟩, made) := by
      dsimp only [host, world, config, command, channels, directory, made, scratch]
      rfl
    have started : host.call config command (some []) made =
        .ok ⟨command.arguments, host.environmentFor config command, [], []⟩ := by
      decide +kernel
    exact .inlineVerify closed (.intro prepared started rfl) ⟨_, _, rfl, rfl⟩
  let file := scratch ++ [Path.ofText "verify-out"]
  have third : Reported (Text.encode report) (decrypted.result.map Decryption.verifications) := by
    let command : Command := ⟨"/sop", "decrypt", ["--verify-with=@ENV:VERIFY_WITH_0",
        "@ENV:KEY_0", "--session-key-out=/tmp/sop-scratch/session-key-out",
        "--verify-out=/tmp/sop-scratch/verify-out"],
      [⟨.verifyWith, 0, [67]⟩, ⟨.key, 0, [75]⟩]⟩
    let channels : Channels := ⟨.system, some directory,
      [(.sessionKey, Path.ofText "/tmp/sop-scratch/session-key-out"),
        (.verifications, Path.ofText "/tmp/sop-scratch/verify-out")]⟩
    have prepared : Operation.decrypt.prepare host config [.verifyWith [67], .key [75]] []
        world.files = (.ok ⟨config, command, some [], channels⟩, made) := by
      dsimp only [host, world, config, command, channels, directory, made, scratch]
      rfl
    have started : host.call config command (some []) made =
        .ok ⟨command.arguments, host.environmentFor config command, [], []⟩ := by
      decide +kernel
    have left : (made.set file (.file (Text.encode report))).Closed := by
      have listed : (made.set file (.file (Text.encode report))).entries =
          [(file, .file (Text.encode report)), (scratch, .directory),
            ([Path.ofText "tmp"], .directory), ([Path.ofText "sop"], .program [])] := rfl
      refine closed_of_entries fun entry member => ?_
      rw [listed] at member
      simp only [List.mem_cons, List.not_mem_nil, or_false] at member
      rcases member with rfl | rfl | rfl | rfl <;> exact .inl rfl
    exact .decrypt closed (.intro prepared started rfl) left ⟨_, _, rfl, rfl⟩ rfl
  have last : unchecked.result = .ok ⟨none, []⟩ := by
    let command : Command := ⟨"/sop", "decrypt",
      ["@ENV:KEY_0", "--session-key-out=/tmp/sop-scratch/session-key-out"], [⟨.key, 0, [75]⟩]⟩
    let channels : Channels := ⟨.system, some directory,
      [(.sessionKey, Path.ofText "/tmp/sop-scratch/session-key-out")]⟩
    have prepared : Operation.decrypt.prepare host config [.key [75]] [] world.files =
        (.ok ⟨config, command, some [], channels⟩, made) := by
      dsimp only [host, world, config, command, channels, directory, made, scratch]
      rfl
    have started : host.call config command (some []) made =
        .ok ⟨command.arguments, host.environmentFor config command, [], []⟩ := by
      decide +kernel
    exact nothing host config [.key [75]] [] world _ _ _ (.intro prepared started rfl) rfl
  obtain ⟨-, sameInline⟩ := alike _ _ _ first second
  obtain ⟨-, sameDecrypted⟩ := alike _ _ _ first third
  exact ⟨(sameInline report decoded).1, (sameInline report decoded).2,
    (sameDecrypted report decoded).2, last⟩

end StatelessPgp
