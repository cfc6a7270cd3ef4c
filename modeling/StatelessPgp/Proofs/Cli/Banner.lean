import StatelessPgp.Proofs.Cli.Launch
import StatelessPgp.Proofs.Text.Cuts
import StatelessPgp.Proofs.Text.Lines

/-!
# Banners

A backend answers the question for its version with a line of its name and version.  Two runs are
made to print that line: one for the part before its last space and one for the part behind it.
The parts are those of a line with a space, which is printed as it is.  A line without one is taken
for the name and for the version, and is printed twice.
-/

namespace StatelessPgp

namespace VersionQuery

variable {host : Host} {config : Config} {data : Bytes} {world between after : World}

/-- The first line of the text that a backend wrote, with nothing blank around either. -/
def banner (data : Bytes) : String :=
  String.ofList
    (Text.trim ((Text.trim (Text.decodeLossy data).toList).takeWhile (· != '\n')))

theorem firstLine_eq (text : String) :
    firstLine text = String.ofList (Text.trim (text.toList.takeWhile (· != '\n'))) := by
  obtain ⟨pieces, cut⟩ := Text.exists_splitAtLineFeeds_eq text.toList
  rw [firstLine, Text.lines, cut]
  cases pieces with
  | nil =>
      cases text.toList.takeWhile (· != '\n') with
      | nil => rfl
      | cons => rfl
  | cons => exact congrArg String.ofList (Text.trim_dropCarriageReturn _)

theorem firstLine_strip (data : Bytes) :
    firstLine (Text.strip (Text.decodeLossy data)) = banner data := by
  rw [firstLine_eq, Text.strip, String.toList_ofList, banner]

/-- The parts of a line with a space are those around its last one. -/
theorem parts_of_spaced {line : String} (spaced : ' ' ∈ line.toList) :
    line = nameOf line ++ " " ++ versionOf line ∧ ' ' ∉ (versionOf line).toList := by
  obtain ⟨name, version, whole, last⟩ := Text.exists_last_of_mem spaced
  have cut := Text.cutLast_eq_some_iff.2 ⟨whole, last⟩
  rw [nameOf, versionOf, cut]
  refine ⟨String.toList_inj.1 ?_, by rwa [String.toList_ofList]⟩
  simpa using whole

theorem parts_of_unspaced {line : String} (unspaced : ' ' ∉ line.toList) :
    nameOf line = line ∧ versionOf line = line := by
  rw [nameOf, versionOf, Text.cutLast_eq_none_iff.2 unspaced]
  exact ⟨rfl, rfl⟩

/-- Joining its parts yields the line again just if it has a space. -/
theorem join_parts_eq_iff (line : String) :
    nameOf line ++ " " ++ versionOf line = line ↔ ' ' ∈ line.toList := by
  constructor
  · intro joined
    rw [← joined]
    simp
  · exact fun spaced => (parts_of_spaced spaced).1.symm

/-- Asked for its version, the backend writes some data and ends with status zero.  The worlds are
those before and after its run. -/
inductive Replies (host : Host) (config : Config) (data : Bytes) (world : World) : World → Prop where
  | of_call {call : Call}
      (started : host.call config (inquiry config "version" []) none world.files = .ok call)
      (writes : (host.backend call world.files).output = data)
      (succeeds : (host.backend call world.files).exit = some (.status 0)) :
      Replies host config data world ⟨(host.backend call world.files).files, call :: world.calls⟩

theorem Replies.inquire_eq (replies : Replies host config data world after) :
    inquire host config "version" [] world = ⟨[], .ok (Text.decodeLossy data), after⟩ := by
  cases replies with
  | of_call started writes succeeds =>
      obtain ⟨completed, executed⟩ := Command.execute_of_succeeded rfl started succeeds
      rw [inquire, executed, writes]
      rfl

theorem Replies.name_eq (replies : Replies host config data world after) :
    name.ask host config world = ⟨[], .ok (nameOf (banner data)), after⟩ := by
  rw [ask, option?, Option.toList_none, replies.inquire_eq, ← firstLine_strip]
  rfl

theorem Replies.version_eq (replies : Replies host config data world after) :
    version.ask host config world = ⟨[], .ok (versionOf (banner data)), after⟩ := by
  rw [ask, option?, Option.toList_none, replies.inquire_eq, ← firstLine_strip]
  rfl

theorem Replies.askBanner_eq (first : Replies host config data world between)
    (second : Replies host config data between after) :
    askBanner host config world =
      ⟨[], .ok (nameOf (banner data) ++ " " ++ versionOf (banner data)), after⟩ := by
  have named := first.name_eq
  rw [askBanner_of_ok (by rw [named]), named, second.version_eq]
  rfl

end VersionQuery

namespace Cli

open VersionQuery

theorem inLines_singleton (text : String) : inLines [text] = text ++ "\n" := by
  simp [inLines, String.join]

/-- A banner that could be put together is printed in a line of its own. -/
theorem ofResult_perform_banner {host : Host} {config : Config} {world after : World}
    {printed : String} (input : Bytes)
    (asked : askBanner host config world = ⟨[], .ok printed, after⟩) :
    Outcome.ofResult ((Request.inquire (.version none)).perform host config input world) =
      ⟨0, Text.encode (printed ++ "\n"), [], after⟩ := by
  rw [Request.perform, Question.ask, asked, ← inLines_singleton]
  rfl

/-- A backend that writes the same data on both runs and succeeds: a banner with a space is cut at
its last space and printed as it is.  One without any is printed twice, with a space between. -/
theorem spaced_banners_are_relayed {host : Host} {words : List Bytes} {data : Bytes}
    {world between after : World} {invocation : Invocation} (input : Bytes)
    (parsed : Invocation.parse host.lookup words = .ok invocation)
    (asked : invocation.request = .inquire (.version none))
    (first : Replies host invocation.config data world between)
    (second : Replies host invocation.config data between after) :
    let line := banner data
    ∃ program number,
      (name.ask host invocation.config world).result = .ok program ∧
        (version.ask host invocation.config between).result = .ok number ∧
        Outcome.ofWords host words input world =
          ⟨0, Text.encode (program ++ " " ++ number ++ "\n"), [], after⟩ ∧
        (program ++ " " ++ number = line ↔ ' ' ∈ line.toList) ∧
        (' ' ∈ line.toList ∧ ' ' ∉ number.toList ∨
          ' ' ∉ line.toList ∧ program = line ∧ number = line) := by
  intro line
  have printed := ofResult_perform_banner input (first.askBanner_eq second)
  rw [← asked, ← Outcome.ofWords_of_parsed parsed] at printed
  refine ⟨nameOf line, versionOf line, congrArg Run.result first.name_eq,
    congrArg Run.result second.version_eq, printed, join_parts_eq_iff line, ?_⟩
  by_cases spaced : ' ' ∈ line.toList
  · exact .inl ⟨spaced, (parts_of_spaced spaced).2⟩
  · exact .inr ⟨spaced, parts_of_unspaced spaced⟩

/-- A backend that names itself with one word and no version. -/
theorem lone_word_is_printed_twice :
    let data := Text.encode "single"
    let host := { Host.bare .empty [] with
      backend := fun _ files => ⟨data, [], files, some (.status 0)⟩ }
    let words := ["--backend", "/sop", "version"].map Text.encode
    let config := Config.new (Path.ofText "/sop")
    let call : Call := ⟨["version"], .empty, [], []⟩
    let files : FileTree := ⟨[([Path.ofText "sop"], .program [])]⟩
    Invocation.parse host.lookup words = .ok ⟨config, .inquire (.version none)⟩ ∧
      Replies host config data ⟨files, []⟩ ⟨files, [call]⟩ ∧
      Replies host config data ⟨files, [call]⟩ ⟨files, [call, call]⟩ ∧
      banner data = "single" ∧
      (Outcome.ofWords host words [] ⟨files, []⟩).status = 0 ∧
      (Outcome.ofWords host words [] ⟨files, []⟩).output = Text.encode "single single\n" := by
  intro data host words config call files
  have parsed : Invocation.parse host.lookup words =
      .ok ⟨config, .inquire (.version none)⟩ := by
    decide +kernel
  have started : host.call config (inquiry config "version" []) none files = .ok call := by
    decide +kernel
  have first : Replies host config data ⟨files, []⟩ ⟨files, [call]⟩ := .of_call started rfl rfl
  have second : Replies host config data ⟨files, [call]⟩ ⟨files, [call, call]⟩ :=
    .of_call started rfl rfl
  have line : banner data = "single" := by decide +kernel
  obtain ⟨program, number, -, -, printed, -, parts⟩ :=
    spaced_banners_are_relayed [] parsed rfl first second
  rw [line] at parts
  rcases parts with ⟨spaced, -⟩ | ⟨-, rfl, rfl⟩
  · exact absurd spaced (by decide)
  · exact ⟨parsed, first, second, line, congrArg Outcome.status printed,
      congrArg Outcome.output printed⟩

end Cli
end StatelessPgp
