import Mathlib.Logic.ExistsUnique
import StreamOverloads.Program
import StreamOverloads.Proofs.Config.Check
import StreamOverloads.Proofs.FileStore.Effects
import StreamOverloads.Proofs.FileTree.Writable
import StreamOverloads.Proofs.Options.Help

/-
  How a call of the tool can end.

  A call is refused for its arguments, rejected for its
  configuration, stopped where the input cannot be read or
  the output cannot be written, or it amends the header. It
  ends in exactly one of these ways, and each of them fixes
  the exit code, standard output and what becomes of the
  files.

  What makes a call end in one of the ways is told from the
  configuration, the files and standard input as they are
  before the call: what the input holds, whether the output
  path is writable, and whether help is asked for.

  Key definitions include:
    * `Program.Ending`
    * `Program.configuredInput`
    * `Program.OutputWritable`
    * `Program.EndsIn`
    * `Program.endingOf`

  Main declarations:
    * `Program.exists_endsIn_run`
    * `Program.eq_endingOf_of_endsIn`
    * `Program.existsUnique_endsIn_run`
-/

------------------------------------------------------------
-- Sessions
------------------------------------------------------------

namespace StreamOverloads

namespace Program

variable {invocation : Invocation}
variable {config : Config}
variable {host final : Host}
variable {failure : Failure}

/- A rejected configuration leaves the host alone. -/
theorem ending_session_of_check_error
    (hCheck : config.check = .error failure) :
    (session config host).ending =
      (.error failure, host) := by
  unfold session
  rw [Action.ending_note_bind]
  apply Action.ending_bind_of_error
  rw [Action.ending_onFailure, Action.ending_ofExcept,
    hCheck]

/- A session with an accepted configuration ends as its run. -/
theorem ending_session_of_check_ok
    (hCheck : config.check = .ok ())
    (host : Host) :
    (session config host).ending =
      ((FileStore.ofConfig config).run host).ending := by
  have hPassed :
      ((Action.ofExcept config.check).onFailure
          .configRejected host).ending =
        (.ok (), host) := by
    rw [Action.ending_onFailure, Action.ending_ofExcept,
      hCheck]
  unfold session
  rw [Action.ending_note_bind,
    Action.ending_bind_of_ok hPassed,
    Action.ending_onFailure]
  rfl

/- The exit code that a result is reported with. -/
def exitCode : Except Failure Stats → Nat
  | .ok _ => 0
  | .error failure => failure.exitCode

/- The ending of a session is reported. -/
theorem run_of_ending
    {result : Except Failure Stats}
    (hParse :
      Options.parse invocation.arguments = .ok config)
    (hEnding :
      (session config host).ending = (result, final)) :
    (run invocation host).exitCode = exitCode result ∧
      (run invocation host).host = final := by
  unfold run
  rw [hParse]
  refine ⟨?_, Outcome.state_of_ending hEnding⟩
  simp only [report, Outcome.result_of_ending hEnding]
  cases result with
  | error failure => rfl
  | ok stats => rfl

end Program

end StreamOverloads

------------------------------------------------------------
-- Ways To End
------------------------------------------------------------

namespace StreamOverloads

namespace Program

/- The ways in which a call can end. -/
inductive Ending where
  | argumentsRefused
  | configRejected
  | inputUnread
  | outputUnwritten
  | amended
  deriving DecidableEq

/- The bytes that a configuration asks to read. -/
def configuredInput
    (config : Config)
    (host : Host) : Except Fault Bytes :=
  match config.input with
  | some path => host.tree.read (Path.ofText path)
  | none => .ok host.stdin

/-
  The output that a configuration asks for can be written:
  it is standard output, or a path that is writable.
-/
def OutputWritable
    (config : Config)
    (tree : FileTree) : Prop :=
  ∀ path ∈ config.output, tree.Writable (Path.ofText path)

instance (config : Config) (tree : FileTree) :
    Decidable (OutputWritable config tree) :=
  inferInstanceAs
    (Decidable
      (∀ path ∈ config.output,
        tree.Writable (Path.ofText path)))

/-
  What makes a call end in one of the ways, and what it then
  reports and leaves behind.
-/
def EndsIn
    (invocation : Invocation)
    (host : Host)
    (report : Report) : Ending → Prop
  | .argumentsRefused =>
      ∃ refusal,
        Options.parse invocation.arguments =
            .error refusal ∧
          (refusal = .helpWanted ↔
            Options.AsksForHelp invocation.arguments) ∧
          report.host.tree = host.tree ∧
          if refusal = .helpWanted then
            report.exitCode = 0 ∧
              report.host.stdout =
                Bytes.ofText Options.helpText
          else
            report.exitCode = 2 ∧ report.host.stdout = []
  | .configRejected =>
      ∃ config failure,
        Options.parse invocation.arguments = .ok config ∧
          config.check = .error failure ∧
          report.exitCode = 1 ∧
          report.host.stdout = [] ∧
          report.host.tree = host.tree
  | .inputUnread =>
      ∃ config fault,
        Options.parse invocation.arguments = .ok config ∧
          config.check = .ok () ∧
          configuredInput config host = .error fault ∧
          report.exitCode = 2 ∧
          report.host.stdout = [] ∧
          report.host.tree = host.tree
  | .outputUnwritten =>
      ∃ config data,
        Options.parse invocation.arguments = .ok config ∧
          config.check = .ok () ∧
          configuredInput config host = .ok data ∧
          ¬ OutputWritable config host.tree ∧
          report.exitCode = 2 ∧
          report.host.stdout = [] ∧
          ∀ place,
            FileTree.SameFileAt place host.tree
              report.host.tree
  | .amended =>
      ∃ config data,
        Options.parse invocation.arguments = .ok config ∧
          config.check = .ok () ∧
          configuredInput config host = .ok data ∧
          OutputWritable config host.tree ∧
          report.exitCode = 0 ∧
          match config.output with
          | some path =>
              report.host.stdout = [] ∧
                report.host.tree.read (Path.ofText path) =
                  .ok (AmendedHeader.ofHeader data).toBytes
          | none =>
              report.host.stdout =
                  (AmendedHeader.ofHeader data).toBytes ∧
                report.host.tree = host.tree

/- The way in which a call ends. -/
def endingOf
    (invocation : Invocation)
    (host : Host) : Ending :=
  match Options.parse invocation.arguments with
  | .error _ => .argumentsRefused
  | .ok config =>
      match config.check with
      | .error _ => .configRejected
      | .ok _ =>
          match configuredInput config host with
          | .error _ => .inputUnread
          | .ok _ =>
              if OutputWritable config host.tree then
                .amended
              else
                .outputUnwritten

variable {invocation : Invocation}
variable {host : Host}
variable {report : Report}
variable {ending : Ending}

/- What makes a call end in a way excludes all others. -/
theorem eq_endingOf_of_endsIn
    (hEnds : EndsIn invocation host report ending) :
    ending = endingOf invocation host := by
  unfold endingOf
  cases ending with
  | argumentsRefused =>
      rcases hEnds with ⟨refusal, hParse, _⟩
      rw [hParse]
  | configRejected =>
      rcases hEnds with
        ⟨config, failure, hParse, hCheck, _⟩
      simp only [hParse, hCheck]
  | inputUnread =>
      rcases hEnds with
        ⟨config, fault, hParse, hCheck, hInput, _⟩
      simp only [hParse, hCheck, hInput]
  | outputUnwritten =>
      rcases hEnds with
        ⟨config, data, hParse, hCheck, hInput, hNot, _⟩
      simp only [hParse, hCheck, hInput, hNot, if_false]
  | amended =>
      rcases hEnds with
        ⟨config, data, hParse, hCheck, hInput, hWritable, _⟩
      simp only [hParse, hCheck, hInput, hWritable, if_true]

/- Only a rejected configuration exits with one. -/
theorem eq_configRejected_of_exitCode_eq_one
    (hEnds : EndsIn invocation host report ending)
    (hExit : report.exitCode = 1) :
    ending = .configRejected := by
  cases ending with
  | argumentsRefused =>
      rcases hEnds with ⟨refusal, _, _, _, hReport⟩
      by_cases hHelp : refusal = .helpWanted
      · rw [if_pos hHelp, hExit] at hReport
        cases hReport.1
      · rw [if_neg hHelp, hExit] at hReport
        cases hReport.1
  | configRejected => rfl
  | inputUnread =>
      rcases hEnds with ⟨_, _, _, _, _, hCode, _⟩
      rw [hExit] at hCode
      cases hCode
  | outputUnwritten =>
      rcases hEnds with ⟨_, _, _, _, _, _, hCode, _⟩
      rw [hExit] at hCode
      cases hCode
  | amended =>
      rcases hEnds with ⟨_, _, _, _, _, _, hCode, _⟩
      rw [hExit] at hCode
      cases hCode

end Program

end StreamOverloads

------------------------------------------------------------
-- How Calls End
------------------------------------------------------------

namespace StreamOverloads

namespace Program

variable {invocation : Invocation}
variable {config : Config}
variable {host : Host}
variable {data : Bytes}
variable {fault : Fault}

/- A host on which nothing was written yet. -/
def freshHost
    (tree : FileTree)
    (stdin : Bytes) : Host where
  tree := tree
  stdin := stdin
  stdout := []

theorem endsIn_argumentsRefused
    {refusal : Options.Refusal}
    (hParse :
      Options.parse invocation.arguments = .error refusal)
    (hStdout : host.stdout = []) :
    EndsIn invocation host (run invocation host)
      .argumentsRefused := by
  have hRun : run invocation host = refuse refusal host := by
    unfold run
    rw [hParse]
  have hHelp :
      refusal = .helpWanted ↔
        Options.AsksForHelp invocation.arguments := by
    rw [← Options.parse_eq_helpWanted_iff, hParse,
      Except.error.injEq]
  refine ⟨refusal, hParse, hHelp, ?_⟩
  rw [hRun]
  cases refusal with
  | helpWanted =>
      refine ⟨rfl, rfl, ?_⟩
      change host.stdout ++ _ = _
      rw [hStdout]
      rfl
  | unknown shown => exact ⟨rfl, rfl, hStdout⟩
  | missingValue setting => exact ⟨rfl, rfl, hStdout⟩
  | unexpectedValue switch shown =>
      exact ⟨rfl, rfl, hStdout⟩
  | repeated option => exact ⟨rfl, rfl, hStdout⟩
  | notText => exact ⟨rfl, rfl, hStdout⟩

theorem endsIn_configRejected
    {failure : Failure}
    (hParse :
      Options.parse invocation.arguments = .ok config)
    (hCheck : config.check = .error failure)
    (hStdout : host.stdout = []) :
    EndsIn invocation host (run invocation host)
      .configRejected := by
  rcases run_of_ending hParse
      (ending_session_of_check_error hCheck) with
    ⟨hExit, hHost⟩
  refine ⟨config, failure, hParse, hCheck, ?_, ?_, ?_⟩
  · rw [hExit, exitCode,
      Config.exitCode_of_check_eq_error hCheck]
  · rw [hHost, hStdout]
  · rw [hHost]

/- A store made for a configuration reads what it asks for. -/
theorem header_ofConfig
    (config : Config)
    (host : Host) :
    (FileStore.ofConfig config).header host =
      configuredInput config host := by
  rfl

/- A delivery succeeds exactly if the output is writable. -/
theorem result_delivery_ofConfig_iff :
    ((FileStore.ofConfig config).delivery data host).2 =
        .ok () ↔
      OutputWritable config host.tree := by
  unfold OutputWritable
  cases hOutput : config.output with
  | none =>
      rw [FileStore.delivery_of_stdout hOutput]
      simp
  | some path =>
      rw [FileStore.delivery_of_output hOutput,
        FileTree.result_write_eq_ok_iff]
      simp

theorem endsIn_inputUnread
    (hParse :
      Options.parse invocation.arguments = .ok config)
    (hCheck : config.check = .ok ())
    (hInput : configuredInput config host = .error fault)
    (hStdout : host.stdout = []) :
    EndsIn invocation host (run invocation host)
      .inputUnread := by
  have hHeader := hInput
  rw [← header_ofConfig] at hHeader
  have hEnding := ending_session_of_check_ok hCheck host
  rw [FileStore.ending_run_of_header_error hHeader]
    at hEnding
  rcases run_of_ending hParse hEnding with
    ⟨hExit, hHost⟩
  refine
    ⟨config, fault, hParse, hCheck, hInput, hExit, ?_, ?_⟩
  · rw [hHost, FileStore.stdout_afterRead, hStdout]
  · rw [hHost, FileStore.tree_afterRead]

theorem endsIn_outputUnwritten
    (hParse :
      Options.parse invocation.arguments = .ok config)
    (hCheck : config.check = .ok ())
    (hInput : configuredInput config host = .ok data)
    (hNot : ¬ OutputWritable config host.tree)
    (hStdout : host.stdout = []) :
    EndsIn invocation host (run invocation host)
      .outputUnwritten := by
  have hHeader := hInput
  rw [← header_ofConfig] at hHeader
  cases hDelivery :
      ((FileStore.ofConfig config).delivery
        (AmendedHeader.ofHeader data).toBytes host).2 with
  | ok done =>
      exact
        absurd (result_delivery_ofConfig_iff.mp hDelivery)
          hNot
  | error fault =>
      have hFailed := hDelivery
      rw [← FileStore.delivery_afterRead] at hFailed
      have hEnding := ending_session_of_check_ok hCheck host
      rw [FileStore.ending_run_of_header_ok hHeader, hFailed]
        at hEnding
      rcases run_of_ending hParse hEnding with
        ⟨hExit, hHost⟩
      rcases FileStore.delivery_of_error hFailed with
        ⟨hOutput, hFiles⟩
      rw [FileStore.tree_afterRead] at hFiles
      refine
        ⟨config, data, hParse, hCheck, hInput, hNot, hExit,
          ?_, ?_⟩
      · rw [hHost, hOutput, FileStore.stdout_afterRead,
          hStdout]
      · rw [hHost]
        exact hFiles

theorem endsIn_amended
    (hParse :
      Options.parse invocation.arguments = .ok config)
    (hCheck : config.check = .ok ())
    (hInput : configuredInput config host = .ok data)
    (hWritable : OutputWritable config host.tree)
    (hStdout : host.stdout = []) :
    EndsIn invocation host (run invocation host)
      .amended := by
  have hHeader := hInput
  rw [← header_ofConfig] at hHeader
  have hDone :
      ((FileStore.ofConfig config).delivery
          (AmendedHeader.ofHeader data).toBytes host).2 =
        .ok () :=
    result_delivery_ofConfig_iff.mpr hWritable
  rw [← FileStore.delivery_afterRead] at hDone
  have hEnding := ending_session_of_check_ok hCheck host
  rw [FileStore.ending_run_of_header_ok hHeader, hDone]
    at hEnding
  rcases run_of_ending hParse hEnding with
    ⟨hExit, hHost⟩
  refine
    ⟨config, data, hParse, hCheck, hInput, hWritable, hExit,
      ?_⟩
  rw [hHost]
  cases hOutput : config.output with
  | some path =>
      have hFile :
          (FileStore.ofConfig config).output =
            some path :=
        hOutput
      rw [FileStore.delivery_of_output hFile] at hDone ⊢
      refine ⟨?_, FileTree.read_write_of_ok hDone⟩
      rw [FileStore.stdout_afterRead, hStdout]
  | none =>
      have hStream :
          (FileStore.ofConfig config).output = none :=
        hOutput
      rw [FileStore.delivery_of_stdout hStream]
      simp only [FileStore.stdout_afterRead, hStdout,
        FileStore.tree_afterRead, List.nil_append, and_self]

/-
  Arguments, configuration, input and output decide, in this
  order, how a call ends.
-/
theorem exists_endsIn_run
    (invocation : Invocation)
    (hStdout : host.stdout = []) :
    ∃ ending,
      EndsIn invocation host (run invocation host)
        ending := by
  cases hParse : Options.parse invocation.arguments with
  | error refusal =>
      exact ⟨_, endsIn_argumentsRefused hParse hStdout⟩
  | ok config =>
      cases hCheck : config.check with
      | error failure =>
          exact
            ⟨_, endsIn_configRejected hParse hCheck hStdout⟩
      | ok done =>
          cases hInput : configuredInput config host with
          | error fault =>
              exact
                ⟨_, endsIn_inputUnread hParse hCheck hInput
                  hStdout⟩
          | ok data =>
              by_cases hWritable :
                  OutputWritable config host.tree
              · exact
                  ⟨_, endsIn_amended hParse hCheck hInput
                    hWritable hStdout⟩
              · exact
                  ⟨_, endsIn_outputUnwritten hParse hCheck
                    hInput hWritable hStdout⟩

/-
  A call ends in exactly one way, whatever its arguments, the
  files and standard input are. It exits with one only if its
  configuration is rejected.
-/
theorem existsUnique_endsIn_run
    (invocation : Invocation)
    (tree : FileTree)
    (stdin : Bytes) :
    (∃! ending,
        EndsIn invocation (freshHost tree stdin)
          (run invocation (freshHost tree stdin))
          ending) ∧
      ((run invocation (freshHost tree stdin)).exitCode =
          1 →
        EndsIn invocation (freshHost tree stdin)
          (run invocation (freshHost tree stdin))
          .configRejected) := by
  have hStdout : (freshHost tree stdin).stdout = [] := by
    rfl
  rcases exists_endsIn_run invocation hStdout with
    ⟨ending, hEnds⟩
  constructor
  · refine ⟨ending, hEnds, ?_⟩
    intro other hOther
    rw [eq_endingOf_of_endsIn hOther,
      eq_endingOf_of_endsIn hEnds]
  · intro hExit
    rw [← eq_configRejected_of_exitCode_eq_one hEnds hExit]
    exact hEnds

/- A call that amends the sample header into a file. -/
def callWithOutput
    (output : String) : Invocation where
  arguments :=
    [ Bytes.ofText "-i", Bytes.ofText "nodes.h",
      Bytes.ofText "-o", Bytes.ofText output ]
  logFilter := none

/-
  The header is written below a new directory, and it is not
  written to a path that asks for a directory.
-/
theorem existsUnique_endsIn_run_of_two_outputs :
    EndsIn (callWithOutput "gen/nodes.h")
        FileStore.sampleHost
        (run (callWithOutput "gen/nodes.h")
          FileStore.sampleHost)
        .amended ∧
      EndsIn (callWithOutput "gen/new/")
        FileStore.sampleHost
        (run (callWithOutput "gen/new/")
          FileStore.sampleHost)
        .outputUnwritten := by
  have hHost :
      freshHost FileStore.sampleHost.tree [] =
        FileStore.sampleHost := by
    rfl
  have hAmended :
      endingOf (callWithOutput "gen/nodes.h")
          FileStore.sampleHost =
        .amended := by
    decide
  have hUnwritten :
      endingOf (callWithOutput "gen/new/")
          FileStore.sampleHost =
        .outputUnwritten := by
    decide
  rcases existsUnique_endsIn_run
      (callWithOutput "gen/nodes.h")
      FileStore.sampleHost.tree [] with
    ⟨⟨below, hBelow, _⟩, _⟩
  rcases existsUnique_endsIn_run
      (callWithOutput "gen/new/")
      FileStore.sampleHost.tree [] with
    ⟨⟨slash, hSlash, _⟩, _⟩
  rw [hHost] at hBelow hSlash
  have hFirst := eq_endingOf_of_endsIn hBelow
  have hSecond := eq_endingOf_of_endsIn hSlash
  rw [hAmended] at hFirst
  rw [hUnwritten] at hSecond
  subst hFirst hSecond
  exact ⟨hBelow, hSlash⟩

end Program

end StreamOverloads
