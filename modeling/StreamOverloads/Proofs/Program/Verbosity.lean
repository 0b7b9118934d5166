import StreamOverloads.Program
import StreamOverloads.Proofs.FileStore.Runs
import StreamOverloads.Proofs.Options.Acceptance

/-
  What the verbose option changes.

  The option only counts where a call chooses what is logged.
  A session notes its whole configuration first; after that
  nothing but the paths in it counts. A call that is made
  again with the verbose option therefore does the same and
  says the same at the end.

  Key definitions include:
    * `Program.Invocation.withVerbose`

  Main declarations:
    * `Program.session_eq_of_same_paths`
    * `Program.run_withVerbose_changes_logs_only`
-/

------------------------------------------------------------
-- Sessions
------------------------------------------------------------

namespace StreamOverloads

namespace Program

variable {config other : Config}
variable {host : Host}
variable {outcome : Outcome Host Stats}

/- Sessions over the same paths differ in their first event. -/
theorem session_eq_of_same_paths
    (hInput : other.input = config.input)
    (hOutput : other.output = config.output)
    (host : Host) :
    session other host =
      { session config host with
        events :=
          .configured other ::
            (session config host).events.tail } := by
  rcases config with ⟨input, output, verbose⟩
  rcases other with ⟨input', output', verbose'⟩
  cases hInput
  cases hOutput
  rfl

/- What is reported of events is what is logged of them. -/
theorem report_of_events
    (filter otherFilter : Log.Filter)
    (events : List Log.Event) :
    report otherFilter { outcome with events := events } =
      { report filter outcome with
        logged :=
          (events.filter otherFilter.allows).map
            Log.Event.line } := by
  rfl

end Program

end StreamOverloads

------------------------------------------------------------
-- Calls With the Verbose Option
------------------------------------------------------------

namespace StreamOverloads

namespace Program

variable {invocation : Invocation}
variable {config : Config}

/- A call with the verbose option put before its arguments. -/
def Invocation.withVerbose
    (invocation : Invocation) : Invocation :=
  { invocation with
    arguments := Bytes.ofText "-v" :: invocation.arguments }

/-
  A call that is accepted without the verbose option is also
  accepted with it. It exits with the same code, leaves the
  same files and standard output behind and complains of the
  same, if at all.
-/
theorem run_withVerbose_changes_logs_only
    (hParse :
      Options.parse invocation.arguments = .ok config)
    (hQuiet : config.verbose = false)
    (host : Host) :
    Options.parse invocation.withVerbose.arguments =
        .ok { config with verbose := true } ∧
      (run invocation.withVerbose host).exitCode =
        (run invocation host).exitCode ∧
      (run invocation.withVerbose host).host.stdout =
        (run invocation host).host.stdout ∧
      (run invocation.withVerbose host).host.tree =
        (run invocation host).host.tree ∧
      (run invocation.withVerbose host).complaint =
        (run invocation host).complaint := by
  have hVerbose :
      Options.parse invocation.withVerbose.arguments =
        .ok { config with verbose := true } :=
    Options.parse_verboseLetter_cons hQuiet hParse
  -- The paths are the same, so only the first event is not.
  have hRun :
      ∃ logged,
        run invocation.withVerbose host =
          { run invocation host with logged := logged } := by
    simp only [run, hVerbose, hParse]
    rw [session_eq_of_same_paths rfl rfl host]
    exact
      ⟨_,
        report_of_events
          (Log.Filter.choose invocation.logFilter
            config.verbose)
          _ _⟩
  rcases hRun with ⟨logged, hRun⟩
  rw [hRun]
  exact ⟨hVerbose, rfl, rfl, rfl, rfl⟩

/- A call that logs nothing, as long as all goes well. -/
def sampleCall : Invocation where
  arguments :=
    [ Bytes.ofText "-i", Bytes.ofText "nodes.h",
      Bytes.ofText "-o", Bytes.ofText "gen/nodes.h" ]
  logFilter := none

theorem run_withVerbose_changes_logs_only_of_files :
    Options.parse sampleCall.arguments =
        .ok ⟨some "nodes.h", some "gen/nodes.h", false⟩ ∧
      (run sampleCall FileStore.sampleHost).logged = [] ∧
      (run sampleCall.withVerbose
            FileStore.sampleHost).logged ≠ [] ∧
      (run sampleCall.withVerbose
            FileStore.sampleHost).exitCode =
        (run sampleCall FileStore.sampleHost).exitCode ∧
      (run sampleCall.withVerbose
            FileStore.sampleHost).host.tree =
        (run sampleCall FileStore.sampleHost).host.tree ∧
      (run sampleCall.withVerbose
            FileStore.sampleHost).complaint =
        (run sampleCall FileStore.sampleHost).complaint := by
  have hParse :
      Options.parse sampleCall.arguments =
        .ok ⟨some "nodes.h", some "gen/nodes.h", false⟩ := by
    rfl
  have hSilent :
      (run sampleCall FileStore.sampleHost).logged = [] := by
    rfl
  have hLogged :
      (run sampleCall.withVerbose
            FileStore.sampleHost).logged ≠ [] := by
    decide
  rcases run_withVerbose_changes_logs_only hParse rfl
      FileStore.sampleHost with
    ⟨_, hExit, _, hTree, hComplaint⟩
  exact
    ⟨hParse, hSilent, hLogged, hExit, hTree, hComplaint⟩

end Program

end StreamOverloads
