import StreamOverloads.Log.Filter
import StreamOverloads.Options
import StreamOverloads.Store.Files

/-
  The whole tool, from its arguments to what it leaves behind.

  Key definitions include:
    * `StreamOverloads.Program.Invocation`
    * `StreamOverloads.Program.Invocation.config?`
    * `StreamOverloads.Program.Report`
    * `StreamOverloads.Program.session`
    * `StreamOverloads.Program.run`
-/

------------------------------------------------------------
-- Invocations And Reports
------------------------------------------------------------

namespace StreamOverloads

namespace Program

/- How the tool is called. -/
structure Invocation where
  arguments : List Bytes
  logFilter : Option String
  deriving DecidableEq

/- The configuration that a call asks for, if it passes. -/
def Invocation.config?
    (invocation : Invocation) : Option Config :=
  match Options.parse invocation.arguments with
  | .error _ => none
  | .ok config =>
      match config.check with
      | .error _ => none
      | .ok _ => some config

/- What a call leaves behind. -/
structure Report where
  exitCode : Nat
  logged : List String
  complaint : Option String
  host : Host
  deriving DecidableEq

/- All that a call writes to standard error, line by line. -/
def Report.stderr
    (report : Report) : List String :=
  (report.logged ++ report.complaint.toList).flatMap
    fun text =>
      (text.toList.splitOn '\n').map String.ofList

end Program

end StreamOverloads

------------------------------------------------------------
-- Running
------------------------------------------------------------

namespace StreamOverloads

namespace Program

/- Check a configuration and amend the header it names. -/
def session
    (config : Config) : Action Host Stats := do
  Action.note (.configured config)
  (Action.ofExcept config.check).onFailure .configRejected
  (Stages.ofStore
    (FileStore.ofConfig config).store).run.onFailure .failed

/- How the name of the tool stands before a complaint. -/
def complain
    (failure : Failure) : String :=
  "add-compress-methods: " ++ failure.userMessage

/- Report on the end of a session. -/
def report
    (filter : Log.Filter)
    (outcome : Outcome Host Stats) : Report where
  exitCode :=
    match outcome.result with
    | .ok _ => 0
    | .error failure => failure.exitCode
  logged :=
    (outcome.events.filter filter.allows).map Log.Event.line
  complaint :=
    match outcome.result with
    | .ok _ => none
    | .error failure => some (complain failure)
  host := outcome.state

/-
  Report on arguments that make no configuration. Help goes to
  standard output, everything else to standard error.
-/
def refuse
    (refusal : Options.Refusal)
    (host : Host) : Report :=
  match refusal with
  | .helpWanted =>
      { exitCode := refusal.exitCode
        logged := []
        complaint := none
        host :=
          { host with
            stdout :=
              host.stdout ++ Bytes.ofText refusal.message } }
  | _ =>
      { exitCode := refusal.exitCode
        logged := []
        complaint := some refusal.message
        host := host }

/- Run the tool. -/
def run
    (invocation : Invocation)
    (host : Host) : Report :=
  match Options.parse invocation.arguments with
  | .error refusal => refuse refusal host
  | .ok config =>
      report
        (Log.Filter.choose invocation.logFilter config.verbose)
        (session config host)

end Program

end StreamOverloads
