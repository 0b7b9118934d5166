import StreamOverloads.Failure
import StreamOverloads.Path

/-
  The configuration of a run, and when it is acceptable.

  A configured path is neither empty nor holds a NUL, and the
  input and the output are not one path. The first check that
  fails is the one that is reported.

  Key definitions include:
    * `StreamOverloads.Config`
    * `StreamOverloads.Config.checkPath`
    * `StreamOverloads.Config.checkDistinct`
    * `StreamOverloads.Config.check`
-/

------------------------------------------------------------
-- Configurations
------------------------------------------------------------

namespace StreamOverloads

/-
  Where the header is read from and written to, standard input
  and standard output where nothing is given, and whether the
  run tells what it does.
-/
structure Config where
  input : Option String
  output : Option String
  verbose : Bool
  deriving DecidableEq

namespace Config

/- The text of a configuration in the log. -/
def description
    (config : Config) : String :=
  "CliConfig \x7b input: " ++
    Text.quoteOptional config.input ++ ", output: " ++
    Text.quoteOptional config.output ++ ", verbose: " ++
    toString config.verbose ++ " \x7d"

end Config

end StreamOverloads

------------------------------------------------------------
-- Checks
------------------------------------------------------------

namespace StreamOverloads

namespace Config

/- Why an empty path is refused. -/
def emptyReason : String := "Path cannot be empty"

/- Why a path with a NUL is refused. -/
def nulReason : String := "Path contains null bytes"

/- Check one path; `field` is the setting that it is for. -/
def checkPath
    (field path : String) : Except Failure Unit :=
  if path = "" then
    .error (.invalidValue field path emptyReason)
  else if '\x00' ∈ path.toList then
    .error (.invalidValue field path nulReason)
  else
    .ok ()

/- Check a path that may be missing. -/
def checkOptionalPath
    (field : String) :
    Option String → Except Failure Unit
  | some path => checkPath field path
  | none => .ok ()

/- Check that the input and the output are not one path. -/
def checkDistinct :
    Option String → Option String → Except Failure Unit
  | some input, some output =>
      if Path.SameComponents input output then
        .error (.configuration
          ("input and output both name '" ++ input ++ "'"))
      else
        .ok ()
  | _, _ => .ok ()

/- Check a configuration: each path, then both together. -/
def check
    (config : Config) : Except Failure Unit := do
  checkOptionalPath "input" config.input
  checkOptionalPath "output" config.output
  checkDistinct config.input config.output

end Config

end StreamOverloads
