import StreamOverloads.Fault
import StreamOverloads.Text.Quoted

/-
  Why a run of the tool fails, and how it says so.

  Key definitions include:
    * `StreamOverloads.Failure`
    * `StreamOverloads.Failure.message`
    * `StreamOverloads.Failure.userMessage`
    * `StreamOverloads.Failure.exitCode`
-/

------------------------------------------------------------
-- Failures
------------------------------------------------------------

namespace StreamOverloads

/-
  A failure is a fault of reading or writing, a configuration
  that makes no sense as a whole, or one value in it that is
  not acceptable.
-/
inductive Failure where
  | io (fault : Fault)
  | configuration (text : String)
  | invalidValue (field value reason : String)
  deriving DecidableEq

namespace Failure

/- The text for the log. -/
def message : Failure → String
  | io fault => "IO error: " ++ fault.message
  | configuration text => "Configuration error: " ++ text
  | invalidValue field value reason =>
      "Invalid value for '" ++ field ++ "' (" ++
        Text.quote value ++ "): " ++ reason

/- The text for the user. -/
def userMessage : Failure → String
  | io fault =>
      "Could not read or write the header: " ++ fault.message
  | configuration text => "Invalid configuration: " ++ text
  | invalidValue field _ reason =>
      "Invalid --" ++ field ++ ": " ++ reason

/-
  The exit code of a run that ends with the failure: two for a
  fault, one for a bad configuration.
-/
def exitCode : Failure → Nat
  | io _ => 2
  | configuration _ => 1
  | invalidValue _ _ _ => 1

end Failure

end StreamOverloads
