import StreamOverloads.Fault.SystemText

/-
  Why reading or writing went wrong.

  Key definitions include:
    * `StreamOverloads.FaultKind`
    * `StreamOverloads.Fault`
    * `StreamOverloads.Fault.message`
-/

------------------------------------------------------------
-- Kinds Of Fault
------------------------------------------------------------

namespace StreamOverloads

/- Kinds of fault that need not come from a system call. -/
inductive FaultKind where
  | notFound
  | permissionDenied
  | brokenPipe
  | alreadyExists
  | invalidData
  | unexpectedEnd
  | other
  deriving DecidableEq

/- What is said of a fault of which only the kind is known. -/
def FaultKind.description : FaultKind → String
  | notFound => "entity not found"
  | permissionDenied => "permission denied"
  | brokenPipe => "broken pipe"
  | alreadyExists => "entity already exists"
  | invalidData => "invalid data"
  | unexpectedEnd => "unexpected end of file"
  | other => "other error"

end StreamOverloads

------------------------------------------------------------
-- Faults
------------------------------------------------------------

namespace StreamOverloads

/-
  A fault is a number that a system call answered, a kind with
  a text of its own, a bare kind, or a file name that no
  system call takes because it holds a NUL.
-/
inductive Fault where
  | system (code : Nat)
  | described (kind : FaultKind) (text : String)
  | bare (kind : FaultKind)
  | nulInName
  deriving DecidableEq

namespace Fault

/- The text of a fault. -/
def message : Fault → String
  | system code =>
      systemText code ++ " (os error " ++ toString code ++ ")"
  | described _ text => text
  | bare kind => kind.description
  | nulInName =>
      "file name contained an unexpected NUL byte"

/- Nothing has the name, or the name is empty. -/
@[match_pattern] def missing : Fault := system 2

/- Something has the name already. -/
def occupied : Fault := system 17

/- Something that is no directory is used as one. -/
def notDirectory : Fault := system 20

/- A directory is used as a file. -/
def isDirectory : Fault := system 21

/- A name or a whole path is too long. -/
def nameTooLong : Fault := system 36

end Fault

end StreamOverloads
