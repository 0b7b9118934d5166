import StreamOverloads.AmendedHeader
import StreamOverloads.Config

/-
  What a run notes down while it works.

  Each event has a level of importance, a target that says
  which part of the tool it comes from, and a text.

  Key definitions include:
    * `StreamOverloads.Log.Level`
    * `StreamOverloads.Log.Event`
    * `StreamOverloads.Log.Event.line`
-/

------------------------------------------------------------
-- Levels
------------------------------------------------------------

namespace StreamOverloads

namespace Log

/- Levels of importance, the most important one first. -/
inductive Level where
  | error
  | warn
  | info
  | debug
  | trace
  deriving DecidableEq

namespace Level

/- The place of a level among the others. -/
def rank : Level → Nat
  | error => 1
  | warn => 2
  | info => 3
  | debug => 4
  | trace => 5

/- The word that stands before the text of an event. -/
def label : Level → String
  | error => "ERROR"
  | warn => "WARN"
  | info => "INFO"
  | debug => "DEBUG"
  | trace => "TRACE"

end Level

end Log

end StreamOverloads

------------------------------------------------------------
-- Events
------------------------------------------------------------

namespace StreamOverloads

namespace Log

/- What can happen in a run. -/
inductive Event where
  | configured (config : Config)
  | configRejected (failure : Failure)
  | started
  | readingFile (path : String)
  | readingInput
  | bytesRead (count : Nat)
  | linesDivided (count : Nat)
  | expanded (decl : Declaration) (lineNumber : Nat)
  | declarationsExpanded (count : Nat)
  | writing (count : Nat)
  | fileWritten (path : String)
  | completed (stats : Stats)
  | failed (failure : Failure)
  deriving DecidableEq

namespace Event

/- The part of the tool that an event comes from. -/
def target : Event → String
  | configured _ => "add_compress_methods"
  | configRejected _ => "add_compress_methods"
  | started => "add_compress_methods::core::engine"
  | readingFile _ => "add_compress_methods::config::cli"
  | readingInput => "add_compress_methods::config::cli"
  | bytesRead _ => "add_compress_methods::core::pipeline"
  | linesDivided _ => "add_compress_methods::core::engine"
  | expanded _ _ => "add_compress_methods::core::rewriter"
  | declarationsExpanded _ =>
      "add_compress_methods::core::engine"
  | writing _ => "add_compress_methods::core::pipeline"
  | fileWritten _ => "add_compress_methods::config::cli"
  | completed _ => "add_compress_methods::core::engine"
  | failed _ => "add_compress_methods"

/- How important an event is. -/
def level : Event → Level
  | configRejected _ => .error
  | failed _ => .error
  | completed _ => .info
  | expanded _ _ => .trace
  | _ => .debug

/- The text of an event. -/
def text : Event → String
  | configured config =>
      "CLI config: " ++ config.description
  | configRejected failure =>
      "Configuration validation failed: " ++ failure.message
  | started => "Starting header rewrite"
  | readingFile path => "Reading header from " ++ path
  | readingInput => "Reading header from stdin"
  | bytesRead count =>
      "Read " ++ toString count ++ " bytes of header input"
  | linesDivided count =>
      "Extracted " ++ toString count ++ " lines"
  | expanded decl lineNumber =>
      "Expanded " ++ decl.name ++ " declaration at line " ++
        toString lineNumber
  | declarationsExpanded count =>
      "Expanded " ++ toString count ++
        " streamTo declarations"
  | writing count =>
      "Writing " ++ toString count ++
        " bytes of rewritten header"
  | fileWritten path => "Header written to " ++ path
  | completed stats =>
      "Header rewrite completed lines_read=" ++
        toString stats.linesRead ++
        " declarations_expanded=" ++
        toString stats.declarationsExpanded ++
        " lines_written=" ++ toString stats.linesWritten
  | failed failure =>
      "Header rewrite failed: " ++ failure.message

/- An event as it is logged. -/
def line
    (event : Event) : String :=
  event.level.label ++ " " ++ event.text

end Event

end Log

end StreamOverloads
