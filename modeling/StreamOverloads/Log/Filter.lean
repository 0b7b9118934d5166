import StreamOverloads.Log.Event

/-
  Which events are logged.

  A filter is a list of directives between commas. A directive
  gives the least important level that is still logged for the
  targets that start with its own target. Where several
  directives speak of one target, the longest one decides, and
  of two equally long ones the later.

  Key definitions include:
    * `StreamOverloads.Log.Directive.parse?`
    * `StreamOverloads.Log.Filter.parse?`
    * `StreamOverloads.Log.Filter.allows`
    * `StreamOverloads.Log.Filter.choose`
-/

------------------------------------------------------------
-- Thresholds
------------------------------------------------------------

namespace StreamOverloads

namespace Log

/- The least important level that is logged, if any is. -/
abbrev Threshold : Type := Option Level

namespace Threshold

/- Whether a level is logged. -/
def admits
    (threshold : Threshold)
    (level : Level) : Bool :=
  match threshold with
  | none => false
  | some least => decide (level.rank ≤ least.rank)

/- The names of thresholds, in lower case. -/
def names : List (String × Threshold) :=
  [ ("off", none),
    ("error", some .error),
    ("warn", some .warn),
    ("info", some .info),
    ("debug", some .debug),
    ("trace", some .trace) ]

/- The number that decimal digits write, if all are digits. -/
def number?
    (digits : List Char) : Option Nat :=
  if digits ≠ [] ∧ digits.all Char.isDigit then
    some (digits.foldl
      (fun value digit =>
        value * 10 + (digit.toNat - '0'.toNat)) 0)
  else
    none

/-
  Read a threshold: its name in any case, or its place in the
  list of names, which may have a plus sign before it.
-/
def parse?
    (chars : List Char) : Option Threshold :=
  let digits :=
    match chars with
    | '+' :: rest => rest
    | _ => chars
  match number? digits with
  | some number => names[number]?.map Prod.snd
  | none =>
      names.lookup (String.ofList (chars.map Char.toLower))

end Threshold

end Log

end StreamOverloads

------------------------------------------------------------
-- Directives
------------------------------------------------------------

namespace StreamOverloads

namespace Log

/- A threshold for all targets that start with `target`. -/
structure Directive where
  target : List Char
  threshold : Threshold
  deriving DecidableEq

namespace Directive

/- Whether a directive may start with a character. -/
def canStart
    (char : Char) : Bool :=
  char.isAlphanum || decide (0x80 ≤ char.toNat) ||
    ['-', ':', '_'].contains char

/-
  Read a directive without an equals sign: a threshold for all
  targets, or else a target of which all is logged.
-/
def ofWord
    (chars : List Char) : Directive :=
  match Threshold.parse? chars with
  | some threshold => { target := [], threshold := threshold }
  | none => { target := chars, threshold := some .trace }

/-
  Read what follows the equals sign of a directive. All is
  logged where nothing follows.
-/
def ofPair?
    (target level : List Char) : Option Directive :=
  if level = [] then
    some { target := target, threshold := some .trace }
  else
    (Threshold.parse? level).map fun threshold =>
      { target := target, threshold := threshold }

/-
  Read a directive. Only one without an equals sign may have
  blanks before it.
-/
def parse?
    (chars : List Char) : Option Directive :=
  let text := chars.dropWhile Char.isWhitespace
  if text.head?.any canStart then
    match chars.span fun char => char != '=' with
    | (_, []) => some (ofWord chars)
    | (target, _ :: level) =>
        if text = chars then ofPair? target level else none
  else
    none

/- Whether a directive speaks of a target. -/
def covers
    (directive : Directive)
    (target : List Char) : Bool :=
  directive.target.isPrefixOf target

end Directive

end Log

end StreamOverloads

------------------------------------------------------------
-- Filters
------------------------------------------------------------

namespace StreamOverloads

namespace Log

/- Directives, of which the most specific one decides. -/
abbrev Filter : Type := List Directive

namespace Filter

/-
  Read a filter. The empty text asks for errors only; any
  directive that cannot be read spoils the whole filter.
-/
def parse?
    (text : String) : Option Filter :=
  if text = "" then
    some [{ target := [], threshold := some .error }]
  else
    (text.toList.splitOn ',').mapM Directive.parse?

/- The directive that decides for a target, if any does. -/
def deciding?
    (filter : Filter)
    (target : List Char) : Option Directive :=
  (filter.filter fun directive =>
      directive.covers target).foldl
    (fun best directive =>
      match best with
      | none => some directive
      | some held =>
          if held.target.length ≤ directive.target.length then
            some directive
          else
            some held)
    none

/- Whether an event is logged. -/
def allows
    (filter : Filter)
    (event : Event) : Bool :=
  match filter.deciding? event.target.toList with
  | none => false
  | some directive => directive.threshold.admits event.level

/- The filter of a run that is given none. -/
def standard
    (verbose : Bool) : Filter :=
  let own := "add_compress_methods".toList
  if verbose then
    [ { target := own, threshold := some .debug },
      { target := [], threshold := some .info } ]
  else
    [ { target := own, threshold := some .warn } ]

/- The given filter, or the standard one if it is no filter. -/
def choose
    (given : Option String)
    (verbose : Bool) : Filter :=
  (given.bind parse?).getD (standard verbose)

end Filter

end Log

end StreamOverloads
