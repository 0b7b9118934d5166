import StreamOverloads.Config
import StreamOverloads.Text.Utf8

/-
  The command line.

  Arguments are read from left to right. A setting takes its
  value from the same argument or from the next one; switches
  take none, and letters of switches may stand together in one
  argument. A setting that waits for a value, or has got one
  from an argument of its own, is settled only when the next
  known option is met or the arguments end.

  Key definitions include:
    * `StreamOverloads.Options.Setting`
    * `StreamOverloads.Options.Switch`
    * `StreamOverloads.Options.Refusal`
    * `StreamOverloads.Options.accept`
    * `StreamOverloads.Options.parse`
-/

------------------------------------------------------------
-- Known Options
------------------------------------------------------------

namespace StreamOverloads

namespace Options

/- Options that have a value. -/
inductive Setting where
  | input
  | output
  deriving DecidableEq

/- Options that have no value. -/
inductive Switch where
  | verbose
  | help
  deriving DecidableEq

/- An option of the tool. -/
inductive Known where
  | setting (setting : Setting)
  | switch (switch : Switch)
  deriving DecidableEq

/- The options by their long names. -/
def longNames : List (Bytes × Known) :=
  [ (Bytes.ofText "input", .setting .input),
    (Bytes.ofText "output", .setting .output),
    (Bytes.ofText "verbose", .switch .verbose),
    (Bytes.ofText "help", .switch .help) ]

/- The options by their letters. -/
def letters : List (UInt8 × Known) :=
  [ ('i'.toUInt8, .setting .input),
    ('o'.toUInt8, .setting .output),
    ('v'.toUInt8, .switch .verbose),
    ('h'.toUInt8, .switch .help) ]

/- How an option is named in messages. -/
def Known.label : Known → String
  | .setting .input => "--input <INPUT>"
  | .setting .output => "--output <OUTPUT>"
  | .switch .verbose => "--verbose"
  | .switch .help => "--help"

end Options

end StreamOverloads

------------------------------------------------------------
-- Refusals
------------------------------------------------------------

namespace StreamOverloads

namespace Options

/-
  Why arguments do not make a configuration. Asking for help
  is one of the reasons.
-/
inductive Refusal where
  | unknown (shown : String)
  | missingValue (setting : Setting)
  | unexpectedValue (switch : Switch) (shown : String)
  | repeated (option : Known)
  | notText
  | helpWanted
  deriving DecidableEq

/- What is said when help is asked for. -/
def helpText : String :=
  "Adds CompressStream_t/DeCompressStream_t streamTo " ++
    "overloads to a C++ header\n" ++
    "\n" ++
    "Usage: add-compress-methods [OPTIONS]\n" ++
    "\n" ++
    "Options:\n" ++
    "  -i, --input <INPUT>    " ++
    "Read the header from this file instead of stdin\n" ++
    "  -o, --output <OUTPUT>  " ++
    "Write the result to this file instead of stdout\n" ++
    "  -v, --verbose          Enable verbose output\n" ++
    "  -h, --help             Print help\n"

namespace Refusal

/- What is wrong with the arguments. -/
def text : Refusal → String
  | unknown shown =>
      "error: unexpected argument '" ++ shown ++ "' found"
  | missingValue setting =>
      "error: a value is required for '" ++
        (Known.setting setting).label ++
        "' but none was supplied"
  | unexpectedValue switch shown =>
      "error: unexpected value '" ++ shown ++ "' for '" ++
        (Known.switch switch).label ++
        "' found; no more were expected"
  | repeated option =>
      "error: the argument '" ++ option.label ++
        "' cannot be used multiple times"
  | notText =>
      "error: invalid UTF-8 was detected in one or more " ++
        "arguments"
  | helpWanted => helpText

/-
  What is said about the arguments: the help as it is, and of
  anything else the first line.
-/
def message
    (refusal : Refusal) : String :=
  match refusal with
  | helpWanted => helpText
  | other =>
      String.ofList
        (other.text.toList.takeWhile fun char =>
          char != '\n')

/- The exit code of a run that refuses its arguments. -/
def exitCode : Refusal → Nat
  | helpWanted => 0
  | _ => 2

end Refusal

end Options

end StreamOverloads

------------------------------------------------------------
-- Reading Arguments
------------------------------------------------------------

namespace StreamOverloads

namespace Options

/- The byte of a hyphen. -/
def hyphen : UInt8 := '-'.toUInt8

/- The byte of an equals sign. -/
def equalsSign : UInt8 := '='.toUInt8

/- What an argument looks like. -/
inductive Shape where
  | endMark
  | long (text : Bytes)
  | short (text : Bytes)
  | word
  deriving DecidableEq

/-
  Two hyphens end the options. More text after them is a long
  name, after one hyphen it is letters. Anything else, a lone
  hyphen too, is a word.
-/
def shape : Bytes → Shape
  | first :: second :: rest =>
      if first = hyphen then
        if second = hyphen then
          if rest = [] then .endMark else .long rest
        else
          .short (second :: rest)
      else
        .word
  | _ => .word

/- A setting that is not settled yet, with its value if any. -/
structure Pending where
  setting : Setting
  value : Option Bytes
  deriving DecidableEq

/- What has been read so far. -/
structure Progress where
  config : Config
  pending : Option Pending
  ended : Bool
  deriving DecidableEq

/- Nothing has been read yet. -/
def start : Progress where
  config := { input := none, output := none, verbose := false }
  pending := none
  ended := false

/- The value that a configuration has for a setting. -/
def valueOf
    (config : Config) : Setting → Option String
  | .input => config.input
  | .output => config.output

/- The configuration with a value for a setting. -/
def withValue
    (config : Config)
    (value : String) : Setting → Config
  | .input => { config with input := some value }
  | .output => { config with output := some value }

/- Give a setting its value. -/
def assign
    (config : Config)
    (setting : Setting)
    (value : Bytes) : Except Refusal Config :=
  if (valueOf config setting).isSome then
    .error (.repeated (.setting setting))
  else
    match Text.Utf8.decode? value with
    | none => .error .notText
    | some text => .ok (withValue config text setting)

/- Settle the pending setting, if there is one. -/
def settle
    (progress : Progress) : Except Refusal Config :=
  match progress.pending with
  | none => .ok progress.config
  | some { setting := setting, value := none } =>
      .error (.missingValue setting)
  | some { setting := setting, value := some value } =>
      assign progress.config setting value

/- Meet a switch. -/
def meetSwitch
    (progress : Progress)
    (switch : Switch) : Except Refusal Progress := do
  let config ← settle progress
  match switch with
  | .help => .error .helpWanted
  | .verbose =>
      if config.verbose then
        .error (.repeated (.switch .verbose))
      else
        .ok
          { progress with
            config := { config with verbose := true }
            pending := none }

/- Meet a setting, with a value in the same argument or not. -/
def meetSetting
    (progress : Progress)
    (setting : Setting)
    (value : Option Bytes) : Except Refusal Progress := do
  let config ← settle progress
  match value with
  | none =>
      .ok
        { progress with
          config := config
          pending := some { setting := setting, value := none } }
  | some value => do
      let config ← assign config setting value
      .ok { progress with config := config, pending := none }

/- Show bytes in a message. -/
def shown
    (bytes : Bytes) : String :=
  String.ofList (Text.Utf8.render bytes)

/- Read a long name, with or without a value. -/
def acceptLong
    (progress : Progress)
    (text : Bytes) : Except Refusal Progress :=
  let name := text.takeWhile fun byte => byte != equalsSign
  let value :=
    match text.dropWhile fun byte => byte != equalsSign with
    | [] => none
    | _ :: value => some value
  match longNames.lookup name with
  | none => .error (.unknown ("--" ++ shown name))
  | some (.setting setting) =>
      meetSetting progress setting value
  | some (.switch switch) =>
      match value with
      | some value =>
          .error (.unexpectedValue switch (shown value))
      | none => meetSwitch progress switch

/-
  The value that follows a letter in the same argument, if
  anything does. One equals sign before it is no part of it.
-/
def attached : Bytes → Option Bytes
  | [] => none
  | first :: rest =>
      if first = equalsSign then some rest
      else some (first :: rest)

/- The letter that bytes start with, as messages show it. -/
def shownLetter
    (bytes : Bytes) : String :=
  match Text.Utf8.firstChar? bytes with
  | some char => "-" ++ String.singleton char
  | none => "-" ++ shown bytes

/- Read letters, one after another. -/
def acceptLetters
    (progress : Progress) :
    Bytes → Except Refusal Progress
  | [] => .ok progress
  | letter :: rest =>
      match letters.lookup letter with
      | none => .error (.unknown (shownLetter (letter :: rest)))
      | some (.setting setting) =>
          meetSetting progress setting (attached rest)
      | some (.switch switch) =>
          match meetSwitch progress switch with
          | .error refusal => .error refusal
          | .ok progress => acceptLetters progress rest

/-
  Read a word: the value that a setting waits for. There is no
  other use for words.
-/
def acceptWord
    (progress : Progress)
    (word : Bytes) : Except Refusal Progress :=
  match progress.pending with
  | some { setting := setting, value := none } =>
      .ok
        { progress with
          pending :=
            some { setting := setting, value := some word } }
  | _ => .error (.unknown (shown word))

/- Read one argument. After the end mark all are words. -/
def accept
    (progress : Progress)
    (argument : Bytes) : Except Refusal Progress :=
  if progress.ended then
    .error (.unknown (shown argument))
  else
    match shape argument with
    | .endMark => .ok { progress with ended := true }
    | .long text => acceptLong progress text
    | .short text => acceptLetters progress text
    | .word => acceptWord progress argument

/- Read arguments from where others left off. -/
def acceptAll
    (progress : Progress) :
    List Bytes → Except Refusal Progress
  | [] => .ok progress
  | argument :: rest =>
      match accept progress argument with
      | .error refusal => .error refusal
      | .ok progress => acceptAll progress rest

/- Read all arguments. -/
def parse
    (arguments : List Bytes) : Except Refusal Config :=
  match acceptAll start arguments with
  | .error refusal => .error refusal
  | .ok progress => settle progress

end Options

end StreamOverloads
