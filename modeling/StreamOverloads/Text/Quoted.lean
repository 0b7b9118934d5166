import StreamOverloads.Text.GraphemeExtend

/-
  Text between double quotes, as it stands in messages.

  A quote and a backslash take a backslash before them. Four
  controls have a letter of their own. Any other character
  that cannot be shown as it is becomes its code, written in
  lower-case hexadecimal between braces.

  Key definitions include:
    * `StreamOverloads.Text.isPlain`
    * `StreamOverloads.Text.Quoted.escape`
    * `StreamOverloads.Text.Quoted.encode`
    * `StreamOverloads.Text.quote`
-/

------------------------------------------------------------
-- Plain Characters
------------------------------------------------------------

namespace StreamOverloads

namespace Text

/-
  Whether a character is one of the control characters, that
  is, U+0000 to U+001F and U+007F to U+009F.
-/
def isControl
    (char : Char) : Bool :=
  decide (char.toNat < 0x20) ||
    (decide (0x7f ≤ char.toNat) &&
      decide (char.toNat < 0xa0))

/- Whether a character stands for itself in quoted text. -/
def isPlain
    (char : Char) : Bool :=
  !isControl char &&
    (!isUnprintable char && !isGraphemeExtend char)

end Text

end StreamOverloads

------------------------------------------------------------
-- Quoting
------------------------------------------------------------

namespace StreamOverloads

namespace Text

namespace Quoted

/- A character as its code in hexadecimal. -/
def codeEscape
    (char : Char) : List Char :=
  ['\\', 'u', '\x7b'] ++
    (Nat.toDigits 16 char.toNat ++ ['\x7d'])

/-
  How one character is written. The set of characters that
  stand for themselves is a parameter; the six characters that
  have an escape of their own never do.
-/
def escape
    (plain : Char → Bool)
    (char : Char) : List Char :=
  match char with
  | '"' => ['\\', '"']
  | '\\' => ['\\', '\\']
  | '\x00' => ['\\', '0']
  | '\t' => ['\\', 't']
  | '\n' => ['\\', 'n']
  | '\r' => ['\\', 'r']
  | other =>
      if plain other then [other] else codeEscape other

/- How a text is written, without the quotes around it. -/
def encode
    (plain : Char → Bool)
    (chars : List Char) : List Char :=
  chars.flatMap (escape plain)

end Quoted

/- A text between double quotes. -/
def quote
    (text : String) : String :=
  "\"" ++
    String.ofList (Quoted.encode isPlain text.toList) ++ "\""

/- A text that may be missing. -/
def quoteOptional : Option String → String
  | some text => "Some(" ++ quote text ++ ")"
  | none => "None"

end Text

end StreamOverloads
