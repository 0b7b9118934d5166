/-
  Header data as bytes, and the blank bytes around a line.

  A header is never decoded: it is a list of bytes, in any
  encoding. Six of the bytes are blank. Trimming takes the
  blank bytes off the end of a line, or off both ends, and
  never touches a blank byte between two others.

  Key definitions include:
    * `StreamOverloads.Bytes`
    * `StreamOverloads.Bytes.ofText`
    * `StreamOverloads.Bytes.isBlank`
    * `StreamOverloads.Bytes.trimEnd`
    * `StreamOverloads.Bytes.trim`
-/

------------------------------------------------------------
-- Byte Strings
------------------------------------------------------------

namespace StreamOverloads

/- A string of bytes. -/
abbrev Bytes : Type := List UInt8

namespace Bytes

/- The UTF-8 bytes of a text. -/
def ofText
    (text : String) : Bytes :=
  text.toUTF8.data.toList

/- The byte that ends a line. -/
def lineFeed : UInt8 := 10

end Bytes

end StreamOverloads

------------------------------------------------------------
-- Blank Bytes And Trimming
------------------------------------------------------------

namespace StreamOverloads

namespace Bytes

/-
  The six blank bytes: tab, line feed, vertical tab, form
  feed, carriage return and space.
-/
def blanks : Bytes := [9, 10, 11, 12, 13, 32]

/- Whether a byte is blank. -/
def isBlank
    (byte : UInt8) : Bool :=
  blanks.contains byte

/- A byte string that holds nothing but blank bytes. -/
def IsBlank
    (bytes : Bytes) : Prop :=
  ∀ byte ∈ bytes, isBlank byte = true

instance (bytes : Bytes) : Decidable (IsBlank bytes) :=
  List.decidableBAll (fun byte => isBlank byte = true) bytes

/- Take the blank bytes off the end. -/
def trimEnd
    (bytes : Bytes) : Bytes :=
  (bytes.reverse.dropWhile isBlank).reverse

/- Take the blank bytes off both ends. -/
def trim
    (bytes : Bytes) : Bytes :=
  (trimEnd bytes).dropWhile isBlank

end Bytes

end StreamOverloads
