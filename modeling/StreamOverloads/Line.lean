import StreamOverloads.Bytes

/-
  Lines of a header.

  Dividing a header cuts it after each line feed, so that a
  line keeps its own line feed and only the last one may lack
  it. Joining puts a line feed after each line it is given.

  Key definitions include:
    * `StreamOverloads.Line`
    * `StreamOverloads.Line.divide`
    * `StreamOverloads.Line.join`
-/

------------------------------------------------------------
-- Dividing And Joining
------------------------------------------------------------

namespace StreamOverloads

/- One line, with or without its line feed. -/
abbrev Line : Type := Bytes

namespace Line

/-
  Put one byte before lines that are already divided. A line
  feed is a line of its own; any other byte belongs to the
  line that follows it.
-/
def attach
    (byte : UInt8)
    (lines : List Line) : List Line :=
  if byte = Bytes.lineFeed then
    [byte] :: lines
  else
    match lines with
    | [] => [[byte]]
    | line :: rest => (byte :: line) :: rest

/- Divide a header after each line feed. -/
def divide
    (data : Bytes) : List Line :=
  data.foldr attach []

/- Write lines one after another, a line feed after each. -/
def join
    (lines : List Line) : Bytes :=
  lines.flatMap fun line => line ++ [Bytes.lineFeed]

end Line

end StreamOverloads
