import StreamOverloads.Declaration

/-
  How a header is amended, line by line.

  A recognised declaration becomes its expansion, flush left.
  Any other line keeps everything but the blank bytes at its
  end. No line affects another one. The amended header opens
  with the forward declarations.

  Key definitions include:
    * `StreamOverloads.Line.amended`
    * `StreamOverloads.Line.appendTo`
    * `StreamOverloads.Line.recognised`
    * `StreamOverloads.Stats`
    * `StreamOverloads.AmendedHeader.ofLines`
    * `StreamOverloads.AmendedHeader.ofHeader`
-/

------------------------------------------------------------
-- One Line
------------------------------------------------------------

namespace StreamOverloads

namespace Line

/- The lines that one line becomes. -/
def amended
    (line : Line) : List Line :=
  match Declaration.recognise? line with
  | some decl => decl.expansionLines
  | none => [Bytes.trimEnd line]

/- The output so far, with what one more line becomes. -/
def appendTo
    (output : List Line)
    (line : Line) : List Line :=
  output ++ line.amended

/-
  The recognised declarations among lines, each with the
  number of its line, counted from one.
-/
def recognised
    (lines : List Line) : List (Nat × Declaration) :=
  (lines.zipIdx 1).filterMap fun (line, number) =>
    (Declaration.recognise? line).map fun decl =>
      (number, decl)

end Line

end StreamOverloads

------------------------------------------------------------
-- A Whole Header
------------------------------------------------------------

namespace StreamOverloads

/- What amending a header counts. -/
structure Stats where
  linesRead : Nat
  declarationsExpanded : Nat
  linesWritten : Nat
  deriving DecidableEq

/- An amended header: its lines, without line feeds. -/
structure AmendedHeader where
  lines : List Line
  stats : Stats
  deriving DecidableEq

namespace AmendedHeader

/- Amend the lines of a header. -/
def ofLines
    (lines : List Line) : AmendedHeader :=
  let output :=
    forwardLines ++ lines.flatMap Line.amended
  { lines := output
    stats :=
      { linesRead := lines.length
        declarationsExpanded := (Line.recognised lines).length
        linesWritten := output.length } }

/- Amend a header given as one byte string. -/
def ofHeader
    (data : Bytes) : AmendedHeader :=
  ofLines (Line.divide data)

/- The bytes of an amended header. -/
def toBytes
    (header : AmendedHeader) : Bytes :=
  Line.join header.lines

end AmendedHeader

end StreamOverloads
