import StreamOverloads.Proofs.Declaration.Recognition

/-
  How many of some lines are recognised.

  The count adds up over parts, does not see line feeds, and
  is the one that amending reports.

  Key definitions include:
    * `Line.recognisedCount`

  Main declarations:
    * `Line.length_recognised`
    * `AmendedHeader.stats_ofLines`
-/

------------------------------------------------------------
-- Counting Recognised Lines
------------------------------------------------------------

namespace StreamOverloads

namespace Line

/- How many of some lines are recognised. -/
def recognisedCount
    (lines : List Line) : Nat :=
  lines.countP fun line =>
    (Declaration.recognise? line).isSome

theorem recognisedCount_cons
    (line : Line)
    (lines : List Line) :
    recognisedCount (line :: lines) =
      recognisedCount [line] + recognisedCount lines := by
  unfold recognisedCount
  rw [← List.countP_append, List.singleton_append]

theorem recognisedCount_append
    (left right : List Line) :
    recognisedCount (left ++ right) =
      recognisedCount left + recognisedCount right :=
  List.countP_append

theorem recognisedCount_le_length
    (lines : List Line) :
    recognisedCount lines ≤ lines.length :=
  List.countP_le_length

theorem recognisedCount_eq_zero_iff
    (lines : List Line) :
    recognisedCount lines = 0 ↔
      ∀ line ∈ lines,
        Declaration.recognise? line = none := by
  unfold recognisedCount
  rw [List.countP_eq_zero]
  simp only [Option.not_isSome_iff_eq_none]

/- A change that recognition does not see changes no count. -/
theorem recognisedCount_map
    {change : Line → Line}
    (hChange :
      ∀ line : Line,
        Declaration.recognise? (change line) =
          Declaration.recognise? line)
    (lines : List Line) :
    recognisedCount (lines.map change) =
      recognisedCount lines := by
  unfold recognisedCount
  rw [List.countP_map]
  simp only [Function.comp_def, hChange]

/- Line feeds do not change what is recognised. -/
theorem recognisedCount_map_terminated
    (lines : List Line) :
    recognisedCount (lines.map terminated) =
      recognisedCount lines :=
  recognisedCount_map Declaration.recognise?_terminated lines

/- Trimming line ends does not change what is recognised. -/
theorem recognisedCount_map_trimEnd
    (lines : List Line) :
    recognisedCount (lines.map Bytes.trimEnd) =
      recognisedCount lines :=
  recognisedCount_map Declaration.recognise?_trimEnd lines

/- The list of recognised lines is as long as their count. -/
theorem length_recognised
    (lines : List Line) :
    (recognised lines).length = recognisedCount lines := by
  have hNumbered :
      (lines.zipIdx 1).map Prod.fst = lines :=
    List.zipIdx_map_fst 1 lines
  have hSelected :
      (recognised lines).length =
        (lines.zipIdx 1).countP fun row =>
          (Declaration.recognise? row.1).isSome := by
    unfold recognised
    rw [List.length_filterMap_eq_countP]
    simp only [Option.isSome_map]
  calc
    (recognised lines).length =
        recognisedCount
          ((lines.zipIdx 1).map Prod.fst) := by
      rw [hSelected, recognisedCount, List.countP_map]
      rfl
    _ = recognisedCount lines := by
      rw [hNumbered]

end Line

namespace AmendedHeader

/- What amending some lines counts. -/
theorem stats_ofLines
    (lines : List Line) :
    (ofLines lines).stats =
      { linesRead := lines.length
        declarationsExpanded := Line.recognisedCount lines
        linesWritten := (ofLines lines).lines.length } := by
  rw [← Line.length_recognised]
  rfl

/- What amending a header counts. -/
theorem stats_ofHeader
    (data : Bytes) :
    (ofHeader data).stats =
      { linesRead := (Line.divide data).length
        declarationsExpanded :=
          Line.recognisedCount (Line.divide data)
        linesWritten := (ofHeader data).lines.length } :=
  stats_ofLines (Line.divide data)

end AmendedHeader

end StreamOverloads
