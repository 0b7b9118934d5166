import StreamOverloads.Proofs.AmendedHeader.Repetition

/-
  Where the lines of a header stand in the amended header.

  Amending takes one line after another and puts what it
  becomes at the end of the output so far. So the output of
  a line begins behind what was there before, one line for
  each earlier line and two more for each earlier line that
  is recognised. That everything taken so far stands in its
  place is kept by each line that is taken, and so it holds
  of whole headers.

  Key definitions include:
    * `Line.StandAt`
    * `AmendedLayout`

  Main declarations:
    * `AmendedLayout.appendTo`
    * `amendedLayout_foldl_appendTo`
    * `AmendedHeader.ofLines_layout_and_stats`
-/

------------------------------------------------------------
-- Lines At A Place
------------------------------------------------------------

namespace StreamOverloads

namespace Line

/- Lines stand in an output from a place on. -/
def StandAt
    (place : Nat)
    (block output : List Line) : Prop :=
  block <+: output.drop place

/- Lines stand where they are added. -/
theorem standAt_length_append
    (output block : List Line) :
    StandAt output.length block (output ++ block) := by
  simp [StandAt]

/- Lines stay in their place when more lines are added. -/
theorem StandAt.append
    {place : Nat}
    {block output : List Line}
    (hStand : StandAt place block output)
    (more : List Line) :
    StandAt place block (output ++ more) := by
  rw [StandAt, List.drop_append]
  exact hStand.trans (List.prefix_append _ _)

end Line

end StreamOverloads

------------------------------------------------------------
-- The Layout Of An Output
------------------------------------------------------------

namespace StreamOverloads

namespace AmendedLayout

/-
  The place where the output of a line begins: behind the
  lines from before, one line for each earlier line and two
  more for each earlier line that is recognised.
-/
def place
    (before lines : List Line)
    (index : Nat) : Nat :=
  before.length + index +
    2 * Line.recognisedCount (lines.take index)

end AmendedLayout

/-
  An output that has all its lines in their places: those
  from before, an expansion for each recognised line and the
  trimmed bytes of each other line, and nothing else.
-/
structure AmendedLayout
    (before lines output : List Line) : Prop where
  before_prefix :
    before <+: output
  expansion_at :
    ∀ (index : Nat) (hIndex : index < lines.length)
      (decl : Declaration),
      Declaration.recognise? lines[index] = some decl →
        Line.StandAt
          (AmendedLayout.place before lines index)
          decl.expansionLines output
  trimmed_at :
    ∀ (index : Nat) (hIndex : index < lines.length),
      Declaration.recognise? lines[index] = none →
        Line.StandAt
          (AmendedLayout.place before lines index)
          [Bytes.trimEnd lines[index]] output
  length_eq :
    output.length =
      AmendedLayout.place before lines lines.length

namespace AmendedLayout

variable {before lines output : List Line}

/- What a line becomes stands in the place of its output. -/
theorem amended_at
    (hLayout : AmendedLayout before lines output)
    {index : Nat}
    (hIndex : index < lines.length) :
    Line.StandAt (place before lines index)
      lines[index].amended output := by
  unfold Line.amended
  cases hFound : Declaration.recognise? lines[index] with
  | some decl =>
      exact hLayout.expansion_at index hIndex decl hFound
  | none => exact hLayout.trimmed_at index hIndex hFound

theorem of_amended_at
    (hBefore : before <+: output)
    (hStand :
      ∀ (index : Nat) (hIndex : index < lines.length),
        Line.StandAt (place before lines index)
          lines[index].amended output)
    (hLength :
      output.length = place before lines lines.length) :
    AmendedLayout before lines output where
  before_prefix := hBefore
  expansion_at := by
    intro index hIndex decl hFound
    have hAmended := hStand index hIndex
    rw [Line.amended, hFound] at hAmended
    exact hAmended
  trimmed_at := by
    intro index hIndex hNone
    have hAmended := hStand index hIndex
    rw [Line.amended, hNone] at hAmended
    exact hAmended
  length_eq := hLength

/- A place depends on earlier lines only. -/
theorem place_append
    (before lines more : List Line)
    {index : Nat}
    (hIndex : index ≤ lines.length) :
    place before (lines ++ more) index =
      place before lines index := by
  rw [place, place, List.take_append_of_le_length hIndex]

/- The next place is behind the output of the line. -/
theorem place_succ_length
    (before lines : List Line)
    (line : Line) :
    place before (lines ++ [line]) (lines.length + 1) =
      place before lines lines.length +
        line.amended.length := by
  have hAll :
      (lines ++ [line]).take (lines.length + 1) =
        lines ++ [line] :=
    List.take_of_length_le (by simp)
  rw [place, place, hAll, List.take_length,
    Line.recognisedCount_append, ← Line.amendedTimes_one,
    Line.length_amendedTimes]
  omega

/- Without lines the output is what was there before. -/
theorem nil
    (before : List Line) :
    AmendedLayout before [] before := by
  apply of_amended_at
  · exact List.prefix_rfl
  · intro index hIndex
    exact (Nat.not_lt_zero index hIndex).elim
  · rfl

/- Taking one more line keeps the layout. -/
theorem appendTo
    (hLayout : AmendedLayout before lines output)
    (line : Line) :
    AmendedLayout before (lines ++ [line])
      (Line.appendTo output line) := by
  apply of_amended_at
  · exact
      hLayout.before_prefix.trans (List.prefix_append _ _)
  · intro index hIndex
    rw [List.length_append, List.length_singleton]
      at hIndex
    rw [place_append before lines [line] (by omega)]
    by_cases hEarlier : index < lines.length
    · -- An earlier line: its output is where it was.
      rw [List.getElem_append_left hEarlier]
      exact (hLayout.amended_at hEarlier).append _
    · -- The new line: its output begins at the old end.
      have hLast : index = lines.length := by
        omega
      subst hLast
      rw [List.getElem_concat_length rfl,
        ← hLayout.length_eq]
      exact Line.standAt_length_append output line.amended
  · rw [Line.appendTo, List.length_append,
      hLayout.length_eq, List.length_append,
      List.length_singleton, place_succ_length]

end AmendedLayout

/-
  Taking lines one after another puts everything into its
  place.
-/
theorem amendedLayout_foldl_appendTo
    (before lines : List Line) :
    AmendedLayout before lines
      (lines.foldl Line.appendTo before) := by
  induction lines using List.reverseRecOn with
  | nil => exact AmendedLayout.nil before
  | append_singleton lines line ih =>
      rw [List.foldl_concat]
      exact ih.appendTo line

end StreamOverloads

------------------------------------------------------------
-- Amended Lines
------------------------------------------------------------

namespace StreamOverloads

namespace Line

/- Taking lines one after another is amending each. -/
theorem foldl_appendTo
    (before lines : List Line) :
    lines.foldl appendTo before =
      before ++ lines.flatMap amended := by
  rw [List.flatMap_def]
  exact List.foldl_append_eq_append

end Line

namespace AmendedHeader

/- Amending starts from the forward declarations. -/
theorem lines_ofLines
    (lines : List Line) :
    (ofLines lines).lines =
      lines.foldl Line.appendTo forwardLines :=
  (Line.foldl_appendTo forwardLines lines).symm

/- How long an amended header is. -/
theorem length_lines_ofLines
    (lines : List Line) :
    (ofLines lines).lines.length =
      2 + (lines.length - Line.recognisedCount lines) +
        3 * Line.recognisedCount lines := by
  have hTwo : forwardLines.length = 2 := rfl
  have hSome := Line.recognisedCount_le_length lines
  rw [lines_ofLines, Line.foldl_appendTo,
    List.length_append, hTwo, Line.length_flatMap_amended]
  omega

/-
  Taking lines one after another, from any output on, leaves
  that output in front and puts what each line becomes in
  its place. Amending does this from the forward
  declarations on, and counts the lines, the recognised
  lines, and the lines of the output.
-/
theorem ofLines_layout_and_stats
    (lines : List Line) :
    (∀ before : List Line,
        AmendedLayout before lines
          (lines.foldl Line.appendTo before)) ∧
      (ofLines lines).lines =
        lines.foldl Line.appendTo forwardLines ∧
      (ofLines lines).stats =
        { linesRead := lines.length
          declarationsExpanded := Line.recognisedCount lines
          linesWritten :=
            2 +
              (lines.length - Line.recognisedCount lines) +
                3 * Line.recognisedCount lines } ∧
      (ofLines lines).stats.linesWritten =
        (ofLines lines).lines.length := by
  refine ⟨?_, lines_ofLines lines, ?_, rfl⟩
  · intro before
    exact amendedLayout_foldl_appendTo before lines
  · rw [stats_ofLines, length_lines_ofLines]

end AmendedHeader

end StreamOverloads
