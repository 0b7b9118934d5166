import StreamOverloads.Proofs.Line.LineFeeds

/-
  How far dividing and joining undo each other.

  Joining puts a line feed after each line and dividing
  keeps it there, so both agree up to these line feeds. One
  way round they do so for unbroken lines and no others, as
  a divided line has no line feed inside. The other way
  round they do so for any data: the contents of its lines
  are unbroken and, joined again, make up that data with
  every line terminated.

  Main declarations:
    * `Line.divide_join_eq_iff`
    * `Line.isUnbroken_content_of_mem_divide`
    * `Line.isUnbroken_trimEnd_of_mem_divide`
    * `Line.join_map_content_divide`
    * `Line.divide_join_and_join_content`
-/

------------------------------------------------------------
-- Dividing Joined Lines
------------------------------------------------------------

namespace StreamOverloads

namespace Line

/- A terminated line in some data has no other line feed. -/
theorem isUnbroken_of_terminated_mem_divide
    {data : Bytes}
    {line : Line}
    (hMember : line.terminated ∈ divide data) :
    line.IsUnbroken := by
  have hInside :=
    (isDivision_divide data).lineFeed_at_end _ hMember
  rw [terminated, List.dropLast_concat] at hInside
  exact hInside

/- Lines that are divided where they were joined. -/
theorem divide_join_eq_iff
    (lines : List Line) :
    divide (join lines) = lines.map terminated ↔
      ∀ line ∈ lines, line.IsUnbroken := by
  constructor
  · intro hDivided line hLine
    apply isUnbroken_of_terminated_mem_divide
    rw [hDivided]
    exact List.mem_map_of_mem hLine
  · exact divide_join

end Line

end StreamOverloads

------------------------------------------------------------
-- Contents Of Divided Lines
------------------------------------------------------------

namespace StreamOverloads

namespace Line

/-
  The content of a line with a line feed behind it is the line
  itself, or the line with a line feed if it had none.
-/
theorem terminated_content
    (line : Line) :
    line.content.terminated =
      if line.getLast? = some Bytes.lineFeed then
        line
      else
        line ++ [Bytes.lineFeed] := by
  unfold content
  split
  · rename_i hEnd
    exact List.dropLast_append_getLast? _ hEnd
  · rfl

/- Trimming does not see whether a line has its line feed. -/
theorem trimEnd_content
    (line : Line) :
    Bytes.trimEnd line.content = Bytes.trimEnd line := by
  rw [← trimEnd_terminated line.content, terminated_content]
  split
  · rfl
  · exact trimEnd_terminated line

/- A divided line without its line feed is unbroken. -/
theorem isUnbroken_content_of_mem_divide
    {data : Bytes}
    {line : Line}
    (hMember : line ∈ divide data) :
    line.content.IsUnbroken := by
  have hInside :=
    (isDivision_divide data).lineFeed_at_end line hMember
  unfold content
  split
  · exact hInside
  · rename_i hEnd
    exact isUnbroken_of_getLast?_ne hInside hEnd

/- What trimming leaves of a divided line is unbroken. -/
theorem isUnbroken_trimEnd_of_mem_divide
    {data : Bytes}
    {line : Line}
    (hMember : line ∈ divide data) :
    IsUnbroken (Bytes.trimEnd line) := by
  rw [← trimEnd_content]
  exact
    (isUnbroken_content_of_mem_divide hMember).of_subset
      (Bytes.trimEnd_prefix line.content).subset

end Line

end StreamOverloads

------------------------------------------------------------
-- Joining Contents
------------------------------------------------------------

namespace StreamOverloads

namespace Line

/- Terminated lines lose and regain their line feeds. -/
theorem join_map_content_of_ends
    {lines : List Line}
    (hEnds :
      ∀ line ∈ lines,
        line.getLast? = some Bytes.lineFeed) :
    join (lines.map content) = lines.flatten := by
  have hSame :
      ∀ line ∈ lines,
        (terminated ∘ content) line = id line := by
    intro line hLine
    rw [Function.comp_apply, terminated_content,
      if_pos (hEnds line hLine), id_eq]
  rw [join_eq_flatten, List.map_map,
    List.map_congr_left hSame, List.map_id]

/- A line is complete if it ends in a line feed. -/
theorem isComplete_iff_of_ne_nil
    {line : Line}
    (hLine : line ≠ []) :
    Bytes.IsComplete line ↔
      line.getLast? = some Bytes.lineFeed :=
  or_iff_right hLine

/-
  The contents of the lines of some data make up that data
  again, with a line feed at its end if it had none.
-/
theorem join_map_content_divide
    (data : Bytes) :
    join ((divide data).map content) =
      if data.IsComplete then
        data
      else
        data ++ [Bytes.lineFeed] := by
  have hDivision := isDivision_divide data
  rcases List.eq_nil_or_concat' (divide data) with
    hNone | ⟨front, line, hLines⟩
  · have hEmpty := (divide_eq_nil_iff data).mp hNone
    subst hEmpty
    rw [if_pos Bytes.isComplete_nil]
    rfl
  · -- Only the last line decides whether one is missing.
    rw [hLines] at hDivision ⊢
    have hLine : line ≠ [] :=
      hDivision.ne_nil line (by simp)
    have hEnds := hDivision.ends
    rw [List.dropLast_concat] at hEnds
    have hData : front.flatten ++ line = data := by
      rw [← hDivision.flatten_eq, List.flatten_concat]
    have hComplete :
        data.IsComplete ↔
          line.getLast? = some Bytes.lineFeed := by
      rw [← hData, Bytes.isComplete_append_iff _ hLine]
      exact isComplete_iff_of_ne_nil hLine
    rw [List.map_append, join_append,
      join_map_content_of_ends hEnds, List.map_singleton,
      join_cons, join_nil, List.append_nil,
      terminated_content]
    simp only [hComplete]
    split
    · exact hData
    · rw [← hData, List.append_assoc]

/-
  Joined lines are divided where they were joined exactly if
  each of them is unbroken. And the contents of the lines of
  any data, joined again, are that data if it is complete,
  and that data with one more line feed if it is not.
-/
theorem divide_join_and_join_content :
    (∀ lines : List Line,
        divide (join lines) =
            lines.map (fun line =>
              line ++ [Bytes.lineFeed]) ↔
          ∀ line ∈ lines, Bytes.lineFeed ∉ line) ∧
      ∀ data : Bytes,
        join ((divide data).map content) =
          if
            data = [] ∨
              data.getLast? = some Bytes.lineFeed
          then data
          else data ++ [Bytes.lineFeed] :=
  ⟨divide_join_eq_iff, join_map_content_divide⟩

end Line

end StreamOverloads
