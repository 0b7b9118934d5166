import StreamOverloads.Proofs.AmendedHeader.Layout
import StreamOverloads.Proofs.Line.LineFeeds

/-
  What follows the forward declarations of a header.

  The body of a header is made line by line, so the bodies
  of two headers make up the body of both together unless
  the cut between them is inside a line. An amended header
  has one line feed for each line and two for each
  expansion, which no other change can make up for: a cut
  line shows in the number of lines, and a body is the given
  header only if every line of it is plain.

  Key definitions include:
    * `AmendedHeader.body`

  Main declarations:
    * `AmendedHeader.toBytes_ofHeader`
    * `AmendedHeader.count_lineFeed_body`
    * `AmendedHeader.body_append_iff_and_counts`
    * `AmendedHeader.toBytes_ofHeader_eq_append_iff`
-/

------------------------------------------------------------
-- Bodies
------------------------------------------------------------

namespace StreamOverloads

namespace AmendedHeader

/- The bytes that follow the forward declarations. -/
def body
    (data : Bytes) : Bytes :=
  (ofHeader data).toBytes.drop
    (Line.join forwardLines).length

/- The body is made of what the lines become. -/
theorem body_eq_join
    (data : Bytes) :
    body data =
      Line.join
        ((Line.divide data).flatMap Line.amended) := by
  rw [body, toBytes, lines_ofHeader, Line.join_append,
    List.drop_left]

/- The body follows the forward declarations. -/
theorem toBytes_ofHeader
    (data : Bytes) :
    (ofHeader data).toBytes =
      Line.join forwardLines ++ body data := by
  rw [body_eq_join, toBytes, lines_ofHeader,
    Line.join_append]

theorem isUnbroken_of_mem_flatMap_amended
    {data : Bytes}
    {line : Line}
    (hMember :
      line ∈ (Line.divide data).flatMap Line.amended) :
    line.IsUnbroken :=
  isUnbroken_of_mem_lines_ofHeader
    (List.mem_append_right forwardLines hMember)

/- The lines of a body are those that it was made of. -/
theorem divide_body
    (data : Bytes) :
    Line.divide (body data) =
      ((Line.divide data).flatMap Line.amended).map
        Line.terminated := by
  rw [body_eq_join,
    Line.divide_join
      (fun _ => isUnbroken_of_mem_flatMap_amended)]

/- A body has one line feed for each line it was made of. -/
theorem count_lineFeed_body
    (data : Bytes) :
    (body data).count Bytes.lineFeed =
      (Line.divide data).length +
        2 * Line.recognisedCount (Line.divide data) := by
  rw [body_eq_join,
    Line.count_lineFeed_join
      (fun _ => isUnbroken_of_mem_flatMap_amended),
    Line.length_flatMap_amended]

end AmendedHeader

end StreamOverloads

------------------------------------------------------------
-- Headers In Two Parts
------------------------------------------------------------

namespace StreamOverloads

namespace AmendedHeader

variable {front back : Bytes}

/- No line of either part depends on the other part. -/
theorem body_append_of_cut
    (hCut : front.IsComplete ∨ back = []) :
    body (front ++ back) = body front ++ body back := by
  rw [body_eq_join, body_eq_join, body_eq_join,
    Line.divide_append hCut, List.flatMap_append,
    Line.join_append]

/-
  A cut inside a line shows: it makes one line more, and
  expansions only ever add lines in pairs.
-/
theorem cut_of_body_append
    (hBody :
      body (front ++ back) = body front ++ body back) :
    front.IsComplete ∨ back = [] := by
  by_contra hInside
  have hCount :=
    congrArg (List.count Bytes.lineFeed) hBody
  rw [List.count_append, count_lineFeed_body,
    count_lineFeed_body, count_lineFeed_body] at hCount
  have hLines := Line.length_divide_append front back
  rw [if_neg hInside] at hLines
  omega

/-
  The body of a header in two parts is made of the bodies of
  its parts exactly if it is not cut inside a line. Then its
  lines and recognised lines are those of its parts.
-/
theorem body_append_iff_and_counts
    (front back : Bytes) :
    (∀ data : Bytes,
        (ofHeader data).toBytes =
          Line.join forwardLines ++ body data) ∧
      (body (front ++ back) = body front ++ body back ↔
        front.IsComplete ∨ back = []) ∧
      (front.IsComplete ∨ back = [] →
        (ofHeader (front ++ back)).stats.linesRead =
            (ofHeader front).stats.linesRead +
              (ofHeader back).stats.linesRead ∧
          (ofHeader
              (front ++ back)).stats.declarationsExpanded =
            (ofHeader front).stats.declarationsExpanded +
              (ofHeader
                back).stats.declarationsExpanded) := by
  refine
    ⟨toBytes_ofHeader,
      ⟨cut_of_body_append, body_append_of_cut⟩, ?_⟩
  intro hCut
  rw [stats_ofHeader, stats_ofHeader, stats_ofHeader,
    Line.divide_append hCut]
  exact
    ⟨List.length_append,
      Line.recognisedCount_append _ _⟩

end AmendedHeader

end StreamOverloads

------------------------------------------------------------
-- Headers That Keep Their Bytes
------------------------------------------------------------

namespace StreamOverloads

namespace Line

/- Lines that lose only their line feed to trimming. -/
theorem map_terminated_map_trimEnd_eq_iff
    (lines : List Line) :
    (lines.map Bytes.trimEnd).map terminated = lines ↔
      ∀ line ∈ lines,
        line = Bytes.trimEnd line ++ [Bytes.lineFeed] := by
  rw [List.map_map]
  nth_rewrite 2 [← List.map_id lines]
  rw [List.map_inj_left]
  simp only [Function.comp_apply, id_eq, terminated,
    eq_comm]

end Line

namespace AmendedHeader

/-
  A header is its own body exactly if none of its lines is
  recognised and each loses only its line feed to trimming.
-/
theorem body_eq_self_iff
    (data : Bytes) :
    body data = data ↔
      ∀ line ∈ Line.divide data,
        Declaration.recognise? line = none ∧
          line =
            Bytes.trimEnd line ++ [Bytes.lineFeed] := by
  constructor
  · intro hBody
    have hLines := congrArg Line.divide hBody
    rw [divide_body] at hLines
    -- An expansion would have brought two lines more.
    have hCount := congrArg List.length hLines
    rw [List.length_map, Line.length_flatMap_amended]
      at hCount
    have hNone :=
      (Line.recognisedCount_eq_zero_iff
        (Line.divide data)).mp (by omega)
    rw [Line.flatMap_amended_of_forall_none hNone,
      Line.map_terminated_map_trimEnd_eq_iff] at hLines
    intro line hLine
    exact ⟨hNone line hLine, hLines line hLine⟩
  · intro hPlain
    have hNone :
        ∀ line ∈ Line.divide data,
          Declaration.recognise? line = none :=
      fun line hLine => (hPlain line hLine).1
    have hLines :=
      (Line.map_terminated_map_trimEnd_eq_iff
        (Line.divide data)).mpr
        (fun line hLine => (hPlain line hLine).2)
    calc
      body data =
          (((Line.divide data).map Bytes.trimEnd).map
            Line.terminated).flatten := by
        rw [body_eq_join,
          Line.flatMap_amended_of_forall_none hNone,
          Line.join_eq_flatten]
      _ = (Line.divide data).flatten := by
        rw [hLines]
      _ = data := Line.flatten_divide data

/-
  Amending only adds the forward declarations exactly if no
  line is recognised and trimming would take nothing but its
  line feed off any line. Such a header is complete, and
  none of its lines has a blank byte before its line feed.
-/
theorem toBytes_ofHeader_eq_append_iff
    (data : Bytes) :
    ((ofHeader data).toBytes =
          Line.join forwardLines ++ data ↔
        ∀ line ∈ Line.divide data,
          Declaration.recognise? line = none ∧
            line =
              Bytes.trimEnd line ++ [Bytes.lineFeed]) ∧
      ((ofHeader data).toBytes =
          Line.join forwardLines ++ data →
        data.IsComplete ∧
          ∀ line ∈ Line.divide data,
            ∀ byte ∈ line.content.getLast?,
              Bytes.isBlank byte = false) := by
  rw [toBytes_ofHeader, List.append_right_inj]
  refine ⟨body_eq_self_iff data, ?_⟩
  intro hBody
  constructor
  · rw [← hBody, body_eq_join]
    exact Line.isComplete_join _
  · intro line hLine byte hByte
    have hPlain :
        line = Line.terminated (Bytes.trimEnd line) :=
      ((body_eq_self_iff data).mp hBody line hLine).2
    rw [hPlain, Line.content_terminated] at hByte
    exact Bytes.isBlank_of_mem_getLast?_trimEnd hByte

end AmendedHeader

end StreamOverloads
