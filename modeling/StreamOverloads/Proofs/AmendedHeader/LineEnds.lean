import StreamOverloads.Proofs.AmendedHeader.Body
import StreamOverloads.Proofs.Line.Rejoining

/-
  How the lines of a header end does not matter.

  White space in front of line feeds, such as the carriage
  returns of another system, moves no line boundary and is
  trimmed off the lines that it gets into. So headers that
  differ in it are amended to the same bytes with the same
  counts. A line feed after the last line does not matter
  either if that line lacks one, but behind a complete
  header it is one more line.

  Key definitions include:
    * `Bytes.PaddedEnds`
    * `Bytes.withCarriageReturns`

  Main declarations:
    * `Line.map_trimEnd_divide_of_paddedEnds`
    * `Line.map_trimEnd_divide_append_lineFeed`
    * `AmendedHeader.ofHeader_congr`
    * `AmendedHeader.ofHeader_paddedEnds_and_last_lineFeed`
-/

------------------------------------------------------------
-- White Space Before Line Feeds
------------------------------------------------------------

namespace StreamOverloads

namespace Bytes

/-
  Two byte strings of which the second has more white space
  directly in front of some line feeds, and is otherwise the
  first. The white space may be any but line feeds.
-/
inductive PaddedEnds : Bytes → Bytes → Prop where
  | nil :
      PaddedEnds [] []
  | keep
      (byte : UInt8)
      {data padded : Bytes}
      (hRest : PaddedEnds data padded) :
      PaddedEnds (byte :: data) (byte :: padded)
  | pad
      (run : Bytes)
      {data padded : Bytes}
      (hSpace : ∀ byte ∈ run, WhiteSpace byte)
      (hUnbroken : lineFeed ∉ run)
      (hRest : PaddedEnds data padded) :
      PaddedEnds (lineFeed :: data)
        (run ++ lineFeed :: padded)

/- A carriage return in front of every line feed. -/
def withCarriageReturns
    (data : Bytes) : Bytes :=
  data.flatMap fun byte =>
    if byte = lineFeed then [13, lineFeed] else [byte]

theorem paddedEnds_withCarriageReturns
    (data : Bytes) :
    PaddedEnds data data.withCarriageReturns := by
  induction data with
  | nil => exact PaddedEnds.nil
  | cons byte data ih =>
      rw [withCarriageReturns, List.flatMap_cons]
      by_cases hByte : byte = lineFeed
      · subst hByte
        have hSpace :
            ∀ byte ∈ ([13] : Bytes), WhiteSpace byte :=
          List.forall_mem_singleton.mpr
            WhiteSpace.carriageReturn
        exact PaddedEnds.pad [13] hSpace (by decide) ih
      · rw [if_neg hByte]
        exact PaddedEnds.keep byte ih

end Bytes

end StreamOverloads

------------------------------------------------------------
-- Trimmed Lines
------------------------------------------------------------

namespace StreamOverloads

namespace Line

variable {data padded : Bytes}

/-
  A byte in front of lines that are trimmed alike gives
  lines that are trimmed alike.
-/
theorem map_trimEnd_attach_congr
    (byte : UInt8)
    {left right : List Line}
    (hTrimmed :
      left.map Bytes.trimEnd = right.map Bytes.trimEnd) :
    (attach byte left).map Bytes.trimEnd =
      (attach byte right).map Bytes.trimEnd := by
  by_cases hByte : byte = Bytes.lineFeed
  · subst hByte
    rw [attach_lineFeed, attach_lineFeed, List.map_cons,
      List.map_cons, hTrimmed]
  · cases left with
    | nil =>
        have hNone : right = [] :=
          List.map_eq_nil_iff.mp hTrimmed.symm
        rw [hNone]
    | cons line lines =>
        cases right with
        | nil => cases hTrimmed
        | cons other others =>
            rw [List.map_cons, List.map_cons,
              List.cons.injEq] at hTrimmed
            have hFirst :
                Bytes.trimEnd (byte :: line) =
                  Bytes.trimEnd (byte :: other) :=
              Bytes.trimEnd_append_congr [byte] hTrimmed.1
            rw [attach_of_ne hByte, attach_of_ne hByte,
              List.map_cons, List.map_cons, hFirst,
              hTrimmed.2]

/-
  Padding makes no line more or less, and trimming takes it
  off again.
-/
theorem map_trimEnd_divide_of_paddedEnds
    (hPadded : Bytes.PaddedEnds data padded) :
    (divide padded).map Bytes.trimEnd =
      (divide data).map Bytes.trimEnd := by
  induction hPadded with
  | nil => rfl
  | keep byte _ ih =>
      rw [divide_cons, divide_cons]
      exact map_trimEnd_attach_congr byte ih
  | @pad run data padded hSpace hUnbroken _ ih =>
      -- The run ends up in a line of its own here; bytes in
      -- front of it join that line later.
      have hCut :
          divide (run ++ Bytes.lineFeed :: padded) =
            terminated run :: divide padded := by
        rw [← divide_terminated_append hUnbroken,
          terminated, List.append_assoc,
          List.singleton_append]
      have hRun : Bytes.trimEnd run = [] := by
        rw [Bytes.trimEnd_eq_nil_iff,
          Bytes.isBlank_iff_forall_whiteSpace]
        exact hSpace
      rw [hCut, divide_cons, attach_lineFeed, List.map_cons,
        List.map_cons, trimEnd_terminated, hRun, ih]
      rfl

/- A last line that lacks its line feed can be given one. -/
theorem map_trimEnd_divide_append_lineFeed
    (hOpen : ¬ data.IsComplete) :
    (divide (data ++ [Bytes.lineFeed])).map Bytes.trimEnd =
      (divide data).map Bytes.trimEnd := by
  have hJoined :
      data ++ [Bytes.lineFeed] =
        join ((divide data).map content) := by
    rw [join_map_content_divide, if_neg hOpen]
  have hUnbroken :
      ∀ line ∈ (divide data).map content,
        line.IsUnbroken := by
    intro line hLine
    rcases List.mem_map.mp hLine with ⟨given, hGiven, rfl⟩
    exact isUnbroken_content_of_mem_divide hGiven
  rw [hJoined, divide_join hUnbroken, List.map_map,
    List.map_map]
  simp only [Function.comp_def, trimEnd_terminated,
    trimEnd_content]

end Line

end StreamOverloads

------------------------------------------------------------
-- Headers With Other Line Ends
------------------------------------------------------------

namespace StreamOverloads

namespace AmendedHeader

variable {data : Bytes}

/- Amending does not see what is trimmed off lines. -/
theorem ofLines_map_trimEnd
    (lines : List Line) :
    ofLines (lines.map Bytes.trimEnd) = ofLines lines := by
  have hBody :
      (lines.map Bytes.trimEnd).flatMap Line.amended =
        lines.flatMap Line.amended := by
    rw [List.flatMap_map]
    simp only [Line.amended_trimEnd]
  unfold ofLines
  rw [hBody, Line.length_recognised, Line.length_recognised,
    Line.recognisedCount_map_trimEnd, List.length_map]

/- Headers whose lines are trimmed alike are amended alike. -/
theorem ofHeader_congr
    {left right : Bytes}
    (hTrimmed :
      (Line.divide left).map Bytes.trimEnd =
        (Line.divide right).map Bytes.trimEnd) :
    ofHeader left = ofHeader right := by
  rw [ofHeader, ← ofLines_map_trimEnd, hTrimmed,
    ofLines_map_trimEnd, ofHeader]

theorem body_lineFeed :
    body [Bytes.lineFeed] = [Bytes.lineFeed] := by
  rw [body_eq_join]
  decide

/- Behind a complete header a line feed is an empty line. -/
theorem toBytes_ofHeader_append_lineFeed
    (hComplete : data.IsComplete) :
    (ofHeader (data ++ [Bytes.lineFeed])).toBytes =
      (ofHeader data).toBytes ++ [Bytes.lineFeed] := by
  rw [toBytes_ofHeader, toBytes_ofHeader,
    body_append_of_cut (Or.inl hComplete), body_lineFeed,
    List.append_assoc]

theorem linesRead_ofHeader_append_lineFeed
    (hComplete : data.IsComplete) :
    (ofHeader (data ++ [Bytes.lineFeed])).stats.linesRead =
      (ofHeader data).stats.linesRead + 1 := by
  rw [stats_ofHeader, stats_ofHeader,
    Line.divide_append_of_isComplete hComplete]
  exact List.length_append

/-
  White space in front of line feeds, for instance carriage
  returns, changes neither the bytes of an amended header
  nor its counts. One more line feed at the end of a header
  changes neither if the header has a last line that lacks
  one, and otherwise it changes both.
-/
theorem ofHeader_paddedEnds_and_last_lineFeed
    (data : Bytes) :
    (∀ padded : Bytes,
        Bytes.PaddedEnds data padded →
          (ofHeader padded).toBytes =
              (ofHeader data).toBytes ∧
            (ofHeader padded).stats =
              (ofHeader data).stats) ∧
      Bytes.PaddedEnds data data.withCarriageReturns ∧
      ((ofHeader (data ++ [Bytes.lineFeed])).toBytes =
          (ofHeader data).toBytes ↔
        data ≠ [] ∧
          data.getLast? ≠ some Bytes.lineFeed) ∧
      ((ofHeader (data ++ [Bytes.lineFeed])).stats =
          (ofHeader data).stats ↔
        data ≠ [] ∧
          data.getLast? ≠ some Bytes.lineFeed) := by
  have hOpen :
      (data ≠ [] ∧
          data.getLast? ≠ some Bytes.lineFeed) ↔
        ¬ data.IsComplete :=
    not_or.symm
  have hSame :
      ¬ data.IsComplete →
        ofHeader (data ++ [Bytes.lineFeed]) =
          ofHeader data :=
    fun hLast =>
      ofHeader_congr
        (Line.map_trimEnd_divide_append_lineFeed hLast)
  rw [hOpen]
  refine
    ⟨?_, Bytes.paddedEnds_withCarriageReturns data,
      ⟨?_, ?_⟩, ⟨?_, ?_⟩⟩
  · intro padded hPadded
    rw [ofHeader_congr
      (Line.map_trimEnd_divide_of_paddedEnds hPadded)]
    exact ⟨rfl, rfl⟩
  · intro hBytes hComplete
    rw [toBytes_ofHeader_append_lineFeed hComplete]
      at hBytes
    exact List.cons_ne_nil _ _
      (List.append_right_eq_self.mp hBytes)
  · intro hLast
    rw [hSame hLast]
  · intro hStats hComplete
    have hRead := linesRead_ofHeader_append_lineFeed hComplete
    rw [hStats] at hRead
    omega
  · intro hLast
    rw [hSame hLast]

/- A declaration, an empty line and a line without an end. -/
theorem ofHeader_paddedEnds_of_three_lines :
    Bytes.PaddedEnds
        (Declaration.virtual.signatureLine ++ [10, 10, 120])
        (Declaration.virtual.signatureLine ++
          [13, 10, 13, 10, 120]) ∧
      (ofHeader
          (Declaration.virtual.signatureLine ++
            [13, 10, 13, 10, 120])).toBytes =
        (ofHeader
          (Declaration.virtual.signatureLine ++
            [10, 10, 120])).toBytes := by
  have hReturns :
      Bytes.withCarriageReturns
          (Declaration.virtual.signatureLine ++
            [10, 10, 120]) =
        Declaration.virtual.signatureLine ++
          [13, 10, 13, 10, 120] := by
    decide
  have hLaw :=
    ofHeader_paddedEnds_and_last_lineFeed
      (Declaration.virtual.signatureLine ++ [10, 10, 120])
  have hPadded := hLaw.2.1
  rw [hReturns] at hPadded
  exact ⟨hPadded, (hLaw.1 _ hPadded).1⟩

end AmendedHeader

end StreamOverloads
