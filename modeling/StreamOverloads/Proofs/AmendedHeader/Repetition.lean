import StreamOverloads.Proofs.AmendedHeader.Reading
import StreamOverloads.Proofs.Declaration.Counting

/-
  Amending an amended header again.

  Each time, another pair of forward declarations opens the
  header and another pair of overloads follows each
  recognised declaration, while all other lines stay as the
  first time left them. The recognised declarations are the
  same ones every time.

  Key definitions include:
    * `Line.amendedTimes`
    * `AmendedHeader.linesAfter`

  Main declarations:
    * `Line.flatMap_amended_amendedTimes`
    * `AmendedHeader.lines_ofHeader_join_linesAfter`
    * `AmendedHeader.recognisedCount_linesAfter`
    * `AmendedHeader.length_linesAfter`
-/

------------------------------------------------------------
-- Lines Amended Several Times
------------------------------------------------------------

namespace StreamOverloads

namespace Line

/- Repeated lines are lines of what is repeated. -/
theorem mem_of_mem_flatten_replicate
    {times : Nat}
    {line : Line}
    {lines : List Line}
    (hMember :
      line ∈ (List.replicate times lines).flatten) :
    line ∈ lines := by
  rcases List.mem_flatten.mp hMember with
    ⟨group, hGroup, hInside⟩
  rw [List.eq_of_mem_replicate hGroup] at hInside
  exact hInside

/-
  The lines that one line becomes when it and what it
  becomes are amended several times.
-/
def amendedTimes
    (times : Nat)
    (line : Line) : List Line :=
  match Declaration.recognise? line with
  | some decl =>
      decl.signatureLine ::
        (List.replicate times decl.overloadLines).flatten
  | none => [Bytes.trimEnd line]

theorem amendedTimes_of_some
    {line : Line}
    {decl : Declaration}
    (hFound : Declaration.recognise? line = some decl)
    (times : Nat) :
    line.amendedTimes times =
      decl.signatureLine ::
        (List.replicate times
          decl.overloadLines).flatten := by
  unfold amendedTimes
  rw [hFound]

theorem amendedTimes_of_none
    {line : Line}
    (hNone : Declaration.recognise? line = none)
    (times : Nat) :
    line.amendedTimes times = [Bytes.trimEnd line] := by
  unfold amendedTimes
  rw [hNone]

/- Amending once is amending. -/
theorem amendedTimes_one
    (line : Line) :
    line.amendedTimes 1 = line.amended := by
  unfold amendedTimes amended
  cases Declaration.recognise? line with
  | some decl =>
      simp [Declaration.expansionLines_eq_cons]
  | none => rfl

/- Amending once more adds one pair of overloads. -/
theorem flatMap_amended_amendedTimes
    (times : Nat)
    (line : Line) :
    (line.amendedTimes times).flatMap amended =
      line.amendedTimes (times + 1) := by
  cases hFound : Declaration.recognise? line with
  | some decl =>
      -- Earlier overloads stay, and the signature brings the
      -- new pair in front of them.
      have hOverloads :
          (List.replicate times
              decl.overloadLines).flatten.flatMap amended =
            (List.replicate times
              decl.overloadLines).flatten := by
        apply flatMap_amended_of_isPlain
        intro other hOther
        exact
          Declaration.isPlain_of_mem_overloadLines
            (mem_of_mem_flatten_replicate hOther)
      have hSignature :
          amended decl.signatureLine =
            decl.signatureLine :: decl.overloadLines := by
        unfold amended
        rw [Declaration.recognise?_signatureLine]
        exact Declaration.expansionLines_eq_cons decl
      rw [amendedTimes_of_some hFound,
        amendedTimes_of_some hFound, List.flatMap_cons,
        hOverloads, hSignature, List.replicate_succ,
        List.flatten_cons, List.cons_append]
  | none =>
      rw [amendedTimes_of_none hFound,
        amendedTimes_of_none hFound, List.flatMap_singleton]
      exact amended_of_isPlain (isPlain_trimEnd hFound)

/- A line amended several times holds no new kind of line. -/
theorem amendedTimes_subset
    (times : Nat)
    (line : Line) :
    line.amendedTimes times ⊆ line.amended := by
  intro other hOther
  unfold amended
  cases hFound : Declaration.recognise? line with
  | some decl =>
      rw [amendedTimes_of_some hFound] at hOther
      change
        other ∈ decl.signatureLine :: decl.overloadLines
      rcases List.mem_cons.mp hOther with rfl | hOverload
      · exact List.mem_cons_self
      · exact
          List.mem_cons_of_mem decl.signatureLine
            (mem_of_mem_flatten_replicate hOverload)
  | none =>
      rw [amendedTimes_of_none hFound] at hOther
      exact hOther

/- Of the lines that a line becomes, one is recognised. -/
theorem recognisedCount_amendedTimes
    (times : Nat)
    (line : Line) :
    recognisedCount (line.amendedTimes times) =
      recognisedCount [line] := by
  cases hFound : Declaration.recognise? line with
  | some decl =>
      have hOverloads :
          recognisedCount
              (List.replicate times
                decl.overloadLines).flatten =
            0 := by
        apply (recognisedCount_eq_zero_iff _).mpr
        intro other hOther
        exact
          (Declaration.isPlain_of_mem_overloadLines
            (mem_of_mem_flatten_replicate hOther)).1
      rw [amendedTimes_of_some hFound, recognisedCount_cons,
        hOverloads]
      simp [recognisedCount, hFound]
  | none =>
      rw [amendedTimes_of_none hFound]
      simp [recognisedCount]

/- A recognised line grows by two lines each time. -/
theorem length_amendedTimes
    (times : Nat)
    (line : Line) :
    (line.amendedTimes times).length =
      1 + 2 * times * recognisedCount [line] := by
  cases hFound : Declaration.recognise? line with
  | some decl =>
      have hOverloads :
          (List.replicate times
              decl.overloadLines).flatten.length =
            2 * times := by
        simp [Nat.mul_comm]
      have hOne : recognisedCount [line] = 1 := by
        simp [recognisedCount, hFound]
      rw [amendedTimes_of_some hFound, List.length_cons,
        hOverloads, hOne]
      omega
  | none =>
      have hZero : recognisedCount [line] = 0 := by
        simp [recognisedCount, hFound]
      rw [amendedTimes_of_none hFound, hZero]
      rfl

theorem recognisedCount_flatMap_amendedTimes
    (times : Nat)
    (lines : List Line) :
    recognisedCount (lines.flatMap (amendedTimes times)) =
      recognisedCount lines := by
  induction lines with
  | nil => rfl
  | cons line lines ih =>
      rw [List.flatMap_cons, recognisedCount_append, ih,
        recognisedCount_amendedTimes,
        ← recognisedCount_cons]

theorem length_flatMap_amendedTimes
    (times : Nat)
    (lines : List Line) :
    (lines.flatMap (amendedTimes times)).length =
      lines.length + 2 * times * recognisedCount lines := by
  induction lines with
  | nil => rfl
  | cons line lines ih =>
      rw [List.flatMap_cons, List.length_append, ih,
        length_amendedTimes, recognisedCount_cons line lines,
        Nat.mul_add, List.length_cons]
      omega

/- Amending once adds two lines to a recognised line. -/
theorem length_flatMap_amended
    (lines : List Line) :
    (lines.flatMap amended).length =
      lines.length + 2 * recognisedCount lines := by
  rw [← length_flatMap_amendedTimes 1 lines,
    funext amendedTimes_one]

end Line

end StreamOverloads

------------------------------------------------------------
-- Headers Amended Several Times
------------------------------------------------------------

namespace StreamOverloads

namespace AmendedHeader

/-
  The lines of a header that is amended several times, each
  time from what the time before gave.
-/
def linesAfter
    (times : Nat)
    (lines : List Line) : List Line :=
  (List.replicate times forwardLines).flatten ++
    lines.flatMap (Line.amendedTimes times)

/- The first time gives the amended header. -/
theorem lines_ofHeader_eq_linesAfter_one
    (data : Bytes) :
    (ofHeader data).lines =
      linesAfter 1 (Line.divide data) := by
  rw [lines_ofHeader, linesAfter,
    funext Line.amendedTimes_one]
  simp

/- No time gives a line that the first one did not give. -/
theorem linesAfter_subset
    (times : Nat)
    (data : Bytes) :
    linesAfter times (Line.divide data) ⊆
      (ofHeader data).lines := by
  intro line hLine
  rw [lines_ofHeader]
  rcases List.mem_append.mp hLine with hForward | hBody
  · exact
      List.mem_append_left _
        (Line.mem_of_mem_flatten_replicate hForward)
  · rcases List.mem_flatMap.mp hBody with
      ⟨given, hGiven, hInside⟩
    apply List.mem_append_right
    exact
      List.mem_flatMap.mpr
        ⟨given, hGiven,
          Line.amendedTimes_subset times given hInside⟩

theorem isUnbroken_of_mem_linesAfter
    {times : Nat}
    {data : Bytes}
    {line : Line}
    (hMember : line ∈ linesAfter times (Line.divide data)) :
    line.IsUnbroken :=
  isUnbroken_of_mem_lines_ofHeader
    (linesAfter_subset times data hMember)

theorem divide_join_linesAfter
    (times : Nat)
    (data : Bytes) :
    Line.divide
        (Line.join (linesAfter times (Line.divide data))) =
      (linesAfter times (Line.divide data)).map
        Line.terminated :=
  Line.divide_join (fun _ => isUnbroken_of_mem_linesAfter)

/- Amending once more opens with one more pair. -/
theorem forwardLines_append_flatMap_amended_linesAfter
    (times : Nat)
    (lines : List Line) :
    forwardLines ++
        (linesAfter times lines).flatMap Line.amended =
      linesAfter (times + 1) lines := by
  have hForward :
      (List.replicate times forwardLines).flatten.flatMap
          Line.amended =
        (List.replicate times forwardLines).flatten := by
    apply Line.flatMap_amended_of_isPlain
    intro line hLine
    exact
      Declaration.isPlain_of_mem_forwardLines
        (Line.mem_of_mem_flatten_replicate hLine)
  unfold linesAfter
  rw [List.flatMap_append, List.flatMap_assoc, hForward,
    List.replicate_succ, List.flatten_cons,
    List.append_assoc]
  simp only [Line.flatMap_amended_amendedTimes]

/- Joined unbroken lines are amended as they are. -/
theorem lines_ofHeader_join
    {lines : List Line}
    (hUnbroken : ∀ line ∈ lines, line.IsUnbroken) :
    (ofHeader (Line.join lines)).lines =
      forwardLines ++ lines.flatMap Line.amended := by
  rw [lines_ofHeader, Line.divide_join hUnbroken,
    List.flatMap_map]
  simp only [Line.amended_terminated]

/- Amending what one time gave gives the next time. -/
theorem lines_ofHeader_join_linesAfter
    (times : Nat)
    (data : Bytes) :
    (ofHeader
        (Line.join
          (linesAfter times (Line.divide data)))).lines =
      linesAfter (times + 1) (Line.divide data) := by
  rw [lines_ofHeader_join
    (fun _ => isUnbroken_of_mem_linesAfter)]
  exact forwardLines_append_flatMap_amended_linesAfter _ _

/- No time recognises more or fewer lines than the first. -/
theorem recognisedCount_linesAfter
    (times : Nat)
    (lines : List Line) :
    Line.recognisedCount (linesAfter times lines) =
      Line.recognisedCount lines := by
  have hForward :
      Line.recognisedCount
          (List.replicate times forwardLines).flatten =
        0 := by
    apply (Line.recognisedCount_eq_zero_iff _).mpr
    intro line hLine
    exact
      (Declaration.isPlain_of_mem_forwardLines
        (Line.mem_of_mem_flatten_replicate hLine)).1
  rw [linesAfter, Line.recognisedCount_append, hForward,
    Nat.zero_add, Line.recognisedCount_flatMap_amendedTimes]

/-
  Each time adds two lines at the top and two for each
  recognised declaration.
-/
theorem length_linesAfter
    (times : Nat)
    (lines : List Line) :
    (linesAfter times lines).length =
      lines.length + 2 * times +
        2 * times * Line.recognisedCount lines := by
  have hForward :
      (List.replicate times forwardLines).flatten.length =
        2 * times := by
    have hTwo : forwardLines.length = 2 := rfl
    simp [hTwo, Nat.mul_comm]
  rw [linesAfter, List.length_append, hForward,
    Line.length_flatMap_amendedTimes]
  omega

/- No header is its own amended header. -/
theorem toBytes_ofHeader_ne
    (data : Bytes) :
    (ofHeader data).toBytes ≠ data := by
  intro hSame
  -- An amended header has more lines than the given one.
  have hDivided := congrArg Line.divide hSame
  rw [divide_toBytes_ofHeader,
    lines_ofHeader_eq_linesAfter_one] at hDivided
  have hLength := congrArg List.length hDivided
  rw [List.length_map, length_linesAfter] at hLength
  omega

end AmendedHeader

end StreamOverloads
