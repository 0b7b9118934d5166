import StreamOverloads.Proofs.Declaration.Recognition
import StreamOverloads.Proofs.Line.Rejoining

/-
  What an amended header still tells about the given one.

  A line is read as a declaration or as a plain line, and
  what it becomes depends on nothing else. The first line
  that a reading becomes is read the same way, so readings
  can be recovered one after another from the lines of an
  amended header: it never depends on where an expansion
  ends.

  Key definitions include:
    * `PlainLine`
    * `Reading`
    * `Reading.ofLine`
    * `Reading.lines`
    * `Reading.head`

  Main declarations:
    * `Reading.ofLine_eq_iff`
    * `Reading.ofLine_head`
    * `Reading.flatMap_lines_injective`
    * `AmendedHeader.toBytes_ofHeader_eq_iff`
-/

------------------------------------------------------------
-- Plain Lines And Readings
------------------------------------------------------------

namespace StreamOverloads

/- A line that amending leaves as it is. -/
structure PlainLine where
  text : Line
  isPlain : text.IsPlain
  deriving DecidableEq

/- What a line is read as. -/
inductive Reading where
  | declaration (decl : Declaration)
  | plain (line : PlainLine)
  deriving DecidableEq

namespace PlainLine

/- What is left of a line that is not recognised. -/
def ofLine
    (line : Line)
    (hNone : Declaration.recognise? line = none) :
    PlainLine where
  text := Bytes.trimEnd line
  isPlain := Line.isPlain_trimEnd hNone

theorem ext_text
    {left right : PlainLine}
    (hText : left.text = right.text) :
    left = right := by
  cases left
  cases right
  simp only at hText
  subst hText
  rfl

end PlainLine

namespace Reading

/- Read a line. -/
def ofLine
    (line : Line) : Reading :=
  match hFound : Declaration.recognise? line with
  | some decl => .declaration decl
  | none => .plain (PlainLine.ofLine line hFound)

/- The lines that a reading becomes. -/
def lines : Reading → List Line
  | declaration decl => decl.expansionLines
  | plain line => [line.text]

/- The first line that a reading becomes. -/
def head : Reading → Line
  | declaration decl => decl.signatureLine
  | plain line => line.text

end Reading

end StreamOverloads

------------------------------------------------------------
-- Recovering Readings
------------------------------------------------------------

namespace StreamOverloads

namespace Reading

theorem ofLine_of_some
    {line : Line}
    {decl : Declaration}
    (hFound : Declaration.recognise? line = some decl) :
    ofLine line = .declaration decl := by
  unfold ofLine
  split
  · rename_i other hOther
    rw [hFound] at hOther
    rw [Option.some.inj hOther]
  · rename_i hNone
    rw [hFound] at hNone
    cases hNone

theorem ofLine_of_none
    {line : Line}
    (hNone : Declaration.recognise? line = none) :
    ofLine line = .plain (PlainLine.ofLine line hNone) := by
  unfold ofLine
  split
  · rename_i decl hFound
    rw [hNone] at hFound
    cases hFound
  · rfl

/-
  Lines are read alike exactly if they are recognised alike
  and, unless they are, have the same bytes once trimmed.
-/
theorem ofLine_eq_iff
    (left right : Line) :
    ofLine left = ofLine right ↔
      Declaration.recognise? left =
          Declaration.recognise? right ∧
        (Declaration.recognise? left = none →
          Bytes.trimEnd left = Bytes.trimEnd right) := by
  cases hLeft : Declaration.recognise? left with
  | some decl =>
      cases hRight : Declaration.recognise? right with
      | some other =>
          simp [ofLine_of_some hLeft, ofLine_of_some hRight]
      | none =>
          simp [ofLine_of_some hLeft, ofLine_of_none hRight]
  | none =>
      cases hRight : Declaration.recognise? right with
      | some other =>
          simp [ofLine_of_none hLeft, ofLine_of_some hRight]
      | none =>
          simp [ofLine_of_none hLeft, ofLine_of_none hRight,
            PlainLine.ofLine]

/- What a line becomes depends on its reading alone. -/
theorem lines_ofLine
    (line : Line) :
    (ofLine line).lines = line.amended := by
  unfold Line.amended
  cases hFound : Declaration.recognise? line with
  | some decl =>
      rw [ofLine_of_some hFound]
      rfl
  | none =>
      rw [ofLine_of_none hFound]
      rfl

theorem flatMap_lines_map_ofLine
    (lines : List Line) :
    (lines.map ofLine).flatMap Reading.lines =
      lines.flatMap Line.amended := by
  rw [List.flatMap_map]
  simp only [lines_ofLine]

/- The first line of a reading is read the same way. -/
@[simp] theorem ofLine_head
    (reading : Reading) :
    ofLine reading.head = reading := by
  cases reading with
  | declaration decl =>
      exact
        ofLine_of_some
          (Declaration.recognise?_signatureLine decl)
  | plain line =>
      rw [head, ofLine_of_none line.isPlain.1]
      congr 1
      exact PlainLine.ext_text line.isPlain.2

theorem head_injective :
    Function.Injective head :=
  Function.LeftInverse.injective ofLine_head

theorem lines_ne_nil
    (reading : Reading) :
    reading.lines ≠ [] := by
  cases reading <;> exact List.cons_ne_nil _ _

theorem head?_lines_append
    (reading : Reading)
    (rest : List Line) :
    (reading.lines ++ rest).head? = some reading.head := by
  cases reading <;> rfl

/-
  The first reading can be told from the lines, and so can
  the lines that follow it.
-/
theorem lines_append_inj
    {first second : Reading}
    {left right : List Line}
    (hEq : first.lines ++ left = second.lines ++ right) :
    first = second ∧ left = right := by
  have hHead := congrArg List.head? hEq
  rw [head?_lines_append, head?_lines_append] at hHead
  have hSame : first = second :=
    head_injective (Option.some.inj hHead)
  subst hSame
  exact ⟨rfl, List.append_cancel_left hEq⟩

/- Readings are recovered from the lines they become. -/
theorem flatMap_lines_injective :
    Function.Injective fun readings : List Reading =>
      readings.flatMap lines := by
  -- The heads line up from the left, so no expansion of one
  -- side can be matched with plain lines of the other.
  intro left
  induction left with
  | nil =>
      intro right hEq
      cases right with
      | nil => rfl
      | cons reading right =>
          have hNil :=
            (List.append_eq_nil_iff.mp hEq.symm).1
          exact (lines_ne_nil reading hNil).elim
  | cons reading left ih =>
      intro right hEq
      cases right with
      | nil =>
          have hNil := (List.append_eq_nil_iff.mp hEq).1
          exact (lines_ne_nil reading hNil).elim
      | cons other right =>
          simp only [List.flatMap_cons] at hEq
          rcases lines_append_inj hEq with ⟨rfl, hRest⟩
          rw [ih hRest]

end Reading

end StreamOverloads

------------------------------------------------------------
-- Headers With The Same Amended Header
------------------------------------------------------------

namespace StreamOverloads

namespace AmendedHeader

theorem lines_ofHeader
    (data : Bytes) :
    (ofHeader data).lines =
      forwardLines ++
        (Line.divide data).flatMap Line.amended := by
  rfl

/- The lines of an amended header are unbroken. -/
theorem isUnbroken_of_mem_lines_ofHeader
    {data : Bytes}
    {line : Line}
    (hMember : line ∈ (ofHeader data).lines) :
    line.IsUnbroken := by
  rw [lines_ofHeader, List.mem_append] at hMember
  rcases hMember with hForward | hBody
  · exact
      Declaration.isUnbroken_of_mem_forwardLines hForward
  · rcases List.mem_flatMap.mp hBody with
      ⟨given, hGiven, hAmended⟩
    unfold Line.amended at hAmended
    cases hFound : Declaration.recognise? given with
    | some decl =>
        rw [hFound] at hAmended
        exact
          Declaration.isUnbroken_of_mem_expansionLines
            hAmended
    | none =>
        rw [hFound] at hAmended
        rw [List.mem_singleton.mp hAmended]
        exact Line.isUnbroken_trimEnd_of_mem_divide hGiven

/- An amended header is divided into its lines again. -/
theorem divide_toBytes_ofHeader
    (data : Bytes) :
    Line.divide (ofHeader data).toBytes =
      (ofHeader data).lines.map Line.terminated :=
  Line.divide_join
    (fun _ => isUnbroken_of_mem_lines_ofHeader)

/-
  Two headers have the same amended header exactly if they
  have equally many lines, recognised alike line by line,
  and the same bytes in every other line once its end is
  trimmed.
-/
theorem toBytes_ofHeader_eq_iff
    (left right : Bytes) :
    (ofHeader left).toBytes = (ofHeader right).toBytes ↔
      (Line.divide left).length =
          (Line.divide right).length ∧
        ∀ (index : Nat)
          (hLeft : index < (Line.divide left).length)
          (hRight : index < (Line.divide right).length),
          Declaration.recognise? (Line.divide left)[index] =
              Declaration.recognise?
                (Line.divide right)[index] ∧
            (Declaration.recognise?
                (Line.divide left)[index] = none →
              Bytes.trimEnd (Line.divide left)[index] =
                Bytes.trimEnd
                  (Line.divide right)[index]) := by
  have hJoined :
      (ofHeader left).toBytes = (ofHeader right).toBytes ↔
        (Line.divide left).flatMap Line.amended =
          (Line.divide right).flatMap Line.amended := by
    unfold toBytes
    rw [Line.join_inj
      (fun _ => isUnbroken_of_mem_lines_ofHeader)
      (fun _ => isUnbroken_of_mem_lines_ofHeader)]
    rw [lines_ofHeader, lines_ofHeader]
    exact List.append_right_inj forwardLines
  rw [hJoined, ← Reading.flatMap_lines_map_ofLine,
    ← Reading.flatMap_lines_map_ofLine,
    Reading.flatMap_lines_injective.eq_iff,
    List.ext_getElem_iff]
  simp only [List.length_map, List.getElem_map,
    Reading.ofLine_eq_iff]

end AmendedHeader

end StreamOverloads
