import StreamOverloads.AmendedHeader
import StreamOverloads.Proofs.Line.Division

/-
  Which lines are recognised, and as what.

  A line is a declaration exactly if its trimmed bytes are
  the signature of that declaration, which is to say that it
  is that signature with white space around it. So blank
  bytes at the ends of a line have no say, a signature is
  recognised as its own declaration, and none of the lines
  that amending adds is recognised.

  Key definitions include:
    * `Declaration.StandsAlone`
    * `Line.IsPlain`
    * `Declaration.overloadLines`

  Main declarations:
    * `Declaration.recognise?_eq_some_iff`
    * `Declaration.recognise?_signatureLine`
    * `Declaration.trim_eq_signatureLine_iff`
    * `Declaration.recognise?_iff_standsAlone`
    * `Line.amended_of_isPlain`
    * `Declaration.isPlain_of_mem_overloadLines`
    * `Declaration.isPlain_of_mem_forwardLines`
-/

------------------------------------------------------------
-- Recognition
------------------------------------------------------------

namespace StreamOverloads

namespace Declaration

theorem mem_all
    (decl : Declaration) :
    decl ∈ all := by
  cases decl <;> decide

/- A line is what its trimmed bytes are the signature of. -/
theorem recognise?_eq_some_iff
    (line : Line)
    (decl : Declaration) :
    recognise? line = some decl ↔
      Bytes.trim line = decl.signatureLine := by
  constructor
  · intro hFound
    have hSame := List.find?_some hFound
    exact (beq_iff_eq.mp hSame).symm
  · intro hTrimmed
    unfold recognise?
    rw [hTrimmed]
    cases decl <;> decide

/- Lines with the same trimmed bytes are recognised alike. -/
theorem recognise?_congr
    {left right : Line}
    (hTrimmed : Bytes.trim left = Bytes.trim right) :
    recognise? left = recognise? right := by
  unfold recognise?
  rw [hTrimmed]

@[simp] theorem recognise?_trimEnd
    (line : Line) :
    recognise? (Bytes.trimEnd line) = recognise? line :=
  recognise?_congr (Bytes.trim_trimEnd line)

@[simp] theorem recognise?_terminated
    (line : Line) :
    recognise? line.terminated = recognise? line :=
  recognise?_congr (Line.trim_terminated line)

/- A signature is recognised as its own declaration. -/
@[simp] theorem recognise?_signatureLine
    (decl : Declaration) :
    recognise? decl.signatureLine = some decl := by
  cases decl <;> decide

end Declaration

end StreamOverloads

------------------------------------------------------------
-- Signatures In White Space
------------------------------------------------------------

namespace StreamOverloads

namespace Declaration

/-
  A line that is the signature of a declaration, with
  nothing but white space before and after it.
-/
def StandsAlone
    (decl : Declaration)
    (line : Line) : Prop :=
  ∃ before after : Bytes,
    (∀ byte ∈ before, Bytes.WhiteSpace byte) ∧
      (∀ byte ∈ after, Bytes.WhiteSpace byte) ∧
        line = before ++ decl.signatureLine ++ after

/- A signature has no blank byte at either end. -/
@[simp] theorem trim_signatureLine
    (decl : Declaration) :
    Bytes.trim decl.signatureLine = decl.signatureLine := by
  cases decl <;> decide

/- Trimming leaves the signature that stands alone. -/
theorem trim_eq_signatureLine_iff
    (line : Line)
    (decl : Declaration) :
    Bytes.trim line = decl.signatureLine ↔
      decl.StandsAlone line := by
  constructor
  · intro hTrimmed
    rcases Bytes.exists_whiteSpace_ends line with
      ⟨before, after, hBefore, hAfter, hLine⟩
    rw [hTrimmed] at hLine
    exact ⟨before, after, hBefore, hAfter, hLine⟩
  · rintro ⟨before, after, hBefore, hAfter, rfl⟩
    rw [Bytes.trim_whiteSpace_ends hBefore
      decl.signatureLine hAfter]
    exact trim_signatureLine decl

/- A line with a signature alone on it is recognised. -/
theorem recognise?_eq_some_iff_standsAlone
    (line : Line)
    (decl : Declaration) :
    recognise? line = some decl ↔ decl.StandsAlone line :=
  (recognise?_eq_some_iff line decl).trans
    (trim_eq_signatureLine_iff line decl)

/- No line has two signatures alone on it. -/
theorem StandsAlone.unique
    {decl other : Declaration}
    {line : Line}
    (hDecl : decl.StandsAlone line)
    (hOther : other.StandsAlone line) :
    decl = other := by
  rw [← recognise?_eq_some_iff_standsAlone]
    at hDecl hOther
  exact Option.some.inj (hDecl.symm.trans hOther)

/-
  A line is recognised as a declaration exactly if the
  signature of that declaration stands alone on it, and not
  at all if none does. No two of them do, and white space
  around a line changes nothing.
-/
theorem recognise?_iff_standsAlone
    (line : Line) :
    (∀ decl : Declaration,
        recognise? line = some decl ↔
          decl.StandsAlone line) ∧
      (recognise? line = none ↔
        ∀ decl : Declaration, ¬ decl.StandsAlone line) ∧
      (∀ decl other : Declaration,
        decl.StandsAlone line →
          other.StandsAlone line → decl = other) ∧
      ∀ before after : Bytes,
        (∀ byte ∈ before, Bytes.WhiteSpace byte) →
          (∀ byte ∈ after, Bytes.WhiteSpace byte) →
            recognise? (before ++ line ++ after) =
              recognise? line := by
  refine
    ⟨recognise?_eq_some_iff_standsAlone line, ?_,
      fun _ _ => StandsAlone.unique, ?_⟩
  · simp only [Option.eq_none_iff_forall_ne_some, ne_eq,
      recognise?_eq_some_iff_standsAlone]
  · intro before after hBefore hAfter
    apply recognise?_congr
    exact Bytes.trim_whiteSpace_ends hBefore line hAfter

/- A signature between a space and another line end. -/
theorem recognise?_iff_standsAlone_indented :
    Declaration.virtual.StandsAlone
        ([32] ++ Declaration.virtual.signatureLine ++
          [13, 10]) ∧
      recognise?
          ([32] ++ Declaration.virtual.signatureLine ++
            [13, 10]) =
        recognise? Declaration.virtual.signatureLine := by
  have hBefore :
      ∀ byte ∈ ([32] : Bytes), Bytes.WhiteSpace byte :=
    List.forall_mem_singleton.mpr Bytes.WhiteSpace.space
  have hAfter :
      ∀ byte ∈ ([13, 10] : Bytes), Bytes.WhiteSpace byte :=
    List.forall_mem_cons.mpr
      ⟨Bytes.WhiteSpace.carriageReturn,
        List.forall_mem_singleton.mpr
          Bytes.WhiteSpace.lineFeed⟩
  have hLaw :=
    recognise?_iff_standsAlone
      Declaration.virtual.signatureLine
  exact
    ⟨⟨[32], [13, 10], hBefore, hAfter, rfl⟩,
      hLaw.2.2.2 [32] [13, 10] hBefore hAfter⟩

end Declaration

end StreamOverloads

------------------------------------------------------------
-- Plain Lines
------------------------------------------------------------

namespace StreamOverloads

namespace Line

/- A line that is not recognised and has no blank end. -/
def IsPlain
    (line : Line) : Prop :=
  Declaration.recognise? line = none ∧
    Bytes.trimEnd line = line

instance (line : Line) : Decidable line.IsPlain := by
  unfold IsPlain
  infer_instance

/- What is left of a line that is not recognised is plain. -/
theorem isPlain_trimEnd
    {line : Line}
    (hNone : Declaration.recognise? line = none) :
    IsPlain (Bytes.trimEnd line) := by
  constructor
  · rw [Declaration.recognise?_trimEnd, hNone]
  · exact Bytes.trimEnd_trimEnd line

/- A line that is not recognised is only trimmed. -/
theorem amended_of_none
    {line : Line}
    (hNone : Declaration.recognise? line = none) :
    line.amended = [Bytes.trimEnd line] := by
  unfold amended
  rw [hNone]

/- Amending leaves a plain line as it is. -/
theorem amended_of_isPlain
    {line : Line}
    (hPlain : line.IsPlain) :
    line.amended = [line] := by
  rw [amended_of_none hPlain.1, hPlain.2]

/- Lines that are not recognised are only trimmed. -/
theorem flatMap_amended_of_forall_none
    {lines : List Line}
    (hNone :
      ∀ line ∈ lines,
        Declaration.recognise? line = none) :
    lines.flatMap amended = lines.map Bytes.trimEnd := by
  rw [List.map_eq_flatMap]
  apply List.flatMap_congr
  intro line hLine
  exact amended_of_none (hNone line hLine)

/- Amending leaves plain lines as they are. -/
theorem flatMap_amended_of_isPlain
    {lines : List Line}
    (hPlain : ∀ line ∈ lines, line.IsPlain) :
    lines.flatMap amended = lines := by
  have hNone :
      ∀ line ∈ lines,
        Declaration.recognise? line = none :=
    fun line hLine => (hPlain line hLine).1
  have hSame :
      ∀ line ∈ lines, Bytes.trimEnd line = id line :=
    fun line hLine => (hPlain line hLine).2
  rw [flatMap_amended_of_forall_none hNone,
    List.map_congr_left hSame, List.map_id]

/- A line feed does not change what a line becomes. -/
theorem amended_terminated
    (line : Line) :
    line.terminated.amended = line.amended := by
  unfold amended
  rw [Declaration.recognise?_terminated,
    trimEnd_terminated]

/- Blank bytes at its end do not change what a line becomes. -/
theorem amended_trimEnd
    (line : Line) :
    amended (Bytes.trimEnd line) = line.amended := by
  unfold amended
  rw [Declaration.recognise?_trimEnd, Bytes.trimEnd_trimEnd]

end Line

namespace Declaration

/- The lines that follow a recognised declaration. -/
def overloadLines
    (decl : Declaration) : List Line :=
  [StreamClass.compress, StreamClass.decompress].map
    fun stream => Bytes.ofText (decl.overload stream)

theorem expansionLines_eq_cons
    (decl : Declaration) :
    decl.expansionLines =
      decl.signatureLine :: decl.overloadLines := by
  rfl

@[simp] theorem length_overloadLines
    (decl : Declaration) :
    decl.overloadLines.length = 2 := by
  rfl

/- Overloads are plain lines. -/
theorem isPlain_of_mem_overloadLines
    {decl : Declaration}
    {line : Line}
    (hMember : line ∈ decl.overloadLines) :
    line.IsPlain := by
  revert line
  cases decl <;> decide

/- Forward declarations are plain lines. -/
theorem isPlain_of_mem_forwardLines
    {line : Line}
    (hMember : line ∈ forwardLines) :
    line.IsPlain := by
  revert line
  decide

/- The lines of an expansion are unbroken. -/
theorem isUnbroken_of_mem_expansionLines
    {decl : Declaration}
    {line : Line}
    (hMember : line ∈ decl.expansionLines) :
    line.IsUnbroken := by
  revert line
  cases decl <;> decide

/- The forward declarations are unbroken. -/
theorem isUnbroken_of_mem_forwardLines
    {line : Line}
    (hMember : line ∈ forwardLines) :
    line.IsUnbroken := by
  revert line
  decide

end Declaration

end StreamOverloads
