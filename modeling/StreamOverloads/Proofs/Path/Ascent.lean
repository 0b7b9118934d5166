import Mathlib.Data.List.TakeWhile
import StreamOverloads.Proofs.Path.Parent

/-
  Paths above a path, step by step.

  The steps of a path are those of its parent, some that stay
  where they are, and its last one. The parent is no longer
  than the path, and all it holds the path holds too.

  Key definitions include:
    * `Path.IsTrimmed`

  Main declarations:
    * `Path.IsTrimmed.ancestors_cases`
    * `Path.IsTrimmed.ascent`
    * `Path.Begins.prefix_steps`
    * `Path.Begins.byteLength_le`
    * `Path.IsParentOf.isVoid_eq_false`
-/

------------------------------------------------------------
-- Steps
------------------------------------------------------------

namespace StreamOverloads

namespace Path

/- A path whose last piece, if it has any, is not vacant. -/
def IsTrimmed
    (path : Path) : Prop :=
  ∀ piece ∈ path.body.getLast?, piece.isVacant = false

variable {path : Path}
variable {piece : Piece}
variable {left : List Piece}

/- Losing the last name trims a path. -/
theorem isTrimmed_withoutName
    (path : Path)
    (left : List Piece) :
    (path.withoutName left).IsTrimmed := by
  intro piece hLast
  have hHead :=
    List.head?_dropWhile_not Piece.isVacant left
  rw [withoutName, List.getLast?_reverse,
    Option.mem_def] at hLast
  rw [hLast] at hHead
  simpa using hHead

theorem step?_of_isVacant
    {step : Step}
    (hPiece : piece.isVacant = true)
    (hStep : step? piece = some step) :
    step = .stay := by
  rcases Piece.isVacant_iff.mp hPiece with rfl | rfl
  · cases hStep
  · exact (Option.some.inj hStep).symm

/- Vacant pieces do not lead anywhere. -/
theorem eq_stay_of_mem_filterMap
    {pieces : List Piece}
    {step : Step}
    (hPieces : ∀ piece ∈ pieces, piece.isVacant = true)
    (hStep : step ∈ pieces.filterMap step?) :
    step = .stay := by
  rcases List.mem_filterMap.mp hStep with
    ⟨piece, hPiece, hStands⟩
  exact step?_of_isVacant (hPieces piece hPiece) hStands

/- A path without components does not lead anywhere. -/
theorem eq_stay_of_components_eq_nil
    {step : Step}
    (hNone : path.components = [])
    (hStep : step ∈ path.steps) :
    step = .stay := by
  have hBoth := List.append_eq_nil_iff.mp hNone
  have hPieces :
      ∀ piece ∈ path.body, piece.isVacant = true := by
    intro piece hPiece
    have hVacant :=
      List.filterMap_eq_nil_iff.mp hBoth.2 piece hPiece
    unfold component? at hVacant
    grind
  rcases List.mem_append.mp hStep with hLead | hBody
  · cases hStart : path.lead with
    | here =>
        rw [hStart] at hBoth
        cases hBoth.1
    | root =>
        rw [hStart] at hLead
        cases hLead
    | plain =>
        rw [hStart] at hLead
        cases hLead
  · exact eq_stay_of_mem_filterMap hPieces hBody

/-
  The steps before the last one are those of the path without
  its last name, and some that stay.
-/
theorem dropLast_steps_of_reverse_eq_cons
    (hBody : path.body.reverse = piece :: left)
    (hPiece : piece.isVacant = false) :
    ∃ stays : List Step,
      (∀ step ∈ stays, step = .stay) ∧
        path.steps.dropLast =
          (path.withoutName left).steps ++ stays := by
  have hStep : ∃ last, step? piece = some last := by
    have hSays := Piece.not_isVacant_iff.mp hPiece
    unfold step?
    rw [if_neg hSays.1, if_neg hSays.2]
    by_cases hUp : piece = Piece.dotDot
    · exact ⟨.up, if_pos hUp⟩
    · exact ⟨.enter piece, if_neg hUp⟩
  rcases hStep with ⟨last, hLast⟩
  have hPieces :
      path.body =
        (left.dropWhile Piece.isVacant).reverse ++
          (left.takeWhile Piece.isVacant).reverse ++
          [piece] := by
    rw [← List.reverse_append,
      List.takeWhile_append_dropWhile, ← List.reverse_cons,
      ← hBody, List.reverse_reverse]
  refine
    ⟨(left.takeWhile Piece.isVacant).reverse.filterMap
        step?,
      ?_, ?_⟩
  · intro step hStay
    refine eq_stay_of_mem_filterMap ?_ hStay
    intro other hOther
    exact
      List.mem_takeWhile_imp (List.mem_reverse.mp hOther)
  · unfold steps withoutName
    rw [hPieces, List.filterMap_append,
      List.filterMap_append,
      List.filterMap_cons_some hLast, List.filterMap_nil,
      ← List.append_assoc, List.dropLast_concat,
      List.append_assoc]

/-
  Above a trimmed path there is nothing and its steps before
  the last one stay, or there is its parent and what is above
  that, and the steps before the last one lead to the parent.
-/
theorem IsTrimmed.ancestors_cases
    (hTrimmed : path.IsTrimmed) :
    (path.ancestors = [] ∧
        ∀ step ∈ path.steps.dropLast, step = .stay) ∨
      ∃ (parent : Path) (stays : List Step),
        parent.IsTrimmed ∧
          path.ancestors = parent :: parent.ancestors ∧
          (∀ step ∈ stays, step = .stay) ∧
          path.steps.dropLast = parent.steps ++ stays := by
  cases hBody : path.body.reverse with
  | nil =>
      have hEmpty := List.reverse_eq_nil_iff.mp hBody
      refine .inl ⟨ancestors_of_body_eq_nil hEmpty, ?_⟩
      unfold steps
      rw [hEmpty]
      cases path.lead <;> simp [leadStep]
  | cons piece left =>
      have hPiece : piece.isVacant = false := by
        apply hTrimmed
        rw [Option.mem_def, ← List.head?_reverse, hBody]
        rfl
      have hDrop :
          path.body.reverse.dropWhile Piece.isVacant =
            piece :: left := by
        rw [hBody]
        exact List.dropWhile_cons_of_neg (by simp [hPiece])
      rcases dropLast_steps_of_reverse_eq_cons hBody
          hPiece with
        ⟨stays, hStays, hSteps⟩
      rcases ancestors_of_dropWhile_cases hDrop with
        ⟨hNone, hEmpty⟩ | ⟨hAncestors, _⟩
      · refine .inl ⟨hNone, ?_⟩
        rw [hSteps]
        intro step hStep
        rcases List.mem_append.mp hStep with hAbove | hStay
        · exact eq_stay_of_components_eq_nil hEmpty hAbove
        · exact hStays step hStay
      · exact
          .inr
            ⟨path.withoutName left, stays,
              isTrimmed_withoutName path left, hAncestors,
              hStays, hSteps⟩

/-
  What holds of trimmed paths with nothing above them, and of
  each path whose parent it holds of, holds of all trimmed
  paths.
-/
@[elab_as_elim] theorem IsTrimmed.ascent
    {motive : (path : Path) → path.IsTrimmed → Prop}
    (top :
      ∀ path (hTrimmed : path.IsTrimmed),
        path.ancestors = [] →
          (∀ step ∈ path.steps.dropLast, step = .stay) →
            motive path hTrimmed)
    (below :
      ∀ path parent stays
        (hTrimmed : path.IsTrimmed)
        (hParentTrimmed : parent.IsTrimmed),
        path.ancestors = parent :: parent.ancestors →
          (∀ step ∈ stays, step = .stay) →
            path.steps.dropLast = parent.steps ++ stays →
              motive parent hParentTrimmed →
                motive path hTrimmed)
    {path : Path}
    (hTrimmed : path.IsTrimmed) :
    motive path hTrimmed := by
  generalize hCount : path.ancestors.length = count
  induction count using Nat.strong_induction_on
      generalizing path with
  | _ count ih =>
      rcases hTrimmed.ancestors_cases with
        ⟨hNone, hStays⟩ |
          ⟨parent, stays, hParentTrimmed, hAncestors,
            hStays, hSteps⟩
      · exact top path hTrimmed hNone hStays
      · have hFewer : parent.ancestors.length < count := by
          rw [← hCount, hAncestors, List.length_cons]
          exact Nat.lt_succ_self _
        exact
          below path parent stays hTrimmed hParentTrimmed
            hAncestors hStays hSteps
            (ih _ hFewer hParentTrimmed rfl)

end Path

end StreamOverloads

------------------------------------------------------------
-- Beginnings
------------------------------------------------------------

namespace StreamOverloads

namespace Piece

theorem byteLength_append
    (first second : List Char) :
    byteLength (first ++ second) =
      byteLength first + byteLength second := by
  induction first with
  | nil => simp [byteLength]
  | cons char first ih =>
      rw [List.cons_append, byteLength, byteLength, ih,
        Nat.add_assoc]

theorem byteLength_le_of_prefix
    {first whole : List Char}
    (hPrefix : first <+: whole) :
    byteLength first ≤ byteLength whole := by
  rcases hPrefix with ⟨rest, rfl⟩
  rw [byteLength_append]
  exact Nat.le_add_right _ _

/- The text of fewer pieces begins the text of all. -/
theorem intercalate_prefix
    {separator : List Char}
    {first whole : List Piece}
    (hPrefix : first <+: whole) :
    separator.intercalate first <+:
      separator.intercalate whole := by
  rcases hPrefix with ⟨rest, rfl⟩
  induction first with
  | nil => simp
  | cons piece first ih =>
      cases first with
      | nil =>
          cases rest with
          | nil => exact List.prefix_refl _
          | cons next rest =>
              simp [List.intercalate_cons_cons,
                List.append_assoc]
      | cons next first =>
          rw [List.cons_append, List.cons_append,
            List.intercalate_cons_cons,
            List.intercalate_cons_cons]
          exact (List.prefix_append_right_inj _).mpr ih

end Piece

namespace Path

namespace Begins

variable {first path : Path}

theorem prefix_steps
    (hBegins : first.Begins path) :
    first.steps <+: path.steps := by
  unfold steps
  rw [hBegins.1]
  exact
    (List.prefix_append_right_inj _).mpr
      (hBegins.2.filterMap step?)

theorem trans
    {second : Path}
    (hFirst : first.Begins second)
    (hSecond : second.Begins path) :
    first.Begins path :=
  ⟨hFirst.1.trans hSecond.1, hFirst.2.trans hSecond.2⟩

theorem byteLength_le
    (hBegins : first.Begins path) :
    first.byteLength ≤ path.byteLength := by
  apply Piece.byteLength_le_of_prefix
  unfold toChars
  rw [hBegins.1]
  cases path.lead with
  | root =>
      exact
        List.cons_prefix_cons.mpr
          ⟨rfl, Piece.intercalate_prefix hBegins.2⟩
  | here =>
      exact
        Piece.intercalate_prefix
          (List.cons_prefix_cons.mpr ⟨rfl, hBegins.2⟩)
  | plain => exact Piece.intercalate_prefix hBegins.2

theorem holdsNul_eq_false
    (hBegins : first.Begins path)
    (hPath : path.holdsNul = false) :
    first.holdsNul = false := by
  unfold holdsNul at hPath ⊢
  rw [List.any_eq_false] at hPath ⊢
  intro piece hPiece
  exact hPath piece (hBegins.2.subset hPiece)

end Begins

variable {path parent other : Path}
variable {above : List Path}

/- The nearest path above a path is its parent. -/
theorem isParentOf_of_ancestors_eq_cons
    (hAncestors : path.ancestors = parent :: above) :
    parent.IsParentOf path := by
  apply isParentOf_of_parent?_eq_some
  rw [parent?, hAncestors, List.head?_cons]

/- Every path above a path begins it. -/
theorem begins_of_mem_ancestors
    (hOther : other ∈ path.ancestors) :
    other.Begins path := by
  rcases exists_parent_of_mem_ancestors hOther with
    ⟨parent, hParent, hBegins⟩
  exact
    hBegins.trans
      (isParentOf_of_parent?_eq_some hParent).begins

/- To a path above a path lead some steps before the last. -/
theorem IsTrimmed.steps_prefix_dropLast
    (hTrimmed : path.IsTrimmed)
    (hOther : other ∈ path.ancestors) :
    other.steps <+: path.steps.dropLast := by
  rcases hTrimmed.ancestors_cases with
    ⟨hNone, _⟩ | ⟨parent, stays, _, hAncestors, _, hSteps⟩
  · rw [hNone] at hOther
    cases hOther
  · rw [hAncestors] at hOther
    rw [hSteps]
    apply List.IsPrefix.trans ?_ (List.prefix_append _ stays)
    rcases List.mem_cons.mp hOther with rfl | hAbove
    · exact List.prefix_refl _
    · exact (begins_of_mem_ancestors hAbove).prefix_steps

/- A parent says something, unlike a path without text. -/
theorem IsParentOf.isVoid_eq_false
    (hParent : parent.IsParentOf path) :
    parent.isVoid = false := by
  by_contra hVoid
  rw [Bool.not_eq_false] at hVoid
  have hNone : parent.lead = .plain ∧ parent.steps = [] := by
    simpa [isVoid] using hVoid
  have hBody :=
    List.filterMap_eq_nil_iff.mp
      (List.append_eq_nil_iff.mp hNone.2).2
  apply hParent.nonempty
  unfold Path.components
  rw [hNone.1]
  refine List.filterMap_eq_nil_iff.mpr ?_
  intro piece hPiece
  have hStep := hBody piece hPiece
  unfold step? at hStep
  have hEmpty : piece = [] := by grind
  subst hEmpty
  rfl

end Path

end StreamOverloads
