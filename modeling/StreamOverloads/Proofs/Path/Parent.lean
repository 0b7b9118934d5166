import Mathlib.Data.List.DropRight
import Mathlib.Data.List.Infix
import StreamOverloads.Path

/-
  The paths above a path.

  The nearest of them is the parent: the path without its
  last component, as far as that has any text. Each of the
  others begins the parent, piece by piece.

  Key definitions include:
    * `Path.parent?`
    * `Path.Begins`
    * `Path.IsParentOf`

  Main declarations:
    * `Path.components_of_parent?_eq_some`
    * `Path.parent?_eq_none_iff`
    * `Path.isParentOf_of_parent?_eq_some`
    * `Path.exists_parent_of_mem_ancestors`
-/

------------------------------------------------------------
-- Shortened Paths
------------------------------------------------------------

namespace StreamOverloads

namespace Path

variable {piece : Piece}
variable {pieces left : List Piece}

/- The last name is lost first, with what is vacant behind. -/
theorem shortened_of_dropWhile
    (hPieces :
      pieces.dropWhile Piece.isVacant = piece :: left) :
    shortened pieces =
      (piece :: left) :: shortened left := by
  induction pieces with
  | nil => cases hPieces
  | cons first pieces ih =>
      by_cases hFirst : first.isVacant = true
      · rw [List.dropWhile_cons_of_pos hFirst] at hPieces
        rw [shortened, if_pos hFirst, ih hPieces]
      · rw [List.dropWhile_cons_of_neg hFirst] at hPieces
        cases hPieces
        rw [shortened, if_neg hFirst]

theorem shortened_of_dropWhile_eq_nil
    (hPieces : pieces.dropWhile Piece.isVacant = []) :
    shortened pieces = [] := by
  induction pieces with
  | nil => rfl
  | cons first pieces ih =>
      by_cases hFirst : first.isVacant = true
      · rw [List.dropWhile_cons_of_pos hFirst] at hPieces
        rw [shortened, if_pos hFirst, ih hPieces]
      · rw [List.dropWhile_cons_of_neg hFirst] at hPieces
        cases hPieces

/- Shortening leaves an end of the reversed pieces. -/
theorem suffix_of_mem_shortened
    (hLeft : left ∈ shortened pieces) :
    left <:+ pieces.dropWhile Piece.isVacant := by
  induction pieces with
  | nil => cases hLeft
  | cons first pieces ih =>
      by_cases hFirst : first.isVacant = true
      · rw [shortened, if_pos hFirst] at hLeft
        rw [List.dropWhile_cons_of_pos hFirst]
        exact ih hLeft
      · rw [shortened, if_neg hFirst] at hLeft
        rw [List.dropWhile_cons_of_neg hFirst]
        rcases List.mem_cons.mp hLeft with rfl | hRest
        · exact List.suffix_refl _
        · have hWithin :
              pieces.dropWhile Piece.isVacant <:+ pieces :=
            List.dropWhile_suffix _
          exact
            ((ih hRest).trans hWithin).trans
              (List.suffix_cons _ _)

end Path

end StreamOverloads

------------------------------------------------------------
-- Components
------------------------------------------------------------

namespace StreamOverloads

namespace Path

variable {piece : Piece}
variable {left : List Piece}

/- Vacant pieces at the end are no components. -/
theorem filterMap_component?_dropWhile
    (pieces : List Piece) :
    (pieces.dropWhile Piece.isVacant).reverse.filterMap
        component? =
      pieces.reverse.filterMap component? := by
  induction pieces with
  | nil => rfl
  | cons first pieces ih =>
      by_cases hFirst : first.isVacant = true
      · have hNone : component? first = none := by
          simp [component?, hFirst]
        rw [List.dropWhile_cons_of_pos hFirst, ih]
        simp [hNone]
      · rw [List.dropWhile_cons_of_neg hFirst]

/- The last piece that says something is a component. -/
theorem exists_component_of_dropWhile
    {pieces : List Piece}
    (hPieces :
      pieces.dropWhile Piece.isVacant = piece :: left) :
    ∃ component,
      pieces.reverse.filterMap component? =
        left.reverse.filterMap component? ++
          [component] := by
  have hHead := List.head?_dropWhile_not Piece.isVacant pieces
  rw [hPieces] at hHead
  have hPiece : piece.isVacant = false := by
    simpa using hHead
  have hComponent :
      ∃ component, component? piece = some component := by
    by_cases hUp : piece = Piece.dotDot
    · subst hUp
      exact ⟨.up, rfl⟩
    · exact
        ⟨.name piece, by simp [component?, hPiece, hUp]⟩
  rcases hComponent with ⟨component, hComponent⟩
  refine ⟨component, ?_⟩
  rw [← filterMap_component?_dropWhile, hPieces]
  simp [hComponent]

end Path

end StreamOverloads

------------------------------------------------------------
-- Parents
------------------------------------------------------------

namespace StreamOverloads

namespace Path

/- The path above a path, as far as it has any text. -/
def parent?
    (path : Path) : Option Path :=
  path.ancestors.head?

/- A path whose start and pieces begin another path. -/
def Begins
    (first path : Path) : Prop :=
  first.lead = path.lead ∧ first.body <+: path.body

/-
  The parent of a path, told by components: it begins the
  path, lacks the last component and has all others, of which
  there is one at least.
-/
structure IsParentOf
    (parent path : Path) : Prop where
  begins : parent.Begins path
  components :
    parent.components = path.components.dropLast
  nonempty : parent.components ≠ []

variable {path parent other : Path}
variable {piece : Piece}
variable {left : List Piece}

/-
  The path above a path whose reversed pieces, without the
  vacant ones in front, are a name and what is left of it.
-/
def withoutName
    (path : Path)
    (left : List Piece) : Path :=
  { path with
    body := (left.dropWhile Piece.isVacant).reverse }

theorem ancestors_of_dropWhile
    (hBody :
      path.body.reverse.dropWhile Piece.isVacant =
        piece :: left) :
    path.ancestors =
      ((shortened left).map fun pieces =>
          { path with body := pieces.reverse }) ++
        if path.lead = .plain then
          []
        else
          [{ path with body := [] }] := by
  unfold ancestors
  rw [shortened_of_dropWhile hBody]
  cases hLead : path.lead <;> simp

/- All that is above a path begins the nearest of it. -/
theorem begins_withoutName_of_mem_ancestors
    (hBody :
      path.body.reverse.dropWhile Piece.isVacant =
        piece :: left)
    (hOther : other ∈ path.ancestors) :
    other.Begins (path.withoutName left) := by
  rw [ancestors_of_dropWhile hBody] at hOther
  rcases List.mem_append.mp hOther with hWithin | hStart
  · rcases List.mem_map.mp hWithin with
      ⟨pieces, hPieces, rfl⟩
    exact
      ⟨rfl,
        List.reverse_prefix.mpr
          (suffix_of_mem_shortened hPieces)⟩
  · by_cases hLead : path.lead = .plain
    · simp [hLead] at hStart
    · rw [if_neg hLead, List.mem_singleton] at hStart
      rw [hStart]
      exact ⟨rfl, List.nil_prefix⟩

/- A path without its last name begins the whole path. -/
theorem withoutName_begins
    (hBody :
      path.body.reverse.dropWhile Piece.isVacant =
        piece :: left) :
    (path.withoutName left).Begins path := by
  refine ⟨rfl, ?_⟩
  have hLeft :
      left.dropWhile Piece.isVacant <:+ left :=
    List.dropWhile_suffix _
  have hBodyLeft : piece :: left <:+ path.body.reverse := by
    rw [← hBody]
    exact List.dropWhile_suffix _
  have hSuffix :=
    (hLeft.trans (List.suffix_cons piece left)).trans
      hBodyLeft
  rw [← List.reverse_prefix, List.reverse_reverse]
    at hSuffix
  exact hSuffix

/- A path without its last name lacks a component. -/
theorem components_withoutName
    (hBody :
      path.body.reverse.dropWhile Piece.isVacant =
        piece :: left) :
    (path.withoutName left).components =
      path.components.dropLast := by
  rcases exists_component_of_dropWhile hBody with
    ⟨last, hLast⟩
  rw [List.reverse_reverse] at hLast
  unfold components withoutName
  rw [filterMap_component?_dropWhile, hLast,
    ← List.append_assoc, List.dropLast_concat]

/- Nothing is above a path without names. -/
theorem ancestors_of_body_eq_nil
    (hBody : path.body = []) :
    path.ancestors = [] := by
  unfold ancestors
  rw [hBody]
  rfl

/-
  A path without its last name is the nearest one above the
  whole path, if it has any text, and what is above it are
  the others.
-/
theorem ancestors_of_dropWhile_cases
    (hBody :
      path.body.reverse.dropWhile Piece.isVacant =
        piece :: left) :
    (path.ancestors = [] ∧
        (path.withoutName left).components = []) ∨
      (path.ancestors =
          path.withoutName left ::
            (path.withoutName left).ancestors ∧
        (path.withoutName left).components ≠ []) := by
  have hAncestors := ancestors_of_dropWhile hBody
  cases hLeft : left.dropWhile Piece.isVacant with
  | nil =>
      -- Only the start of the path is above it, if any.
      have hEmpty : (path.withoutName left).body = [] := by
        rw [withoutName, hLeft, List.reverse_nil]
      have hNone := ancestors_of_body_eq_nil hEmpty
      rw [shortened_of_dropWhile_eq_nil hLeft]
        at hAncestors
      cases hLead : path.lead with
      | plain =>
          left
          simp [hAncestors, hLead, withoutName, hLeft,
            components, leadComponent]
      | root =>
          right
          rw [hNone]
          simp [hAncestors, hLead, withoutName, hLeft,
            components, leadComponent]
      | here =>
          right
          rw [hNone]
          simp [hAncestors, hLead, withoutName, hLeft,
            components, leadComponent]
  | cons second rest =>
      right
      rcases exists_component_of_dropWhile hLeft with
        ⟨last, hLast⟩
      have hNearest :
          (path.withoutName left).body.reverse.dropWhile
              Piece.isVacant =
            second :: rest := by
        rw [withoutName, List.reverse_reverse,
          List.dropWhile_idempotent, hLeft]
      constructor
      · rw [hAncestors, shortened_of_dropWhile hLeft,
          ancestors_of_dropWhile hNearest]
        simp [withoutName, hLeft]
      · unfold components withoutName
        rw [filterMap_component?_dropWhile, hLast]
        simp

/-
  The parent of a path has one component less, the last one,
  and begins the path.
-/
theorem components_of_parent?_eq_some
    (hParent : path.parent? = some parent) :
    parent.components = path.components.dropLast ∧
      parent.Begins path := by
  cases hBody :
      path.body.reverse.dropWhile Piece.isVacant with
  | nil =>
      simp [parent?, ancestors,
        shortened_of_dropWhile_eq_nil hBody] at hParent
  | cons piece left =>
      rcases ancestors_of_dropWhile_cases hBody with
        ⟨hNone, _⟩ | ⟨hHead, _⟩
      · simp [parent?, hNone] at hParent
      · unfold parent? at hParent
        rw [hHead] at hParent
        rw [← Option.some.inj hParent]
        exact
          ⟨components_withoutName hBody,
            withoutName_begins hBody⟩

/- A path without a parent has at most one component. -/
theorem parent?_eq_none_iff :
    path.parent? = none ↔
      path.components.dropLast = [] := by
  unfold parent?
  cases hBody :
      path.body.reverse.dropWhile Piece.isVacant with
  | nil =>
      have hNone :=
        filterMap_component?_dropWhile path.body.reverse
      rw [hBody, List.reverse_reverse] at hNone
      have hAncestors : path.ancestors = [] := by
        unfold ancestors
        rw [shortened_of_dropWhile_eq_nil hBody]
      have hComponents : path.components.dropLast = [] := by
        unfold components
        rw [← hNone]
        cases path.lead <;> rfl
      simp [hAncestors, hComponents]
  | cons piece left =>
      rw [← components_withoutName hBody]
      rcases ancestors_of_dropWhile_cases hBody with
        ⟨hNone, hEmpty⟩ | ⟨hHead, hText⟩
      · simp [hNone, hEmpty]
      · simp [hHead, hText]

/- The path found above a path is its parent. -/
theorem isParentOf_of_parent?_eq_some
    (hParent : path.parent? = some parent) :
    parent.IsParentOf path := by
  rcases components_of_parent?_eq_some hParent with
    ⟨hComponents, hBegins⟩
  have hFound : path.parent? ≠ none := by
    rw [hParent]
    exact Option.some_ne_none parent
  rw [Ne, parent?_eq_none_iff, ← hComponents] at hFound
  exact ⟨hBegins, hComponents, hFound⟩

/- Every path above a path begins its parent. -/
theorem exists_parent_of_mem_ancestors
    (hOther : other ∈ path.ancestors) :
    ∃ parent,
      path.parent? = some parent ∧
        other.Begins parent := by
  cases hBody :
      path.body.reverse.dropWhile Piece.isVacant with
  | nil =>
      simp [ancestors,
        shortened_of_dropWhile_eq_nil hBody] at hOther
  | cons piece left =>
      rcases ancestors_of_dropWhile_cases hBody with
        ⟨hNone, _⟩ | ⟨hHead, _⟩
      · rw [hNone] at hOther
        cases hOther
      · have hParent :
            path.parent? = some (path.withoutName left) := by
          rw [parent?, hHead, List.head?_cons]
        exact
          ⟨path.withoutName left, hParent,
            begins_withoutName_of_mem_ancestors hBody
              hOther⟩

end Path

end StreamOverloads
