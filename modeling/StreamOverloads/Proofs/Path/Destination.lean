import StreamOverloads.Proofs.FileTree.Lookup

/-
  When two paths with the same place have the same
  components.

  Paths are compared by components but looked up by steps.
  For two paths that start alike and never go up the two
  readings agree: what they name decides their components.
  For others they do not: `a` and `./a`, or `a` and
  `b/../a`, differ in their components and name one place.

  Key definitions include:
    * `Path.names`
    * `Path.IsDescending`

  Main declarations:
    * `FileTree.destination_of_isDescending`
    * `FileTree.components_eq_of_destination_eq`
-/

------------------------------------------------------------
-- Descending Paths
------------------------------------------------------------

namespace StreamOverloads

namespace Path

/- The pieces of a path that say something. -/
def names
    (body : List Piece) : List Piece :=
  body.filter fun piece => !piece.isVacant

/- A path that never goes up. -/
def IsDescending
    (path : Path) : Prop :=
  Piece.dotDot ∉ path.body

instance (path : Path) : Decidable path.IsDescending :=
  inferInstanceAs
    (Decidable (Piece.dotDot ∉ path.body))

/- Without going up, steps enter what the pieces name. -/
theorem walk_filterMap_step?
    (place : Location)
    {body : List Piece}
    (hBody : Piece.dotDot ∉ body) :
    Step.walk place (body.filterMap step?) =
      (names body).reverse ++ place := by
  induction body generalizing place with
  | nil => rfl
  | cons piece body ih =>
      rw [List.mem_cons, not_or] at hBody
      have hUp : piece ≠ Piece.dotDot := Ne.symm hBody.1
      by_cases hEmpty : piece = []
      · subst hEmpty
        simpa [step?, names, Piece.isVacant]
          using ih place hBody.2
      · by_cases hDot : piece = Piece.dot
        · subst hDot
          simpa [step?, names, Piece.isVacant, Step.walk,
            Step.move, hEmpty] using ih place hBody.2
        · simpa [step?, names, Piece.isVacant, Step.walk,
            Step.move, hEmpty, hDot, hUp]
            using ih (piece :: place) hBody.2

/- Without going up, components are what the pieces name. -/
theorem filterMap_component?
    {body : List Piece}
    (hBody : Piece.dotDot ∉ body) :
    body.filterMap component? =
      (names body).map .name := by
  induction body with
  | nil => rfl
  | cons piece body ih =>
      rw [List.mem_cons, not_or] at hBody
      have hUp : piece ≠ Piece.dotDot := Ne.symm hBody.1
      have hRest := ih hBody.2
      by_cases hVacant : piece.isVacant = true
      · simpa [component?, names, hVacant] using hRest
      · simpa [component?, names, hVacant, hUp]
          using hRest

end Path

namespace FileTree

/- How a path starts does not take it anywhere. -/
theorem walk_leadStep
    (place : Location)
    (lead : Lead) :
    Path.Step.walk place (Path.leadStep lead) = place := by
  cases lead <;> rfl

/- A path that never goes up leads to what it names. -/
theorem destination_of_isDescending
    (tree : FileTree)
    {path : Path}
    (hPath : path.IsDescending) :
    tree.destination path =
      (Path.names path.body).reverse ++
        tree.origin path := by
  unfold destination Path.steps
  rw [Path.Step.walk_append, walk_leadStep,
    Path.walk_filterMap_step? _ hPath]

/-
  Paths that start alike, never go up and lead to one place
  have the same components.
-/
theorem components_eq_of_destination_eq
    {tree : FileTree}
    {left right : Path}
    (hLead : left.lead = right.lead)
    (hLeft : left.IsDescending)
    (hRight : right.IsDescending)
    (hSame :
      tree.destination left = tree.destination right) :
    left.components = right.components := by
  have hOrigin : tree.origin left = tree.origin right :=
    origin_congr rfl hLead
  rw [destination_of_isDescending tree hLeft,
    destination_of_isDescending tree hRight,
    hOrigin] at hSame
  have hNames :
      Path.names left.body = Path.names right.body :=
    List.reverse_inj.mp (List.append_cancel_right hSame)
  unfold Path.components
  rw [Path.filterMap_component? hLeft,
    Path.filterMap_component? hRight, hNames, hLead]

end FileTree

end StreamOverloads
