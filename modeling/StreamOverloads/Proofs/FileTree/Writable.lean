import Mathlib.Tactic.MkIffOfInductiveProp
import StreamOverloads.Proofs.FileTree.Passage
import StreamOverloads.Proofs.FileTree.Writing

/-
  Which paths can be written to.

  Whether a write succeeds can be told before, from the tree
  and the path alone, and whatever the bytes are: the path
  ends in a name, the places on its way can be passed, and
  where it leads there is no directory, nor will there be one
  once those on the way are made.

  Key definitions include:
    * `FileTree.Writable`

  Main declarations:
    * `FileTree.result_write_eq_ok_iff`
-/

------------------------------------------------------------
-- Writable Paths
------------------------------------------------------------

namespace StreamOverloads

namespace FileTree

/-
  A path to which a file can be written, with the directories
  above it that are missing.
-/
@[mk_iff] structure Writable
    (tree : FileTree)
    (path : Path) : Prop where
  plain : path.holdsNul = false
  fits : path.byteLength ≤ pathLimit
  file : path.endsInSlash = false
  named : Path.Step.EndInName path.steps
  short : ∀ step ∈ path.steps, step.IsShort
  passable :
    ∀ front ∈ path.steps.dropLast.inits,
      tree.Passable (tree.origin path) front
  apart :
    ∀ front ∈ path.steps.dropLast.inits,
      Path.Step.walk (tree.origin path) front ≠
        tree.destination path
  free :
    tree.entry? (tree.destination path) ≠ some .directory

instance (tree : FileTree) (path : Path) :
    Decidable (tree.Writable path) :=
  decidable_of_iff' _ (tree.writable_iff path)

variable {tree made written : FileTree}
variable {path : Path}
variable {place : Location}
variable {data : Bytes}

/- A path that ends in a name has no vacant last piece. -/
theorem isTrimmed_of_endInName
    (hFile : path.endsInSlash = false)
    (hNamed : Path.Step.EndInName path.steps) :
    path.IsTrimmed := by
  intro piece hPiece
  rcases List.getLast?_eq_some_iff.mp hPiece with
    ⟨before, hBody⟩
  by_contra hVacant
  rw [Bool.not_eq_false] at hVacant
  rcases Piece.isVacant_iff.mp hVacant with rfl | rfl
  · simp [Path.endsInSlash, hBody] at hFile
  · rcases hNamed with ⟨name, hName⟩
    have hDot :
        [Piece.dot].filterMap Path.step? = [.stay] := by
      rfl
    rw [Path.steps, hBody, List.filterMap_append, hDot,
      ← List.append_assoc, List.getLast?_concat] at hName
    cases hName

namespace Writable

theorem isTrimmed
    (hWritable : tree.Writable path) :
    path.IsTrimmed :=
  isTrimmed_of_endInName hWritable.file hWritable.named

theorem exists_steps_eq_concat
    (hWritable : tree.Writable path) :
    ∃ before name, path.steps = before ++ [.enter name] := by
  rcases hWritable.named with ⟨name, hName⟩
  rcases List.getLast?_eq_some_iff.mp hName with
    ⟨before, hSteps⟩
  exact ⟨before, name, hSteps⟩

theorem accepted
    (hWritable : tree.Writable path) :
    refusal? path = none := by
  rcases hWritable.exists_steps_eq_concat with
    ⟨before, name, hSteps⟩
  have hVoid : path.isVoid = false := by
    simp [Path.isVoid, hSteps]
  exact
    refusal?_eq_none_iff.mpr
      ⟨hWritable.plain, hVoid, hWritable.fits⟩

/- A directory can be made at what is above the path. -/
theorem makeable_parent
    {parent : Path}
    {stays : List Path.Step}
    (hWritable : tree.Writable path)
    (hParent : parent.IsParentOf path)
    (hSteps : path.steps.dropLast = parent.steps ++ stays) :
    tree.Makeable parent where
  accepted :=
    refusal?_of_isParentOf hParent hWritable.plain
      hWritable.fits
  short := by
    intro step hStep
    exact
      hWritable.short step
        (hParent.begins.prefix_steps.subset hStep)
  passable := by
    intro front hFront
    rw [origin_of_begins hParent.begins]
    apply hWritable.passable
    rw [List.mem_inits, hSteps]
    exact hFront.trans (List.prefix_append _ stays)

/- No directory is added where the path leads. -/
theorem entry?_ne_directory
    (hWritable : tree.Writable path)
    (hAdds : AddsDirectories path.ancestors tree made) :
    made.entry? (tree.destination path) ≠
      some .directory := by
  intro hDirectory
  cases hEntry : tree.entry? (tree.destination path) with
  | some entry =>
      have hKept := hAdds.keeps _ entry hEntry
      rw [hDirectory] at hKept
      apply hWritable.free
      rw [hEntry, ← hKept]
  | none =>
      rcases hAdds.added _ _ hDirectory hEntry with
        ⟨_, other, hOther, _, hLocate⟩
      have hLeads :
          tree.destination other =
            Path.Step.walk (tree.origin path)
              other.steps := by
        rw [destination,
          origin_of_begins
            (Path.begins_of_mem_ancestors hOther)]
      have hPlace := eq_destination_of_locate_eq_ok hLocate
      rw [destination_congr hAdds.workDir, hLeads] at hPlace
      refine hWritable.apart other.steps ?_ hPlace.symm
      rw [List.mem_inits]
      exact
        hWritable.isTrimmed.steps_prefix_dropLast hOther

/- Once all on the way is made, the file can be put. -/
theorem exists_put_eq_ok
    (hWritable : tree.Writable path)
    (hAdds : AddsDirectories path.ancestors tree made)
    (hBefore :
      made.follow (made.origin path) path.steps.dropLast =
        .ok place)
    (hPlace : made.entry? place = some .directory)
    (data : Bytes) :
    ∃ written, made.put path data = .ok written := by
  rcases hWritable.exists_steps_eq_concat with
    ⟨before, name, hSteps⟩
  rw [hSteps, List.dropLast_concat] at hBefore
  have hTarget :=
    target_of_steps hWritable.accepted hSteps hBefore hPlace
  have hShort : (Path.Step.enter name).IsShort := by
    apply hWritable.short
    rw [hSteps]
    exact List.mem_append_right before List.mem_cons_self
  have hProbe :
      made.probe (name :: place) =
        .ok (made.entry? (name :: place)) :=
    probe_cons_eq_ok_iff.mpr ⟨hShort, rfl⟩
  have hFree := hWritable.entry?_ne_directory hAdds
  rw [← destination_congr hAdds.workDir,
    ← eq_destination_of_target_eq_ok hTarget] at hFree
  exact
    ⟨_, put_eq_ok_iff.mpr
      ⟨hWritable.file, name :: place, _, hTarget, hProbe,
        hFree, rfl⟩⟩

/- A writable path can be written to. -/
theorem result_write
    (hWritable : tree.Writable path)
    (data : Bytes) :
    (tree.write path data).2 = .ok () := by
  have hStart :
      tree.entry? (tree.origin path) = some .directory := by
    have hNil : [] ∈ path.steps.dropLast.inits := by
      rw [List.mem_inits]
      exact List.nil_prefix
    exact (hWritable.passable [] hNil).entry?_of_nil
  have hMake :
      ∃ made,
        tree.makeDirectories path.ancestors =
          (made, .ok ()) := by
    rcases hWritable.isTrimmed.ancestors_cases with
      ⟨hNone, _⟩ |
        ⟨parent, stays, hTrimmed, hAncestors, _, hSteps⟩
    · exact ⟨tree, by rw [hNone]; rfl⟩
    · have hParent :=
        Path.isParentOf_of_ancestors_eq_cons hAncestors
      rw [hAncestors]
      exact
        exists_makeDirectories_eq_ok hTrimmed
          (hWritable.makeable_parent hParent hSteps)
  rcases hMake with ⟨made, hMake⟩
  have hAdds :=
    addsDirectories_makeDirectories tree path.ancestors
  rw [hMake] at hAdds
  rcases exists_follow_dropLast hWritable.isTrimmed hStart
      hMake with
    ⟨place, hBefore, hPlace⟩
  rcases hWritable.exists_put_eq_ok hAdds hBefore hPlace
      data with
    ⟨written, hPut⟩
  rw [write_eq_ok_iff.mpr ⟨made, hMake, hPut⟩]

end Writable

/- Whatever is above a written path could be passed. -/
theorem passable_of_makeDirectories_ancestors
    {front : List Path.Step}
    (hTrimmed : path.IsTrimmed)
    (hMake :
      tree.makeDirectories path.ancestors = (made, .ok ()))
    (hBefore :
      made.follow (made.origin path) path.steps.dropLast =
        .ok place)
    (hPlace : made.entry? place = some .directory)
    (hFront : front <+: path.steps.dropLast) :
    tree.Passable (tree.origin path) front := by
  rcases hTrimmed.ancestors_cases with
    ⟨hNone, _⟩ |
      ⟨parent, stays, hParentTrimmed, hAncestors, hStays,
        hSteps⟩
  · rw [hNone] at hMake
    cases hMake
    exact .inl (entry?_walk_of_follow hBefore hPlace hFront)
  · have hParent :=
      Path.isParentOf_of_ancestors_eq_cons hAncestors
    rw [hAncestors] at hMake
    rw [hSteps] at hFront
    rw [← origin_of_begins hParent.begins]
    exact
      passable_of_prefix_append_stays
        (fun _ hWithin =>
          passable_of_makeDirectories_eq_ok hParentTrimmed
            hMake hWithin)
        hStays hFront

/- A path that was written to was writable. -/
theorem writable_of_write_eq_ok
    (hWrite : tree.write path data = (written, .ok ())) :
    tree.Writable path := by
  rcases write_eq_ok_iff.mp hWrite with
    ⟨made, hMake, hPut⟩
  rcases put_eq_ok_iff.mp hPut with
    ⟨hFile, place, found, hTarget, hProbe, hFound, _⟩
  rcases target_eq_ok_some_iff.mp hTarget with
    ⟨hAccepted, before, name, above, hSteps, hBefore,
      hAbove, hPlace⟩
  have hAdds :=
    addsDirectories_makeDirectories tree path.ancestors
  rw [hMake] at hAdds
  have hOrigin : made.origin path = tree.origin path :=
    origin_congr hAdds.workDir rfl
  have hNamed : Path.Step.EndInName path.steps := by
    rw [hSteps]
    exact ⟨name, List.getLast?_concat⟩
  have hDropLast : path.steps.dropLast = before := by
    rw [hSteps, List.dropLast_concat]
  have hDirectory :
      made.entry? (tree.destination path) ≠
        some .directory := by
    rw [← destination_congr hAdds.workDir,
      ← eq_destination_of_target_eq_ok hTarget,
      entry?_of_probe_eq_ok hProbe]
    exact hFound
  rcases refusal?_eq_none_iff.mp hAccepted with
    ⟨hNul, _, hFits⟩
  refine
    { plain := hNul
      fits := hFits
      file := hFile
      named := hNamed
      short := ?_
      passable := ?_
      apart := ?_
      free := ?_ }
  · intro step hStep
    rw [hSteps] at hStep
    rcases List.mem_append.mp hStep with hFirst | hLast
    · exact isShort_of_follow hBefore hFirst
    · rw [List.mem_singleton.mp hLast]
      rw [hPlace] at hProbe
      exact (probe_cons_eq_ok_iff.mp hProbe).1
  · intro front hFront
    rw [List.mem_inits] at hFront
    rw [← hDropLast] at hBefore
    exact
      passable_of_makeDirectories_ancestors
        (isTrimmed_of_endInName hFile hNamed) hMake hBefore
        hAbove hFront
  · intro front hFront hSame
    rw [List.mem_inits, hDropLast] at hFront
    have hPassed :=
      entry?_walk_of_follow hBefore hAbove hFront
    rw [hOrigin, hSame] at hPassed
    exact hDirectory hPassed
  · intro hThere
    exact hDirectory (hAdds.keeps _ _ hThere)

/-
  A write succeeds exactly if its path is writable, whatever
  the bytes are.
-/
theorem result_write_eq_ok_iff :
    (tree.write path data).2 = .ok () ↔
      tree.Writable path := by
  constructor
  · intro hDone
    exact
      writable_of_write_eq_ok
        (write_eq_of_result_eq_ok hDone)
  · intro hWritable
    exact hWritable.result_write data

/- A directory that is made on the way is in the way. -/
example :
    (ofWorkDir ["work".toList]).Writable
        (Path.ofText "gen/../new/nodes.h") ∧
      ¬ (ofWorkDir ["work".toList]).Writable
        (Path.ofText "gen/../gen") := by
  decide

end FileTree

end StreamOverloads
