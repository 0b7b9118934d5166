import StreamOverloads.Proofs.FileTree.Writing
import StreamOverloads.Proofs.Path.Parent

/-
  What a write leaves alone.

  Whether it succeeds or not, a write removes nothing, and
  every directory it adds is called by the parent of the
  written path or by something that the parent begins with.
  A write that fails keeps all files; one that succeeds keeps
  all files but the written one.

  Key definitions include:
    * `FileTree.SameFileAt`
    * `FileTree.RemovesNothing`
    * `FileTree.AddsOnlyAbove`

  Main declarations:
    * `FileTree.sameFileAt_write_of_error`
    * `FileTree.sameFileAt_write_of_ne`
    * `FileTree.removesNothing_write`
    * `FileTree.addsOnlyAbove_write`
-/

------------------------------------------------------------
-- Frames
------------------------------------------------------------

namespace StreamOverloads

namespace FileTree

/- Two trees hold the same file at a place, or none. -/
def SameFileAt
    (place : Location)
    (tree later : FileTree) : Prop :=
  ∀ data : Bytes,
    later.entry? place = some (.file data) ↔
      tree.entry? place = some (.file data)

/-
  In the later tree each directory is still a directory, and
  each file is still a file, if with other bytes.
-/
structure RemovesNothing
    (tree later : FileTree) : Prop where
  directory :
    ∀ place, tree.entry? place = some .directory →
      later.entry? place = some .directory
  file :
    ∀ place data,
      tree.entry? place = some (.file data) →
        ∃ other, later.entry? place = some (.file other)

/-
  The directories that only the later tree has are reached
  by the parent of a path, or by a path that begins the
  parent. The parent is the path without its last component.
-/
def AddsOnlyAbove
    (path : Path)
    (tree later : FileTree) : Prop :=
  ∀ place, later.entry? place = some .directory →
    tree.entry? place ≠ some .directory →
      ∃ parent above,
        path.parent? = some parent ∧
          parent.IsParentOf path ∧
          above.Begins parent ∧
          later.locate above = .ok place

end FileTree

end StreamOverloads

------------------------------------------------------------
-- Added Directories
------------------------------------------------------------

namespace StreamOverloads

namespace FileTree

variable {tree later : FileTree}
variable {path : Path}

namespace AddsDirectories

theorem removesNothing
    {paths : List Path}
    (hAdds : AddsDirectories paths tree later) :
    RemovesNothing tree later where
  directory := fun place => hAdds.keeps place .directory
  file := by
    intro place data hFile
    exact ⟨data, hAdds.keeps place (.file data) hFile⟩

/- A directory is new only where nothing was. -/
theorem addsOnlyAbove
    (hAdds : AddsDirectories path.ancestors tree later) :
    AddsOnlyAbove path tree later := by
  intro place hDirectory hNew
  have hNone : tree.entry? place = none := by
    cases hEntry : tree.entry? place with
    | none => rfl
    | some entry =>
        have hKept := hAdds.keeps place entry hEntry
        rw [hDirectory] at hKept
        rw [hEntry, ← hKept] at hNew
        exact (hNew rfl).elim
  rcases hAdds.added place .directory hDirectory hNone with
    ⟨_, above, hAbove, _, hLocate⟩
  rcases Path.exists_parent_of_mem_ancestors hAbove with
    ⟨parent, hParent, hBegins⟩
  exact
    ⟨parent, above, hParent,
      Path.isParentOf_of_parent?_eq_some hParent, hBegins,
      hLocate⟩

end AddsDirectories

end FileTree

end StreamOverloads

------------------------------------------------------------
-- Writes
------------------------------------------------------------

namespace StreamOverloads

namespace FileTree

variable {tree : FileTree}
variable {place : Location}
variable {path : Path}
variable {data : Bytes}

/- A write that fails keeps every file. -/
theorem sameFileAt_write_of_error
    {fault : Fault}
    (hFailed : (tree.write path data).2 = .error fault)
    (place : Location) :
    SameFileAt place tree (tree.write path data).1 :=
  (addsDirectories_write_of_error
    hFailed).entry?_eq_file_iff place

/- A write keeps every file but the one its path names. -/
theorem sameFileAt_write_of_ne
    (hDone : (tree.write path data).2 = .ok ())
    (hPlace : place ≠ tree.destination path) :
    SameFileAt place tree (tree.write path data).1 := by
  rcases exists_set_of_write_eq_ok hDone with
    ⟨made, hMade, hDirectory, hSet⟩
  have hRoot := ne_nil_of_entry?_ne_directory hDirectory
  intro other
  rw [hSet, entry?_set hRoot, if_neg hPlace]
  exact hMade.entry?_eq_file_iff place other

theorem removesNothing_write
    (tree : FileTree)
    (path : Path)
    (data : Bytes) :
    RemovesNothing tree (tree.write path data).1 := by
  cases hResult : (tree.write path data).2 with
  | error fault =>
      exact
        (addsDirectories_write_of_error
          hResult).removesNothing
  | ok done =>
      refine
        ⟨(sustains_write tree path data).directory, ?_⟩
      intro place held hFile
      by_cases hPlace : place = tree.destination path
      · subst hPlace
        exact ⟨data, entry?_write_of_ok hResult⟩
      · exact
          ⟨held, entry?_write_of_ne hPlace hFile data⟩

theorem addsOnlyAbove_write
    (tree : FileTree)
    (path : Path)
    (data : Bytes) :
    AddsOnlyAbove path tree (tree.write path data).1 := by
  cases hResult : (tree.write path data).2 with
  | error fault =>
      exact
        (addsDirectories_write_of_error
          hResult).addsOnlyAbove
  | ok done =>
      rcases exists_set_of_write_eq_ok hResult with
        ⟨made, hMade, hHeld, hSet⟩
      have hRoot := ne_nil_of_entry?_ne_directory hHeld
      intro place hDirectory hNew
      -- The written place is a file, so this one was made.
      have hPlace : place ≠ tree.destination path := by
        rintro rfl
        rw [entry?_write_of_ok hResult] at hDirectory
        cases hDirectory
      rw [hSet, entry?_set hRoot, if_neg hPlace]
        at hDirectory
      rcases hMade.addsOnlyAbove place hDirectory hNew with
        ⟨parent, above, hParent, hNearest, hBegins, hLocate⟩
      rw [hSet]
      exact
        ⟨parent, above, hParent, hNearest, hBegins,
          (Sustains.of_set hHeld).locate_eq_ok hLocate⟩

end FileTree

end StreamOverloads
