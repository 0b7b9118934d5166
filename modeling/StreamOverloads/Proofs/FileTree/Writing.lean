import StreamOverloads.Proofs.FileTree.Directories

/-
  What writing a file changes.

  A write that fails only adds directories. A write that
  succeeds also sets one place, the one that the path names,
  to a file with the written bytes, and the path leads there
  afterwards. No directory and no other file is touched, so
  every path that could be looked up before still leads where
  it led. Writing the same bytes once more finds everything
  as it should be and changes nothing.

  Main declarations:
    * `FileTree.put_eq_ok_iff`
    * `FileTree.write_eq_ok_iff`
    * `FileTree.addsDirectories_write_of_error`
    * `FileTree.exists_set_of_write_eq_ok`
    * `FileTree.sustains_write`
    * `FileTree.read_write_of_ok`
    * `FileTree.write_write`
-/

------------------------------------------------------------
-- Putting A File
------------------------------------------------------------

namespace StreamOverloads

namespace FileTree

variable {tree written : FileTree}
variable {path : Path}
variable {data : Bytes}

/- A file is put at a target that holds no directory. -/
theorem put_eq_ok_iff :
    tree.put path data = .ok written ↔
      path.endsInSlash = false ∧
        ∃ place found,
          tree.target path = .ok (some place) ∧
            tree.probe place = .ok found ∧
            found ≠ some .directory ∧
            written = tree.set place (.file data) := by
  unfold put
  cases tree.target path with
  | error fault => simp
  | ok target =>
      cases target with
      | none => simp
      | some place =>
          cases hSlash : path.endsInSlash with
          | true => simp
          | false =>
              cases hProbe : tree.probe place with
              | error fault => simp [hProbe]
              | ok found =>
                  by_cases hFound : found = some .directory
                  · simp [hProbe, hFound]
                  · simp [hProbe, hFound, eq_comm]

/- Where a file was put, its path leads to it. -/
theorem locate_of_put_eq_ok
    (hPut : tree.put path data = .ok written) :
    written.locate path = .ok (tree.destination path) := by
  rcases put_eq_ok_iff.mp hPut with
    ⟨hSlash, place, found, hTarget, hProbe, hFound, rfl⟩
  rw [← eq_destination_of_target_eq_ok hTarget]
  apply locate_set_of_target hTarget hProbe hFound
  intro hEnd
  rw [hSlash] at hEnd
  cases hEnd

/- A file is put where its path leads, on no directory. -/
theorem put_eq_ok
    (hPut : tree.put path data = .ok written) :
    tree.entry? (tree.destination path) ≠ some .directory ∧
      written =
        tree.set (tree.destination path) (.file data) := by
  rcases put_eq_ok_iff.mp hPut with
    ⟨_, place, found, hTarget, hProbe, hFound, rfl⟩
  rw [← eq_destination_of_target_eq_ok hTarget,
    entry?_of_probe_eq_ok hProbe]
  exact ⟨hFound, rfl⟩

/- Putting the same file again changes nothing. -/
theorem put_put
    (hPut : tree.put path data = .ok written) :
    written.put path data = .ok written := by
  rcases put_eq_ok hPut with ⟨hDirectory, hWritten⟩
  have hRoot := ne_nil_of_entry?_ne_directory hDirectory
  rcases put_eq_ok_iff.mp hPut with
    ⟨hSlash, place, found, hTarget, hProbe, _, _⟩
  have hPlace := eq_destination_of_target_eq_ok hTarget
  rw [← hPlace] at hWritten hRoot hDirectory
  have hSustains : Sustains tree written := by
    rw [hWritten]
    exact Sustains.of_set hDirectory
  have hEntry :
      written.entry? place = some (.file data) := by
    rw [hWritten, entry?_set hRoot, if_pos rfl]
  have hAgain :
      written.probe place = .ok (some (.file data)) := by
    cases place with
    | nil => exact (hRoot rfl).elim
    | cons name above =>
        apply probe_cons_eq_ok_iff.mpr
        exact ⟨(probe_cons_eq_ok_iff.mp hProbe).1, hEntry⟩
  apply put_eq_ok_iff.mpr
  refine
    ⟨hSlash, place, _, hSustains.target_eq_ok hTarget,
      hAgain, by simp, ?_⟩
  exact (set_self hRoot hEntry).symm

end FileTree

end StreamOverloads

------------------------------------------------------------
-- Writing
------------------------------------------------------------

namespace StreamOverloads

namespace FileTree

variable {tree written : FileTree}
variable {place : Location}
variable {path : Path}
variable {data : Bytes}

/- A write makes directories and then puts the file. -/
theorem write_eq_ok_iff :
    tree.write path data = (written, .ok ()) ↔
      ∃ made,
        tree.makeDirectories path.ancestors =
            (made, .ok ()) ∧
          made.put path data = .ok written := by
  unfold write
  cases tree.makeDirectories path.ancestors with
  | mk made result =>
      cases result with
      | error fault => simp
      | ok done =>
          cases hPut : made.put path data with
          | error fault => simp [hPut]
          | ok other => simp [hPut, Prod.mk.injEq]

theorem write_eq_of_result_eq_ok
    (hDone : (tree.write path data).2 = .ok ()) :
    tree.write path data =
      ((tree.write path data).1, .ok ()) := by
  rw [← hDone]

/- A write that fails leaves the directories it made. -/
theorem write_of_error
    {fault : Fault}
    (hFailed : (tree.write path data).2 = .error fault) :
    (tree.write path data).1 =
      (tree.makeDirectories path.ancestors).1 := by
  unfold write at hFailed ⊢
  cases hResult : tree.makeDirectories path.ancestors with
  | mk made result =>
      cases result with
      | error other => rfl
      | ok done =>
          cases hPut : made.put path data with
          | error other => simp [hPut]
          | ok written => simp [hResult, hPut] at hFailed

/- A write that fails only adds directories. -/
theorem addsDirectories_write_of_error
    {fault : Fault}
    (hFailed : (tree.write path data).2 = .error fault) :
    AddsDirectories path.ancestors tree
      (tree.write path data).1 := by
  rw [write_of_error hFailed]
  exact addsDirectories_makeDirectories tree path.ancestors

/- A write that succeeds adds and then sets one place. -/
theorem exists_set_of_write_eq_ok
    (hDone : (tree.write path data).2 = .ok ()) :
    ∃ made : FileTree,
      AddsDirectories path.ancestors tree made ∧
        made.entry? (tree.destination path) ≠
          some .directory ∧
        (tree.write path data).1 =
          made.set (tree.destination path)
            (.file data) := by
  rcases write_eq_ok_iff.mp
      (write_eq_of_result_eq_ok hDone) with
    ⟨made, hMake, hPut⟩
  have hMade :=
    addsDirectories_makeDirectories tree path.ancestors
  rw [hMake] at hMade
  have hSet := put_eq_ok hPut
  rw [destination_congr hMade.workDir] at hSet
  exact ⟨made, hMade, hSet.1, hSet.2⟩

/- Lookups survive a write. -/
theorem sustains_write
    (tree : FileTree)
    (path : Path)
    (data : Bytes) :
    Sustains tree (tree.write path data).1 := by
  cases hResult : (tree.write path data).2 with
  | error fault =>
      exact
        (addsDirectories_write_of_error hResult).sustains
  | ok done =>
      rcases exists_set_of_write_eq_ok hResult with
        ⟨made, hMade, hDirectory, hSet⟩
      rw [hSet]
      exact
        hMade.sustains.trans (Sustains.of_set hDirectory)

/- Where its path leads, a write leaves its bytes. -/
theorem entry?_write_of_ok
    (hDone : (tree.write path data).2 = .ok ()) :
    FileTree.entry? (tree.write path data).1
        (tree.destination path) =
      some (.file data) := by
  rcases exists_set_of_write_eq_ok hDone with
    ⟨made, _, hDirectory, hSet⟩
  have hRoot := ne_nil_of_entry?_ne_directory hDirectory
  rw [hSet, entry?_set hRoot, if_pos rfl]

/- A write keeps every entry where its path does not lead. -/
theorem entry?_write_of_ne
    {entry : Entry}
    (hPlace : place ≠ tree.destination path)
    (hEntry : tree.entry? place = some entry)
    (data : Bytes) :
    FileTree.entry? (tree.write path data).1 place =
      some entry := by
  cases hResult : (tree.write path data).2 with
  | error fault =>
      exact
        (addsDirectories_write_of_error hResult).keeps place
          entry hEntry
  | ok done =>
      rcases exists_set_of_write_eq_ok hResult with
        ⟨made, hMade, hDirectory, hSet⟩
      have hRoot := ne_nil_of_entry?_ne_directory hDirectory
      rw [hSet, entry?_set hRoot, if_neg hPlace]
      exact hMade.keeps place entry hEntry

/- After a write its path leads to the written file. -/
theorem locate_write_of_ok
    (hDone : (tree.write path data).2 = .ok ()) :
    FileTree.locate (tree.write path data).1 path =
      .ok (tree.destination path) := by
  rcases write_eq_ok_iff.mp
      (write_eq_of_result_eq_ok hDone) with
    ⟨made, hMake, hPut⟩
  have hMade :=
    addsDirectories_makeDirectories tree path.ancestors
  rw [hMake] at hMade
  rw [← destination_congr hMade.workDir]
  exact locate_of_put_eq_ok hPut

/- Reading a written file gives the written bytes. -/
theorem read_write_of_ok
    (hDone : (tree.write path data).2 = .ok ()) :
    FileTree.read (tree.write path data).1 path =
      .ok data := by
  unfold read
  rw [locate_write_of_ok hDone]
  simp only [entry?_write_of_ok hDone]

/- Writing the same bytes once more changes nothing. -/
theorem write_write
    (hWrite : tree.write path data = (written, .ok ())) :
    written.write path data = (written, .ok ()) := by
  rcases write_eq_ok_iff.mp hWrite with
    ⟨made, hMake, hPut⟩
  have hSustains : Sustains made written := by
    rcases put_eq_ok hPut with ⟨hDirectory, hWritten⟩
    rw [hWritten]
    exact Sustains.of_set hDirectory
  have hAgain :
      written.makeDirectories path.ancestors =
        (written, .ok ()) := by
    cases hAncestors : path.ancestors with
    | nil => rfl
    | cons parent above =>
        rw [hAncestors] at hMake
        have hParent :=
          isDirectory_of_makeDirectories_eq_ok hMake
        exact
          makeDirectories_of_isDirectory
            (hSustains.isDirectory hParent) above
  exact
    write_eq_ok_iff.mpr ⟨written, hAgain, put_put hPut⟩

end FileTree

end StreamOverloads
