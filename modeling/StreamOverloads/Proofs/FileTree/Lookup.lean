import Mathlib.Data.Option.Basic
import StreamOverloads.FileTree

/-
  Where a path leads, and which changes of a tree keep it.

  Without links, a path leads to the place that its steps
  name one after another, whatever the tree holds: the tree
  decides only whether the steps can be taken. They still
  can be taken in a later tree if directories stay
  directories and nothing goes away.

  Key definitions include:
    * `Path.Step.move`
    * `FileTree.destination`
    * `FileTree.Sustains`
    * `FileTree.Extends`

  Main declarations:
    * `FileTree.entry?_set`
    * `FileTree.eq_destination_of_locate_eq_ok`
    * `FileTree.Sustains.locate_eq_ok`
    * `FileTree.read_eq_ok_iff`
-/

------------------------------------------------------------
-- Setting Entries
------------------------------------------------------------

namespace StreamOverloads

namespace FileTree

variable {tree : FileTree}
variable {place other : Location}
variable {entry : Entry}

/- A table changes where it is set, and nowhere else. -/
theorem lookup_setEntry
    (place other : Location)
    (entry : Entry)
    (table : List (Location × Entry)) :
    (setEntry place entry table).lookup other =
      if other = place then
        some entry
      else
        table.lookup other := by
  induction table with
  | nil =>
      by_cases hOther : other = place
      · simp [setEntry, hOther]
      · simp [setEntry, hOther, List.lookup_cons,
          beq_false_of_ne hOther]
  | cons row table ih =>
      rcases row with ⟨key, held⟩
      by_cases hKey : key = place
      · subst hKey
        by_cases hOther : other = key
        · simp [setEntry, hOther]
        · simp [setEntry, hOther, List.lookup_cons,
            beq_false_of_ne hOther]
      · by_cases hOther : other = key
        · subst hOther
          simp [setEntry, hKey]
        · simp [setEntry, hKey, List.lookup_cons,
            beq_false_of_ne hOther, ih]

/- A place that is no directory is not the root. -/
theorem ne_nil_of_entry?_ne_directory
    (hPlace : tree.entry? place ≠ some .directory) :
    place ≠ [] := by
  rintro rfl
  exact hPlace rfl

/- A tree changes where it is set, and nowhere else. -/
theorem entry?_set
    (hPlace : place ≠ [])
    (tree : FileTree)
    (other : Location)
    (entry : Entry) :
    FileTree.entry? (tree.set place entry) other =
      if other = place then
        some entry
      else
        tree.entry? other := by
  unfold entry? set
  -- The root is a directory whatever the table says of it.
  by_cases hOther : other = []
  · subst hOther
    simp [Ne.symm hPlace]
  · simp only [hOther, if_false]
    exact lookup_setEntry place other entry tree.entries

/- A table does not change where it holds the entry. -/
theorem setEntry_self
    {table : List (Location × Entry)}
    (hEntry : table.lookup place = some entry) :
    setEntry place entry table = table := by
  induction table with
  | nil => cases hEntry
  | cons row table ih =>
      rcases row with ⟨key, held⟩
      by_cases hKey : key = place
      · subst hKey
        have hHeld : held = entry := by
          simpa using hEntry
        simp [setEntry, hHeld]
      · rw [List.lookup_cons,
          beq_false_of_ne (Ne.symm hKey)] at hEntry
        simp [setEntry, hKey, ih hEntry]

/- A tree does not change where it holds the entry. -/
theorem set_self
    (hPlace : place ≠ [])
    (hEntry : tree.entry? place = some entry) :
    tree.set place entry = tree := by
  unfold entry? at hEntry
  rw [if_neg hPlace] at hEntry
  unfold set
  rw [setEntry_self hEntry]

/- A probe sees the entry, if it answers at all. -/
theorem entry?_of_probe_eq_ok
    {found : Option Entry}
    (hProbe : tree.probe place = .ok found) :
    tree.entry? place = found := by
  unfold probe at hProbe
  cases place with
  | nil => exact Except.ok.inj hProbe
  | cons name above =>
      by_cases hLong : nameLimit < Piece.byteLength name
      · simp [hLong] at hProbe
      · simpa [hLong] using hProbe

end FileTree

end StreamOverloads

------------------------------------------------------------
-- Destinations
------------------------------------------------------------

namespace StreamOverloads

namespace Path

/- Where one step leads from a place. -/
def Step.move
    (place : Location) : Step → Location
  | .stay => place
  | .up => place.tail
  | .enter name => name :: place

/- Where several steps lead from a place. -/
def Step.walk
    (place : Location)
    (steps : List Step) : Location :=
  steps.foldl Step.move place

@[simp] theorem Step.walk_append
    (place : Location)
    (first second : List Step) :
    walk place (first ++ second) =
      walk (walk place first) second := by
  exact List.foldl_append

end Path

namespace FileTree

/- The place that a path names, taken as it is written. -/
def destination
    (tree : FileTree)
    (path : Path) : Location :=
  Path.Step.walk (tree.origin path) path.steps

/-
  Where the steps of a path start depends on how the path
  starts and on the working directory alone.
-/
theorem origin_congr
    {tree later : FileTree}
    {path other : Path}
    (hWorkDir : later.workDir = tree.workDir)
    (hLead : other.lead = path.lead) :
    later.origin other = tree.origin path := by
  unfold origin
  rw [hWorkDir, hLead]

/-
  The place that a path names depends on the working
  directory alone.
-/
theorem destination_congr
    {tree later : FileTree}
    (hWorkDir : later.workDir = tree.workDir)
    (path : Path) :
    later.destination path = tree.destination path := by
  unfold destination
  rw [origin_congr hWorkDir rfl]

variable {tree : FileTree}
variable {place next final : Location}
variable {step : Path.Step}
variable {steps : List Path.Step}

/-
  A step needs a directory to start in and, where it enters
  something, an entry of that name that is not too long.
-/
theorem advance_eq_ok_iff :
    tree.advance place step = .ok next ↔
      tree.entry? place = some .directory ∧
        next = step.move place ∧
        ∀ name, step = .enter name →
          Piece.byteLength name ≤ nameLimit ∧
            tree.entry? (name :: place) ≠ none := by
  unfold advance
  cases hEntry : tree.entry? place with
  | none => simp
  | some entry =>
      cases entry with
      | file data => simp
      | directory =>
          cases step with
          | stay => simp [Path.Step.move, eq_comm]
          | up => simp [Path.Step.move, eq_comm]
          | enter name =>
              by_cases hLong :
                  nameLimit < Piece.byteLength name
              · have hNot :
                    ¬ Piece.byteLength name ≤
                      nameLimit := by
                  omega
                simp [probe, hLong, hNot]
              · have hShort :
                    Piece.byteLength name ≤ nameLimit := by
                  omega
                cases hFound :
                    tree.entry? (name :: place) with
                | none => simp [probe, hLong, hFound]
                | some found =>
                    simp [probe, hLong, hShort, hFound,
                      Path.Step.move, eq_comm]

theorem follow_cons_eq_ok_iff :
    tree.follow place (step :: steps) = .ok final ↔
      ∃ next,
        tree.advance place step = .ok next ∧
          tree.follow next steps = .ok final := by
  rw [follow]
  cases hAdvance : tree.advance place step with
  | error fault => simp
  | ok next => simp

/- Steps that can be taken lead where they name. -/
theorem eq_walk_of_follow_eq_ok
    (hFollow : tree.follow place steps = .ok final) :
    final = Path.Step.walk place steps := by
  induction steps generalizing place with
  | nil => exact (Except.ok.inj hFollow).symm
  | cons step steps ih =>
      rcases follow_cons_eq_ok_iff.mp hFollow with
        ⟨next, hAdvance, hRest⟩
      rw [ih hRest, (advance_eq_ok_iff.mp hAdvance).2.1]
      rfl

/- Looking up a path is following its steps. -/
theorem locate_eq_ok_iff
    {path : Path} :
    tree.locate path = .ok place ↔
      refusal? path = none ∧
        tree.follow (tree.origin path)
            (path.steps ++
              if path.endsInSlash then [.stay] else []) =
          .ok place := by
  unfold locate
  cases refusal? path with
  | some fault => simp
  | none => simp

/- A path that is looked up leads where it names. -/
theorem eq_destination_of_locate_eq_ok
    {path : Path}
    (hLocate : tree.locate path = .ok place) :
    place = tree.destination path := by
  rw [eq_walk_of_follow_eq_ok
    (locate_eq_ok_iff.mp hLocate).2,
    Path.Step.walk_append]
  unfold destination
  by_cases hSlash : path.endsInSlash = true
  · rw [if_pos hSlash]
    rfl
  · rw [if_neg hSlash]
    rfl

/- Reading a path gives the bytes of the file at its place. -/
theorem read_eq_ok_iff
    {path : Path}
    {data : Bytes} :
    tree.read path = .ok data ↔
      tree.locate path = .ok (tree.destination path) ∧
        tree.entry? (tree.destination path) =
          some (.file data) := by
  unfold read
  cases hLocate : tree.locate path with
  | error fault => simp
  | ok place =>
      have hPlace := eq_destination_of_locate_eq_ok hLocate
      subst hPlace
      cases hEntry :
          tree.entry? (tree.destination path) with
      | none => simp [hEntry]
      | some entry => cases entry <;> simp [hEntry]

end FileTree

end StreamOverloads

------------------------------------------------------------
-- Later Trees
------------------------------------------------------------

namespace StreamOverloads

namespace FileTree

/-
  A later tree sustains the lookups of an earlier one if
  directories stay directories and nothing goes away.
-/
structure Sustains
    (tree later : FileTree) : Prop where
  workDir : later.workDir = tree.workDir
  directory :
    ∀ place, tree.entry? place = some .directory →
      later.entry? place = some .directory
  occupied :
    ∀ place, tree.entry? place ≠ none →
      later.entry? place ≠ none

/- A later tree extends an earlier one if it only adds. -/
structure Extends
    (tree later : FileTree) : Prop where
  workDir : later.workDir = tree.workDir
  keeps :
    ∀ place entry, tree.entry? place = some entry →
      later.entry? place = some entry

variable {tree middle later : FileTree}
variable {place final : Location}
variable {entry : Entry}
variable {steps : List Path.Step}

namespace Extends

theorem refl
    (tree : FileTree) :
    Extends tree tree where
  workDir := rfl
  keeps := fun _ _ hEntry => hEntry

theorem trans
    (hFirst : Extends tree middle)
    (hSecond : Extends middle later) :
    Extends tree later where
  workDir := hSecond.workDir.trans hFirst.workDir
  keeps := by
    intro place entry hEntry
    exact
      hSecond.keeps place entry
        (hFirst.keeps place entry hEntry)

/- What only adds sustains. -/
theorem sustains
    (hExtends : Extends tree later) :
    Sustains tree later where
  workDir := hExtends.workDir
  directory := fun place => hExtends.keeps place .directory
  occupied := by
    intro place hOccupied
    rcases Option.ne_none_iff_exists'.mp hOccupied with
      ⟨entry, hEntry⟩
    rw [hExtends.keeps place entry hEntry]
    exact Option.some_ne_none entry

/- Setting an empty place only adds. -/
theorem of_set
    (hNone : tree.entry? place = none) :
    Extends tree (tree.set place entry) where
  workDir := rfl
  keeps := by
    intro other held hHeld
    have hOther : other ≠ place := by
      rintro rfl
      rw [hNone] at hHeld
      cases hHeld
    have hEmpty : tree.entry? place ≠ some .directory := by
      rw [hNone]
      exact (Option.some_ne_none Entry.directory).symm
    have hRoot := ne_nil_of_entry?_ne_directory hEmpty
    rw [entry?_set hRoot, if_neg hOther, hHeld]

end Extends

namespace Sustains

theorem trans
    (hFirst : Sustains tree middle)
    (hSecond : Sustains middle later) :
    Sustains tree later where
  workDir := hSecond.workDir.trans hFirst.workDir
  directory := by
    intro place hDirectory
    exact
      hSecond.directory place
        (hFirst.directory place hDirectory)
  occupied := by
    intro place hOccupied
    exact
      hSecond.occupied place
        (hFirst.occupied place hOccupied)

/- Setting anything but a directory sustains lookups. -/
theorem of_set
    (hPlace : tree.entry? place ≠ some .directory) :
    Sustains tree (tree.set place entry) := by
  have hRoot := ne_nil_of_entry?_ne_directory hPlace
  refine ⟨rfl, ?_, ?_⟩
  · intro other hDirectory
    have hOther : other ≠ place := by
      rintro rfl
      exact hPlace hDirectory
    rw [entry?_set hRoot, if_neg hOther, hDirectory]
  · intro other hOccupied
    rw [entry?_set hRoot]
    by_cases hOther : other = place
    · rw [if_pos hOther]
      exact Option.some_ne_none entry
    · rw [if_neg hOther]
      exact hOccupied

/- Steps that could be taken still can be taken. -/
theorem follow_eq_ok
    (hSustains : Sustains tree later)
    (hFollow : tree.follow place steps = .ok final) :
    later.follow place steps = .ok final := by
  induction steps generalizing place with
  | nil => exact hFollow
  | cons step steps ih =>
      rcases follow_cons_eq_ok_iff.mp hFollow with
        ⟨next, hAdvance, hRest⟩
      rcases advance_eq_ok_iff.mp hAdvance with
        ⟨hDirectory, hNext, hEnter⟩
      have hLater :
          later.advance place step = .ok next := by
        apply advance_eq_ok_iff.mpr
        refine
          ⟨hSustains.directory place hDirectory, hNext, ?_⟩
        intro name hName
        rcases hEnter name hName with ⟨hShort, hOccupied⟩
        exact
          ⟨hShort,
            hSustains.occupied (name :: place) hOccupied⟩
      exact
        follow_cons_eq_ok_iff.mpr ⟨next, hLater, ih hRest⟩

/- Paths that could be looked up still can be looked up. -/
theorem locate_eq_ok
    {path : Path}
    (hSustains : Sustains tree later)
    (hLocate : tree.locate path = .ok place) :
    later.locate path = .ok place := by
  rcases locate_eq_ok_iff.mp hLocate with
    ⟨hAccepted, hFollow⟩
  apply locate_eq_ok_iff.mpr
  rw [origin_congr hSustains.workDir rfl]
  exact ⟨hAccepted, hSustains.follow_eq_ok hFollow⟩

/- A file that could be read can be read in a later tree. -/
theorem read_eq_ok_iff
    {path : Path}
    {data other : Bytes}
    (hSustains : Sustains tree later)
    (hRead : tree.read path = .ok data) :
    later.read path = .ok other ↔
      later.entry? (tree.destination path) =
        some (.file other) := by
  have hLocate :=
    hSustains.locate_eq_ok
      (FileTree.read_eq_ok_iff.mp hRead).1
  rw [FileTree.read_eq_ok_iff,
    destination_congr hSustains.workDir]
  exact and_iff_right hLocate

end Sustains

end FileTree

end StreamOverloads
