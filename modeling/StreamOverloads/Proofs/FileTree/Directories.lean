import Mathlib.Data.List.Basic
import StreamOverloads.Proofs.FileTree.Lookup

/-
  What making directories does.

  A directory is made where the last step of its path enters
  something that is not there yet. Making a directory and
  those above it adds directories only, each where one of
  the given paths leads, and does so even where it fails. If
  it succeeds the nearest path leads to a directory. Making
  what is there already changes nothing.

  Key definitions include:
    * `FileTree.AddsDirectories`

  Main declarations:
    * `FileTree.target_eq_ok_some_iff`
    * `FileTree.locate_set_of_target`
    * `FileTree.makeDirectories_of_isDirectory`
    * `FileTree.isDirectory_of_makeDirectories_eq_ok`
    * `FileTree.addsDirectories_makeDirectories`
-/

------------------------------------------------------------
-- Following Steps
------------------------------------------------------------

namespace StreamOverloads

namespace FileTree

variable {tree : FileTree}
variable {place above final : Location}
variable {name : Piece}
variable {found : Option Entry}

/- Steps are followed in two parts as in one. -/
theorem follow_append_eq_ok_iff
    {first second : List Path.Step} :
    tree.follow place (first ++ second) = .ok final ↔
      ∃ middle,
        tree.follow place first = .ok middle ∧
          tree.follow middle second = .ok final := by
  induction first generalizing place with
  | nil =>
      constructor
      · intro hSecond
        exact ⟨place, rfl, hSecond⟩
      · rintro ⟨middle, hFirst, hSecond⟩
        rw [List.nil_append, Except.ok.inj hFirst]
        exact hSecond
  | cons step first ih =>
      rw [List.cons_append, follow_cons_eq_ok_iff]
      constructor
      · rintro ⟨next, hStep, hRest⟩
        rcases ih.mp hRest with ⟨middle, hFirst, hSecond⟩
        exact
          ⟨middle,
            follow_cons_eq_ok_iff.mpr
              ⟨next, hStep, hFirst⟩,
            hSecond⟩
      · rintro ⟨middle, hFirst, hSecond⟩
        rcases follow_cons_eq_ok_iff.mp hFirst with
          ⟨next, hStep, hRest⟩
        exact
          ⟨next, hStep, ih.mpr ⟨middle, hRest, hSecond⟩⟩

/- The last step is taken from where the others lead. -/
theorem follow_append_singleton_eq_ok_iff
    {steps : List Path.Step}
    {step : Path.Step} :
    tree.follow place (steps ++ [step]) = .ok final ↔
      ∃ above,
        tree.follow place steps = .ok above ∧
          tree.advance above step = .ok final := by
  have hSingle :
      ∀ above,
        tree.follow above [step] = .ok final ↔
          tree.advance above step = .ok final := by
    intro above
    rw [follow]
    cases tree.advance above step with
    | error fault => simp
    | ok next => simp [follow]
  simp only [follow_append_eq_ok_iff, hSingle]

/- A name can be entered in a directory that holds it. -/
theorem follow_append_enter_eq_ok_iff
    {steps : List Path.Step} :
    tree.follow place (steps ++ [.enter name]) =
        .ok final ↔
      ∃ above,
        tree.follow place steps = .ok above ∧
          tree.entry? above = some .directory ∧
          final = name :: above ∧
          Piece.byteLength name ≤ nameLimit ∧
          tree.entry? (name :: above) ≠ none := by
  simp [follow_append_singleton_eq_ok_iff,
    advance_eq_ok_iff, Path.Step.move]

/- Steps can stay where they lead only in a directory. -/
theorem follow_append_stay_eq_ok_iff
    {steps : List Path.Step} :
    tree.follow place (steps ++ [.stay]) = .ok final ↔
      tree.follow place steps = .ok final ∧
        tree.entry? final = some .directory := by
  rw [follow_append_singleton_eq_ok_iff]
  simp only [advance_eq_ok_iff, Path.Step.move]
  constructor
  · rintro ⟨above, hSteps, hAbove, rfl, _⟩
    exact ⟨hSteps, hAbove⟩
  · rintro ⟨hSteps, hFinal⟩
    exact ⟨final, hSteps, hFinal, rfl, by simp⟩

/- A slash at the end of a path asks for a directory. -/
theorem locate_eq_ok_iff_follow
    {path : Path} :
    tree.locate path = .ok place ↔
      refusal? path = none ∧
        tree.follow (tree.origin path) path.steps =
          .ok place ∧
        (path.endsInSlash = true →
          tree.entry? place = some .directory) := by
  rw [locate_eq_ok_iff]
  by_cases hSlash : path.endsInSlash = true
  · simp only [hSlash, if_true,
      follow_append_stay_eq_ok_iff, forall_const]
  · simp [hSlash]

/- A probe answers if the name is not too long. -/
theorem probe_cons_eq_ok_iff :
    tree.probe (name :: above) = .ok found ↔
      Piece.byteLength name ≤ nameLimit ∧
        tree.entry? (name :: above) = found := by
  unfold probe
  by_cases hLong : nameLimit < Piece.byteLength name
  · have hNot : ¬ Piece.byteLength name ≤ nameLimit := by
      omega
    simp [hLong, hNot]
  · have hShort : Piece.byteLength name ≤ nameLimit := by
      omega
    simp [hLong, hShort]

end FileTree

end StreamOverloads

------------------------------------------------------------
-- Targets
------------------------------------------------------------

namespace StreamOverloads

namespace FileTree

variable {tree later : FileTree}
variable {place : Location}
variable {path : Path}

/-
  Where the steps before the last one lead to a directory,
  the last one decides the target.
-/
theorem target_of_steps
    {before : List Path.Step}
    {last : Path.Step}
    {above : Location}
    (hAccepted : refusal? path = none)
    (hSteps : path.steps = before ++ [last])
    (hBefore :
      tree.follow (tree.origin path) before = .ok above)
    (hAbove : tree.entry? above = some .directory) :
    tree.target path =
      .ok
        (match last with
        | .enter name => some (name :: above)
        | _ => none) := by
  have hStay :
      tree.follow (tree.origin path) (before ++ [.stay]) =
        .ok above :=
    follow_append_stay_eq_ok_iff.mpr ⟨hBefore, hAbove⟩
  unfold target
  simp only [hAccepted, hSteps, List.getLast?_concat,
    List.dropLast_concat, hStay]
  cases last <;> rfl

/-
  A path has a target if its last step enters a name, and
  the steps before it lead to a directory.
-/
theorem target_eq_ok_some_iff :
    tree.target path = .ok (some place) ↔
      refusal? path = none ∧
        ∃ before name above,
          path.steps = before ++ [.enter name] ∧
            tree.follow (tree.origin path) before =
              .ok above ∧
            tree.entry? above = some .directory ∧
            place = name :: above := by
  constructor
  · intro hTarget
    unfold target at hTarget
    cases hAccepted : refusal? path with
    | some fault => simp [hAccepted] at hTarget
    | none =>
        rcases List.eq_nil_or_concat' path.steps with
          hSteps | ⟨before, last, hSteps⟩
        · simp [hAccepted, hSteps] at hTarget
        · simp only [hAccepted, hSteps,
            List.getLast?_concat,
            List.dropLast_concat] at hTarget
          cases hStay :
              tree.follow (tree.origin path)
                (before ++ [.stay]) with
          | error fault => simp [hStay] at hTarget
          | ok above =>
              rcases follow_append_stay_eq_ok_iff.mp
                  hStay with
                ⟨hBefore, hAbove⟩
              cases last with
              | stay => simp [hStay] at hTarget
              | up => simp [hStay] at hTarget
              | enter name =>
                  have hPlace : name :: above = place := by
                    simpa [hStay] using hTarget
                  exact
                    ⟨rfl, before, name, above, hSteps,
                      hBefore, hAbove, hPlace.symm⟩
  · rintro
      ⟨hAccepted, before, name, above, hSteps, hBefore,
        hAbove, rfl⟩
    exact target_of_steps hAccepted hSteps hBefore hAbove

/- A new entry is made where its path leads. -/
theorem eq_destination_of_target_eq_ok
    (hTarget : tree.target path = .ok (some place)) :
    place = tree.destination path := by
  rcases target_eq_ok_some_iff.mp hTarget with
    ⟨_, before, name, above, hSteps, hBefore, _, rfl⟩
  rw [eq_walk_of_follow_eq_ok hBefore, destination, hSteps,
    Path.Step.walk_append]
  rfl

/- A target is kept by later trees. -/
theorem Sustains.target_eq_ok
    (hSustains : Sustains tree later)
    (hTarget : tree.target path = .ok (some place)) :
    later.target path = .ok (some place) := by
  rcases target_eq_ok_some_iff.mp hTarget with
    ⟨hAccepted, before, name, above, hSteps, hBefore,
      hAbove, hPlace⟩
  have hOrigin : later.origin path = tree.origin path :=
    origin_congr hSustains.workDir rfl
  apply target_eq_ok_some_iff.mpr
  refine
    ⟨hAccepted, before, name, above, hSteps, ?_,
      hSustains.directory above hAbove, hPlace⟩
  rw [hOrigin]
  exact hSustains.follow_eq_ok hBefore

/-
  Once an entry is set at its target, a path leads there. A
  path that ends in a slash needs a directory for that.
-/
theorem locate_set_of_target
    {found : Option Entry}
    {entry : Entry}
    (hTarget : tree.target path = .ok (some place))
    (hProbe : tree.probe place = .ok found)
    (hFound : found ≠ some .directory)
    (hSlash :
      path.endsInSlash = true → entry = .directory) :
    FileTree.locate (tree.set place entry) path =
      .ok place := by
  have hEntry : tree.entry? place ≠ some .directory := by
    rw [entry?_of_probe_eq_ok hProbe]
    exact hFound
  have hRoot := ne_nil_of_entry?_ne_directory hEntry
  have hSet :
      FileTree.entry? (tree.set place entry) place =
        some entry := by
    rw [entry?_set hRoot, if_pos rfl]
  have hSustains :
      Sustains tree (tree.set place entry) :=
    Sustains.of_set hEntry
  have hKept := hSustains.target_eq_ok hTarget
  rcases target_eq_ok_some_iff.mp hKept with
    ⟨hAccepted, before, name, above, hSteps, hBefore,
      hAbove, rfl⟩
  have hShort := (probe_cons_eq_ok_iff.mp hProbe).1
  apply locate_eq_ok_iff_follow.mpr
  refine ⟨hAccepted, ?_, ?_⟩
  · rw [hSteps]
    apply follow_append_enter_eq_ok_iff.mpr
    refine ⟨above, hBefore, hAbove, rfl, hShort, ?_⟩
    rw [hSet]
    exact Option.some_ne_none entry
  · intro hEnd
    rw [hSet, hSlash hEnd]

end FileTree

end StreamOverloads

------------------------------------------------------------
-- Directories That Are There
------------------------------------------------------------

namespace StreamOverloads

namespace FileTree

variable {tree later : FileTree}
variable {path : Path}

theorem isDirectory_iff :
    tree.isDirectory path = true ↔
      ∃ place,
        tree.locate path = .ok place ∧
          tree.entry? place = some .directory := by
  unfold isDirectory
  cases tree.locate path with
  | error fault => simp
  | ok place => simp

/- A later tree keeps what directories paths lead to. -/
theorem Sustains.isDirectory
    (hSustains : Sustains tree later)
    (hDirectory : tree.isDirectory path = true) :
    later.isDirectory path = true := by
  rcases isDirectory_iff.mp hDirectory with
    ⟨place, hLocate, hEntry⟩
  exact
    isDirectory_iff.mpr
      ⟨place, hSustains.locate_eq_ok hLocate,
        hSustains.directory place hEntry⟩

/- A directory that is there is not made again. -/
theorem makeDirectory_of_isDirectory
    (hDirectory : tree.isDirectory path = true) :
    tree.makeDirectory path = .error .occupied := by
  rcases isDirectory_iff.mp hDirectory with
    ⟨place, hLocate, _⟩
  rcases locate_eq_ok_iff_follow.mp hLocate with
    ⟨hAccepted, hFollow, _⟩
  unfold makeDirectory
  rcases List.eq_nil_or_concat' path.steps with
    hSteps | ⟨before, last, hSteps⟩
  · simp [target, hAccepted, hSteps]
  · rw [hSteps] at hFollow
    rcases follow_append_singleton_eq_ok_iff.mp
        hFollow with
      ⟨above, hBefore, hLast⟩
    rcases advance_eq_ok_iff.mp hLast with
      ⟨hAbove, _, hEnter⟩
    rw [target_of_steps hAccepted hSteps hBefore hAbove]
    cases last with
    | stay => rfl
    | up => rfl
    | enter name =>
        rcases hEnter name rfl with ⟨hShort, hOccupied⟩
        rcases Option.ne_none_iff_exists'.mp
            hOccupied with
          ⟨entry, hEntry⟩
        have hProbe :
            tree.probe (name :: above) =
              .ok (some entry) :=
          probe_cons_eq_ok_iff.mpr ⟨hShort, hEntry⟩
        simp [hProbe]

end FileTree

end StreamOverloads

------------------------------------------------------------
-- Making Directories
------------------------------------------------------------

namespace StreamOverloads

namespace FileTree

variable {tree made : FileTree}
variable {path : Path}

/- A directory is made at an empty target. -/
theorem makeDirectory_eq_ok_iff :
    tree.makeDirectory path = .ok made ↔
      ∃ place,
        tree.target path = .ok (some place) ∧
          tree.probe place = .ok none ∧
          made = tree.set place .directory := by
  unfold makeDirectory
  cases tree.target path with
  | error fault => simp
  | ok found =>
      cases found with
      | none => simp
      | some place =>
          cases hProbe : tree.probe place with
          | error fault => simp [hProbe]
          | ok entry =>
              cases entry with
              | some entry => simp [hProbe]
              | none => simp [hProbe, eq_comm]

/- A directory is made, or there already, or refused. -/
theorem ensureDirectory_cases
    (tree : FileTree)
    (path : Path) :
    (∃ made,
        tree.makeDirectory path = .ok made ∧
          tree.ensureDirectory path = (made, .ok ())) ∨
      (tree.isDirectory path = true ∧
        tree.ensureDirectory path = (tree, .ok ())) ∨
      ∃ fault,
        tree.ensureDirectory path =
          (tree, .error fault) := by
  unfold ensureDirectory
  cases tree.makeDirectory path with
  | ok made => exact .inl ⟨made, rfl, rfl⟩
  | error fault =>
      by_cases hDirectory : tree.isDirectory path = true
      · exact .inr (.inl ⟨hDirectory, by simp [hDirectory]⟩)
      · exact .inr (.inr ⟨fault, by simp [hDirectory]⟩)

/-
  The nearest directory is ensured, in the given tree or in
  one where those above it were made, unless that failed.
-/
theorem makeDirectories_cons_cases
    (tree : FileTree)
    (path : Path)
    (above : List Path) :
    tree.makeDirectories (path :: above) =
        tree.ensureDirectory path ∨
      (∃ made,
        tree.makeDirectories above = (made, .ok ()) ∧
          tree.makeDirectories (path :: above) =
            made.ensureDirectory path) ∨
      ∃ made fault,
        tree.makeDirectories above =
            (made, .error fault) ∧
          tree.makeDirectories (path :: above) =
            (made, .error fault) := by
  rw [makeDirectories]
  split
  · split
    · next made fault hAbove =>
        exact .inr (.inr ⟨made, fault, hAbove, rfl⟩)
    · next made hAbove =>
        exact .inr (.inl ⟨made, hAbove, rfl⟩)
  · exact .inl rfl

/- A directory that was made is where its path leads. -/
theorem isDirectory_of_makeDirectory_eq_ok
    (hMade : tree.makeDirectory path = .ok made) :
    made.isDirectory path = true := by
  rcases makeDirectory_eq_ok_iff.mp hMade with
    ⟨place, hTarget, hProbe, rfl⟩
  have hEntry : tree.entry? place ≠ some .directory := by
    rw [entry?_of_probe_eq_ok hProbe]
    exact (Option.some_ne_none Entry.directory).symm
  have hRoot := ne_nil_of_entry?_ne_directory hEntry
  apply isDirectory_iff.mpr
  refine ⟨place, ?_, ?_⟩
  · exact
      locate_set_of_target hTarget hProbe (by simp)
        fun _ => rfl
  · rw [entry?_set hRoot, if_pos rfl]

/- An ensured directory is where its path leads. -/
theorem isDirectory_of_ensureDirectory_eq_ok
    (hMade : tree.ensureDirectory path = (made, .ok ())) :
    made.isDirectory path = true := by
  rcases ensureDirectory_cases tree path with
    ⟨other, hOther, hEnsure⟩ | ⟨hThere, hEnsure⟩ |
      ⟨fault, hEnsure⟩
  · rw [hEnsure, Prod.mk.injEq] at hMade
    rw [← hMade.1]
    exact isDirectory_of_makeDirectory_eq_ok hOther
  · rw [hEnsure, Prod.mk.injEq] at hMade
    rw [← hMade.1]
    exact hThere
  · rw [hEnsure] at hMade
    cases hMade

/- Making directories succeeds with the nearest one. -/
theorem isDirectory_of_makeDirectories_eq_ok
    {above : List Path}
    (hMade :
      tree.makeDirectories (path :: above) =
        (made, .ok ())) :
    made.isDirectory path = true := by
  rcases makeDirectories_cons_cases tree path above with
    hCons | ⟨middle, _, hCons⟩ | ⟨middle, fault, _, hCons⟩
  · rw [hCons] at hMade
    exact isDirectory_of_ensureDirectory_eq_ok hMade
  · rw [hCons] at hMade
    exact isDirectory_of_ensureDirectory_eq_ok hMade
  · rw [hCons] at hMade
    cases hMade

/- Nothing is made if the nearest directory is there. -/
theorem makeDirectories_of_isDirectory
    (hDirectory : tree.isDirectory path = true)
    (above : List Path) :
    tree.makeDirectories (path :: above) =
      (tree, .ok ()) := by
  unfold makeDirectories ensureDirectory
  rw [makeDirectory_of_isDirectory hDirectory]
  simp [hDirectory, Fault.occupied]

end FileTree

end StreamOverloads

------------------------------------------------------------
-- What Is Added
------------------------------------------------------------

namespace StreamOverloads

namespace FileTree

/-
  A later tree adds directories, and nothing else, to an
  earlier one, each where one of some paths leads. The last
  step of that path enters the directory by its name.
-/
structure AddsDirectories
    (paths : List Path)
    (tree later : FileTree) : Prop
    extends Extends tree later where
  added :
    ∀ place entry, later.entry? place = some entry →
      tree.entry? place = none →
        entry = .directory ∧
          ∃ path ∈ paths,
            later.target path = .ok (some place) ∧
              later.locate path = .ok place

variable {tree middle later made : FileTree}
variable {paths others : List Path}
variable {path : Path}

namespace AddsDirectories

theorem refl
    (paths : List Path)
    (tree : FileTree) :
    AddsDirectories paths tree tree where
  toExtends := Extends.refl tree
  added := by
    intro place entry hEntry hNone
    rw [hNone] at hEntry
    cases hEntry

theorem trans
    (hFirst : AddsDirectories paths tree middle)
    (hSecond : AddsDirectories paths middle later) :
    AddsDirectories paths tree later where
  toExtends := hFirst.toExtends.trans hSecond.toExtends
  added := by
    intro place entry hEntry hNone
    cases hMiddle : middle.entry? place with
    | none => exact hSecond.added place entry hEntry hMiddle
    | some held =>
        rcases hFirst.added place held hMiddle hNone with
          ⟨rfl, path, hPath, hTarget, hLocate⟩
        have hKept :=
          hSecond.keeps place .directory hMiddle
        rw [hEntry] at hKept
        exact
          ⟨Option.some.inj hKept, path, hPath,
            hSecond.sustains.target_eq_ok hTarget,
            hSecond.sustains.locate_eq_ok hLocate⟩

theorem mono
    (hAdds : AddsDirectories paths tree later)
    (hPaths : paths ⊆ others) :
    AddsDirectories others tree later where
  toExtends := hAdds.toExtends
  added := by
    intro place entry hEntry hNone
    rcases hAdds.added place entry hEntry hNone with
      ⟨hDirectory, path, hPath, hLeads⟩
    exact ⟨hDirectory, path, hPaths hPath, hLeads⟩

/- No file is added, removed or changed. -/
theorem entry?_eq_file_iff
    (hAdds : AddsDirectories paths tree later)
    (place : Location)
    (data : Bytes) :
    later.entry? place = some (.file data) ↔
      tree.entry? place = some (.file data) := by
  constructor
  · intro hFile
    cases hEntry : tree.entry? place with
    | none =>
        have hAdded :=
          (hAdds.added place _ hFile hEntry).1
        cases hAdded
    | some entry =>
        rw [← hFile]
        exact (hAdds.keeps place entry hEntry).symm
  · exact hAdds.keeps place (.file data)

end AddsDirectories

theorem addsDirectories_of_makeDirectory_eq_ok
    (hMade : tree.makeDirectory path = .ok made) :
    AddsDirectories [path] tree made := by
  rcases makeDirectory_eq_ok_iff.mp hMade with
    ⟨place, hTarget, hProbe, rfl⟩
  have hNone := entry?_of_probe_eq_ok hProbe
  have hRoot : place ≠ [] := by
    rintro rfl
    cases hNone
  have hAdds : Extends tree (tree.set place .directory) :=
    Extends.of_set hNone
  refine ⟨hAdds, ?_⟩
  intro other entry hEntry hOther
  rw [entry?_set hRoot] at hEntry
  by_cases hPlace : other = place
  · subst hPlace
    rw [if_pos rfl] at hEntry
    refine
      ⟨(Option.some.inj hEntry).symm, path,
        List.mem_singleton_self path,
        hAdds.sustains.target_eq_ok hTarget, ?_⟩
    exact
      locate_set_of_target hTarget hProbe (by simp)
        fun _ => rfl
  · rw [if_neg hPlace, hOther] at hEntry
    cases hEntry

theorem addsDirectories_ensureDirectory
    (tree : FileTree)
    (path : Path) :
    AddsDirectories [path] tree
      (tree.ensureDirectory path).1 := by
  rcases ensureDirectory_cases tree path with
    ⟨made, hMade, hEnsure⟩ | ⟨_, hEnsure⟩ |
      ⟨fault, hEnsure⟩
  · rw [hEnsure]
    exact addsDirectories_of_makeDirectory_eq_ok hMade
  · rw [hEnsure]
    exact AddsDirectories.refl [path] tree
  · rw [hEnsure]
    exact AddsDirectories.refl [path] tree

/-
  Making directories adds directories, each where one of the
  paths leads, whether it succeeds or not.
-/
theorem addsDirectories_makeDirectories
    (tree : FileTree)
    (paths : List Path) :
    AddsDirectories paths tree
      (tree.makeDirectories paths).1 := by
  induction paths with
  | nil => exact AddsDirectories.refl [] tree
  | cons path above ih =>
      have hNearest :
          [path] ⊆ path :: above := by
        simp
      have hRest : above ⊆ path :: above :=
        List.subset_cons_self path above
      rcases makeDirectories_cons_cases tree path above with
        hCons | ⟨made, hAbove, hCons⟩ |
          ⟨made, fault, hAbove, hCons⟩
      · rw [hCons]
        exact
          (addsDirectories_ensureDirectory tree path).mono
            hNearest
      · rw [hAbove] at ih
        rw [hCons]
        exact
          (ih.mono hRest).trans
            ((addsDirectories_ensureDirectory made path).mono
              hNearest)
      · rw [hAbove] at ih
        rw [hCons]
        exact ih.mono hRest

end FileTree

end StreamOverloads
