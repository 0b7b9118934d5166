import StreamOverloads.Proofs.FileTree.Directories
import StreamOverloads.Proofs.Path.Ascent

/-
  Where directories can be made.

  Whether a directory and those above it can be made can be
  told before, from the tree and the path alone: on its way
  the path passes directories, or places where nothing is yet
  and one of its names leads.

  Directories are made from below: if one cannot be made for
  want of those above it, these are made first. What is above
  a path is its parent and what is above the parent, and the
  proofs are by induction on that.

  Key definitions include:
    * `FileTree.Passable`
    * `FileTree.Makeable`

  Main declarations:
    * `FileTree.exists_ensureDirectory_eq_ok`
    * `FileTree.exists_makeDirectories_eq_ok`
    * `FileTree.passable_of_makeDirectories_eq_ok`
-/

------------------------------------------------------------
-- Ways Through A Tree
------------------------------------------------------------

namespace StreamOverloads

namespace Path

namespace Step

/- A step that enters no name longer than allowed. -/
def IsShort : Step → Prop
  | .enter name =>
      Piece.byteLength name ≤ FileTree.nameLimit
  | .stay => True
  | .up => True

instance : (step : Step) → Decidable step.IsShort
  | .enter name =>
      inferInstanceAs
        (Decidable
          (Piece.byteLength name ≤ FileTree.nameLimit))
  | .stay => .isTrue trivial
  | .up => .isTrue trivial

/- Steps of which the last one enters a name. -/
def EndInName
    (steps : List Step) : Prop :=
  ∃ name, steps.getLast? = some (.enter name)

instance (steps : List Step) :
    Decidable (EndInName steps) :=
  match hLast : steps.getLast? with
  | some (.enter name) => .isTrue ⟨name, hLast⟩
  | some .stay => .isFalse (by simp [EndInName, hLast])
  | some .up => .isFalse (by simp [EndInName, hLast])
  | none => .isFalse (by simp [EndInName, hLast])

/- Fewer steps than all are some of those before the last. -/
theorem eq_or_prefix_dropLast
    {front steps : List Step}
    (hFront : front <+: steps) :
    front = steps ∨ front <+: steps.dropLast := by
  rcases List.eq_nil_or_concat' steps with
    rfl | ⟨before, last, rfl⟩
  · exact .inl (List.prefix_nil.mp hFront)
  · rw [List.dropLast_concat]
    exact List.prefix_concat_iff.mp hFront

@[simp] theorem walk_concat
    (place : Location)
    (steps : List Step)
    (last : Step) :
    walk place (steps ++ [last]) =
      last.move (walk place steps) := by
  rw [walk_append]
  rfl

end Step

end Path

namespace FileTree

/-
  Steps lead to a directory, or to where nothing is and a
  name among them leads too, so that one can be made there.
-/
def Passable
    (tree : FileTree)
    (start : Location)
    (front : List Path.Step) : Prop :=
  tree.entry? (Path.Step.walk start front) =
      some .directory ∨
    (tree.entry? (Path.Step.walk start front) = none ∧
      ∃ early ∈ front.inits,
        Path.Step.EndInName early ∧
          Path.Step.walk start early =
            Path.Step.walk start front)

instance
    (tree : FileTree)
    (start : Location)
    (front : List Path.Step) :
    Decidable (tree.Passable start front) :=
  instDecidableOr

/-
  A path to which a directory can be made, with those above
  it that are missing.
-/
structure Makeable
    (tree : FileTree)
    (path : Path) : Prop where
  accepted : refusal? path = none
  short : ∀ step ∈ path.steps, step.IsShort
  passable :
    ∀ front, front <+: path.steps →
      tree.Passable (tree.origin path) front

end FileTree

end StreamOverloads

------------------------------------------------------------
-- Steps That Can Be Taken
------------------------------------------------------------

namespace StreamOverloads

namespace FileTree

variable {tree : FileTree}
variable {place final : Location}
variable {step : Path.Step}
variable {steps stays front : List Path.Step}

/- Steps that stay end where they start. -/
theorem walk_of_stays
    (hStays : ∀ step ∈ stays, step = .stay)
    (place : Location) :
    Path.Step.walk place stays = place := by
  induction stays with
  | nil => rfl
  | cons step stays ih =>
      rw [List.forall_mem_cons] at hStays
      rw [hStays.1]
      exact ih hStays.2

/- In a directory one can stay. -/
theorem follow_of_stays
    (hStays : ∀ step ∈ stays, step = .stay)
    (hPlace : tree.entry? place = some .directory) :
    tree.follow place stays = .ok place := by
  induction stays with
  | nil => rfl
  | cons step stays ih =>
      rw [List.forall_mem_cons] at hStays
      have hStep : tree.advance place step = .ok place := by
        rw [hStays.1]
        exact advance_eq_ok_iff.mpr ⟨hPlace, rfl, by simp⟩
      exact
        follow_cons_eq_ok_iff.mpr
          ⟨place, hStep, ih hStays.2⟩

/- Steps to a directory pass directories only. -/
theorem entry?_walk_of_follow
    (hFollow : tree.follow place steps = .ok final)
    (hFinal : tree.entry? final = some .directory)
    (hFront : front <+: steps) :
    tree.entry? (Path.Step.walk place front) =
      some .directory := by
  rcases hFront with ⟨rest, rfl⟩
  rcases follow_append_eq_ok_iff.mp hFollow with
    ⟨middle, hMiddle, hRest⟩
  rw [← eq_walk_of_follow_eq_ok hMiddle]
  cases rest with
  | nil =>
      rw [Except.ok.inj hRest]
      exact hFinal
  | cons step rest =>
      rcases follow_cons_eq_ok_iff.mp hRest with
        ⟨next, hStep, _⟩
      exact (advance_eq_ok_iff.mp hStep).1

/- No step that can be taken has too long a name. -/
theorem isShort_of_follow
    (hFollow : tree.follow place steps = .ok final)
    (hStep : step ∈ steps) :
    step.IsShort := by
  induction steps generalizing place with
  | nil => cases hStep
  | cons first steps ih =>
      rcases follow_cons_eq_ok_iff.mp hFollow with
        ⟨next, hFirst, hRest⟩
      rcases List.mem_cons.mp hStep with rfl | hLater
      · cases step with
        | stay => trivial
        | up => trivial
        | enter name =>
            exact
              ((advance_eq_ok_iff.mp hFirst).2.2 name rfl).1
      · exact ih hRest hLater

/- A step that meets no file is taken or misses something. -/
theorem advance_cases
    (hShort : step.IsShort)
    (hFile :
      ∀ data, tree.entry? place ≠ some (.file data)) :
    tree.advance place step = .ok (step.move place) ∨
      tree.advance place step = .error .missing := by
  unfold advance
  cases hEntry : tree.entry? place with
  | none => exact .inr rfl
  | some entry =>
      cases entry with
      | file data => exact absurd hEntry (hFile data)
      | directory =>
          cases step with
          | stay => exact .inl rfl
          | up => exact .inl rfl
          | enter name =>
              have hProbe :
                  tree.probe (name :: place) =
                    .ok (tree.entry? (name :: place)) :=
                probe_cons_eq_ok_iff.mpr ⟨hShort, rfl⟩
              cases hFound :
                  tree.entry? (name :: place) with
              | none => simp [hProbe, hFound]
              | some found =>
                  simp [hProbe, hFound, Path.Step.move]

/-
  Steps that meet no file are taken to the end or miss
  something on the way.
-/
theorem follow_cases
    (hShort : ∀ step ∈ steps, step.IsShort)
    (hFile :
      ∀ front, front <+: steps → ∀ data,
        tree.entry? (Path.Step.walk place front) ≠
          some (.file data)) :
    (∃ final, tree.follow place steps = .ok final) ∨
      tree.follow place steps = .error .missing := by
  induction steps generalizing place with
  | nil => exact .inl ⟨place, rfl⟩
  | cons step steps ih =>
      rw [List.forall_mem_cons] at hShort
      have hHere :
          ∀ data, tree.entry? place ≠ some (.file data) :=
        hFile [] List.nil_prefix
      rcases advance_cases hShort.1 hHere with
        hStep | hStep
      · rw [follow, hStep]
        apply ih hShort.2
        intro front hFront
        exact
          hFile (step :: front)
            (List.cons_prefix_cons.mpr ⟨rfl, hFront⟩)
      · right
        rw [follow, hStep]

end FileTree

end StreamOverloads

------------------------------------------------------------
-- Passable Places
------------------------------------------------------------

namespace StreamOverloads

namespace FileTree

variable {tree later : FileTree}
variable {start : Location}
variable {front stays : List Path.Step}

namespace Passable

/- Where no name has led yet there must be a directory. -/
theorem entry?_of_nil
    (hPassable : tree.Passable start []) :
    tree.entry? start = some .directory := by
  rcases hPassable with hThere | ⟨_, early, hEarly, hName, _⟩
  · exact hThere
  · rw [List.mem_inits, List.prefix_nil] at hEarly
    rcases hName with ⟨name, hLast⟩
    rw [hEarly] at hLast
    cases hLast

theorem entry?_ne_file
    (hPassable : tree.Passable start front)
    (data : Bytes) :
    tree.entry? (Path.Step.walk start front) ≠
      some (.file data) := by
  rcases hPassable with hThere | ⟨hNone, _⟩
  · rw [hThere]
    simp
  · rw [hNone]
    simp

/- To stay does not change what is passed. -/
theorem append_stays
    (hPassable : tree.Passable start front)
    (hStays : ∀ step ∈ stays, step = .stay) :
    tree.Passable start (front ++ stays) := by
  have hSame :
      Path.Step.walk start (front ++ stays) =
        Path.Step.walk start front := by
    rw [Path.Step.walk_append, walk_of_stays hStays]
  unfold Passable
  rw [hSame]
  rcases hPassable with
    hThere | ⟨hNone, early, hEarly, hName, hLeads⟩
  · exact .inl hThere
  · rw [List.mem_inits] at hEarly
    refine .inr ⟨hNone, early, ?_, hName, hLeads⟩
    rw [List.mem_inits]
    exact hEarly.trans (List.prefix_append front stays)

/- What can be passed still can once directories are added. -/
theorem of_addsDirectories
    {paths : List Path}
    (hPassable : tree.Passable start front)
    (hAdds : AddsDirectories paths tree later) :
    later.Passable start front := by
  rcases hPassable with hThere | ⟨hNone, hLeads⟩
  · exact .inl (hAdds.keeps _ _ hThere)
  · cases hLater :
        later.entry? (Path.Step.walk start front) with
    | none => exact .inr ⟨hLater, hLeads⟩
    | some entry =>
        left
        rw [hLater, (hAdds.added _ _ hLater hNone).1]

end Passable

end FileTree

end StreamOverloads

------------------------------------------------------------
-- Makeable Paths
------------------------------------------------------------

namespace StreamOverloads

namespace FileTree

variable {tree made : FileTree}
variable {path parent : Path}
variable {above : Location}

theorem refusal?_eq_none_iff :
    refusal? path = none ↔
      path.holdsNul = false ∧
        path.isVoid = false ∧
          path.byteLength ≤ pathLimit := by
  unfold refusal?
  cases path.holdsNul with
  | true => simp
  | false =>
      cases path.isVoid with
      | true => simp
      | false => simp

/- The parent of a path without NUL is looked up if it fits. -/
theorem refusal?_of_isParentOf
    (hParent : parent.IsParentOf path)
    (hNul : path.holdsNul = false)
    (hFits : path.byteLength ≤ pathLimit) :
    refusal? parent = none :=
  refusal?_eq_none_iff.mpr
    ⟨hParent.begins.holdsNul_eq_false hNul,
      hParent.isVoid_eq_false,
      hParent.begins.byteLength_le.trans hFits⟩

theorem origin_of_begins
    (hBegins : parent.Begins path)
    (tree : FileTree) :
    tree.origin parent = tree.origin path :=
  origin_congr rfl hBegins.1

namespace Makeable

/- A path to which a directory can be made starts in one. -/
theorem entry?_origin
    (hMakeable : tree.Makeable path) :
    tree.entry? (tree.origin path) = some .directory :=
  (hMakeable.passable [] List.nil_prefix).entry?_of_nil

theorem of_isParentOf
    (hMakeable : tree.Makeable path)
    (hParent : parent.IsParentOf path) :
    tree.Makeable parent where
  accepted := by
    rcases refusal?_eq_none_iff.mp hMakeable.accepted with
      ⟨hNul, _, hFits⟩
    exact refusal?_of_isParentOf hParent hNul hFits
  short := by
    intro step hStep
    exact
      hMakeable.short step
        (hParent.begins.prefix_steps.subset hStep)
  passable := by
    intro front hFront
    rw [origin_of_begins hParent.begins]
    exact
      hMakeable.passable front
        (hFront.trans hParent.begins.prefix_steps)

theorem of_addsDirectories
    {paths : List Path}
    (hMakeable : tree.Makeable path)
    (hAdds : AddsDirectories paths tree made) :
    made.Makeable path where
  accepted := hMakeable.accepted
  short := hMakeable.short
  passable := by
    intro front hFront
    rw [origin_congr hAdds.workDir rfl]
    exact
      (hMakeable.passable front hFront).of_addsDirectories
        hAdds

end Makeable

theorem ensureDirectory_of_makeDirectory_eq_ok
    (hMade : tree.makeDirectory path = .ok made) :
    tree.ensureDirectory path = (made, .ok ()) := by
  unfold ensureDirectory
  rw [hMade]

theorem ensureDirectory_of_isDirectory
    (hDirectory : tree.isDirectory path = true) :
    tree.ensureDirectory path = (tree, .ok ()) := by
  unfold ensureDirectory
  rw [makeDirectory_of_isDirectory hDirectory]
  simp [hDirectory]

/- A path leads on from where its steps but the last lead. -/
theorem follow_steps_of_dropLast
    (hShort : ∀ step ∈ path.steps, step.IsShort)
    (hBefore :
      tree.follow (tree.origin path) path.steps.dropLast =
        .ok above)
    (hAbove : tree.entry? above = some .directory)
    (hThere :
      tree.entry? (tree.destination path) ≠ none) :
    tree.follow (tree.origin path) path.steps =
      .ok (tree.destination path) := by
  rcases List.eq_nil_or_concat' path.steps with
    hSteps | ⟨before, last, hSteps⟩
  · rw [destination, hSteps]
    rfl
  · rw [hSteps, List.dropLast_concat] at hBefore
    rw [destination, hSteps, Path.Step.walk_concat,
      ← eq_walk_of_follow_eq_ok hBefore] at hThere ⊢
    rw [follow_append_singleton_eq_ok_iff]
    refine ⟨above, hBefore, ?_⟩
    refine advance_eq_ok_iff.mpr ⟨hAbove, rfl, ?_⟩
    rintro name rfl
    refine ⟨hShort (.enter name) ?_, hThere⟩
    rw [hSteps]
    exact List.mem_append_right before List.mem_cons_self

/-
  A directory is made, or is there, where the steps before the
  last one lead to a directory.
-/
theorem exists_ensureDirectory_eq_ok
    (hMakeable : tree.Makeable path)
    (hBefore :
      tree.follow (tree.origin path) path.steps.dropLast =
        .ok above)
    (hAbove : tree.entry? above = some .directory) :
    ∃ made, tree.ensureDirectory path = (made, .ok ()) := by
  rcases hMakeable.passable path.steps
      (List.prefix_refl path.steps) with
    hThere | ⟨hNone, early, hEarly, ⟨name, hName⟩, hLeads⟩
  · refine ⟨tree, ensureDirectory_of_isDirectory ?_⟩
    refine
      isDirectory_iff.mpr ⟨tree.destination path, ?_, hThere⟩
    refine
      locate_eq_ok_iff_follow.mpr
        ⟨hMakeable.accepted, ?_, fun _ => hThere⟩
    refine
      follow_steps_of_dropLast hMakeable.short hBefore
        hAbove ?_
    rw [destination, hThere]
    exact Option.some_ne_none Entry.directory
  · rw [List.mem_inits] at hEarly
    rcases List.eq_nil_or_concat' path.steps with
      hSteps | ⟨before, last, hSteps⟩
    · rw [hSteps, List.prefix_nil] at hEarly
      rw [hEarly] at hName
      cases hName
    · rw [hSteps, List.dropLast_concat] at hBefore
      rw [hSteps] at hEarly hNone hLeads
      rcases List.prefix_concat_iff.mp hEarly with
        rfl | hBeforeLast
      · -- The last step is the first to lead there.
        rw [List.getLast?_concat, Option.some.injEq] at hName
        subst hName
        have hTarget :=
          target_of_steps hMakeable.accepted hSteps hBefore
            hAbove
        have hShort :=
          hMakeable.short (.enter name)
            (by rw [hSteps]; simp)
        rw [Path.Step.walk_concat,
          ← eq_walk_of_follow_eq_ok hBefore] at hNone
        have hProbe :=
          probe_cons_eq_ok_iff.mpr ⟨hShort, hNone⟩
        exact
          ⟨_, ensureDirectory_of_makeDirectory_eq_ok
            (makeDirectory_eq_ok_iff.mpr
              ⟨name :: above, hTarget, hProbe, rfl⟩)⟩
      · -- What was passed before is a directory by now.
        have hPassed :=
          entry?_walk_of_follow hBefore hAbove hBeforeLast
        rw [hLeads, hNone] at hPassed
        cases hPassed

end FileTree

end StreamOverloads

------------------------------------------------------------
-- Making What Is Missing
------------------------------------------------------------

namespace StreamOverloads

namespace FileTree

variable {tree made : FileTree}
variable {path parent : Path}
variable {place : Location}

/- A directory that can be ensured needs nothing above it. -/
theorem makeDirectories_of_ensureDirectory_eq_ok
    (hEnsure : tree.ensureDirectory path = (made, .ok ()))
    (above : List Path) :
    tree.makeDirectories (path :: above) =
      (made, .ok ()) := by
  rcases ensureDirectory_cases tree path with
    ⟨other, hMade, hSame⟩ | ⟨hThere, hSame⟩ |
      ⟨fault, hFault⟩
  · rw [makeDirectories, hMade]
    exact hEnsure
  · rw [makeDirectories_of_isDirectory hThere, ← hSame]
    exact hEnsure
  · rw [hFault] at hEnsure
    cases hEnsure

/-
  A directory is made at once, with nothing above it, where
  the steps before the last one lead to a directory.
-/
theorem exists_makeDirectories_of_follow
    (hMakeable : tree.Makeable path)
    (hBefore :
      tree.follow (tree.origin path) path.steps.dropLast =
        .ok place)
    (hPlace : tree.entry? place = some .directory)
    (above : List Path) :
    ∃ made,
      tree.makeDirectories (path :: above) =
        (made, .ok ()) := by
  rcases exists_ensureDirectory_eq_ok hMakeable hBefore
      hPlace with
    ⟨made, hEnsure⟩
  exact
    ⟨made,
      makeDirectories_of_ensureDirectory_eq_ok hEnsure above⟩

/- A directory is made in one that is made first. -/
theorem makeDirectories_of_missing
    {middle : FileTree}
    {above : List Path}
    (hMissing : tree.makeDirectory path = .error .missing)
    (hAbove : tree.makeDirectories above = (middle, .ok ()))
    (hEnsure :
      middle.ensureDirectory path = (made, .ok ())) :
    tree.makeDirectories (path :: above) =
      (made, .ok ()) := by
  rw [makeDirectories, hMissing]
  simp only [Fault.missing, hAbove]
  exact hEnsure

/-
  The steps of a makeable path but the last one lead to a
  directory, or miss something on the way.
-/
theorem Makeable.before_cases
    (hMakeable : tree.Makeable path) :
    (∃ above,
        tree.follow (tree.origin path)
            path.steps.dropLast =
          .ok above ∧
        tree.entry? above = some .directory) ∨
      tree.makeDirectory path = .error .missing := by
  rcases List.eq_nil_or_concat' path.steps with
    hSteps | ⟨before, last, hSteps⟩
  · rw [hSteps]
    exact
      .inl ⟨tree.origin path, rfl, hMakeable.entry?_origin⟩
  · have hShort :
        ∀ step ∈ before ++ [.stay], step.IsShort := by
      intro step hStep
      rcases List.mem_append.mp hStep with hFirst | hStay
      · apply hMakeable.short
        rw [hSteps]
        exact List.mem_append_left [last] hFirst
      · rw [List.mem_singleton.mp hStay]
        trivial
    have hFile :
        ∀ front, front <+: before ++ [.stay] → ∀ data,
          tree.entry?
              (Path.Step.walk (tree.origin path) front) ≠
            some (.file data) := by
      intro front hFront data
      have hBefore :=
        (hMakeable.passable before
          (by rw [hSteps]; exact List.prefix_append _ _))
      rcases List.prefix_concat_iff.mp hFront with
        rfl | hWithin
      · rw [Path.Step.walk_concat]
        exact hBefore.entry?_ne_file data
      · apply Passable.entry?_ne_file
        apply hMakeable.passable
        rw [hSteps]
        exact hWithin.trans (List.prefix_append _ _)
    rcases follow_cases hShort hFile with
      ⟨above, hOk⟩ | hMissing
    · left
      rw [hSteps, List.dropLast_concat]
      exact ⟨above, follow_append_stay_eq_ok_iff.mp hOk⟩
    · right
      unfold makeDirectory target
      simp only [hMakeable.accepted, hSteps,
        List.getLast?_concat, List.dropLast_concat, hMissing]

/- Steps to a directory lead on to where some steps stay. -/
theorem follow_append_stays
    {steps stays : List Path.Step}
    {start : Location}
    (hSteps : tree.follow start steps = .ok place)
    (hPlace : tree.entry? place = some .directory)
    (hStays : ∀ step ∈ stays, step = .stay) :
    tree.follow start (steps ++ stays) = .ok place :=
  follow_append_eq_ok_iff.mpr
    ⟨place, hSteps, follow_of_stays hStays hPlace⟩

/-
  Once what is above a path is made, the steps before the last
  one lead to a directory.
-/
theorem exists_follow_dropLast
    (hTrimmed : path.IsTrimmed)
    (hStart :
      tree.entry? (tree.origin path) = some .directory)
    (hMake :
      tree.makeDirectories path.ancestors =
        (made, .ok ())) :
    ∃ place,
      made.follow (made.origin path) path.steps.dropLast =
          .ok place ∧
        made.entry? place = some .directory := by
  rcases hTrimmed.ancestors_cases with
    ⟨hNone, hStays⟩ |
      ⟨parent, stays, _, hAncestors, hStays, hSteps⟩
  · rw [hNone] at hMake
    cases hMake
    exact ⟨_, follow_of_stays hStays hStart, hStart⟩
  · have hParent :=
      Path.isParentOf_of_ancestors_eq_cons hAncestors
    rw [hAncestors] at hMake
    rcases isDirectory_iff.mp
        (isDirectory_of_makeDirectories_eq_ok hMake) with
      ⟨place, hLocate, hPlace⟩
    have hFollow := (locate_eq_ok_iff_follow.mp hLocate).2.1
    refine ⟨place, ?_, hPlace⟩
    rw [hSteps, ← origin_of_begins hParent.begins]
    exact follow_append_stays hFollow hPlace hStays

/-
  Where a directory can be made it is made, with those above
  it that are missing.
-/
theorem exists_makeDirectories_eq_ok
    (hTrimmed : path.IsTrimmed)
    (hMakeable : tree.Makeable path) :
    ∃ made,
      tree.makeDirectories (path :: path.ancestors) =
        (made, .ok ()) := by
  induction hTrimmed using Path.IsTrimmed.ascent with
  | top path hTrimmed hNone _ =>
      have hNothing :
          tree.makeDirectories path.ancestors =
            (tree, .ok ()) := by
        rw [hNone]
        rfl
      rcases exists_follow_dropLast hTrimmed
          hMakeable.entry?_origin hNothing with
        ⟨place, hBefore, hPlace⟩
      exact
        exists_makeDirectories_of_follow hMakeable hBefore
          hPlace path.ancestors
  | below path parent _ hTrimmed _ hAncestors _ _ ih =>
      rcases hMakeable.before_cases with
        ⟨above, hBefore, hAbove⟩ | hMissing
      · exact
          exists_makeDirectories_of_follow hMakeable hBefore
            hAbove path.ancestors
      · -- Once the parent is there, the rest can be made.
        have hParent :=
          Path.isParentOf_of_ancestors_eq_cons hAncestors
        rcases ih (hMakeable.of_isParentOf hParent) with
          ⟨middle, hMiddle⟩
        rw [← hAncestors] at hMiddle
        have hAdds :=
          addsDirectories_makeDirectories tree path.ancestors
        rw [hMiddle] at hAdds
        rcases exists_follow_dropLast hTrimmed
            hMakeable.entry?_origin hMiddle with
          ⟨place, hBefore, hPlace⟩
        rcases exists_ensureDirectory_eq_ok
            (hMakeable.of_addsDirectories hAdds) hBefore
            hPlace with
          ⟨made, hEnsure⟩
        exact
          ⟨made,
            makeDirectories_of_missing hMissing hMiddle
              hEnsure⟩

end FileTree

end StreamOverloads

------------------------------------------------------------
-- What Was Passed
------------------------------------------------------------

namespace StreamOverloads

namespace FileTree

variable {tree made : FileTree}
variable {path parent : Path}
variable {front stays : List Path.Step}

/-
  A directory that steps lead to once directories were added
  was there, or a name among the steps led to where it is.
-/
theorem passable_of_addsDirectories
    {paths : List Path}
    (hAdds : AddsDirectories paths tree made)
    (hPaths :
      ∀ other ∈ paths,
        other.lead = path.lead ∧ other.steps <+: front)
    (hThere :
      made.entry?
          (Path.Step.walk (tree.origin path) front) =
        some .directory) :
    tree.Passable (tree.origin path) front := by
  cases hEntry :
      tree.entry?
        (Path.Step.walk (tree.origin path) front) with
  | some entry =>
      left
      rw [hEntry, ← hAdds.keeps _ entry hEntry, hThere]
  | none =>
      rcases hAdds.added _ _ hThere hEntry with
        ⟨_, other, hOther, hTarget, _⟩
      rcases hPaths other hOther with ⟨hLead, hWithin⟩
      have hOrigin : made.origin other = tree.origin path :=
        origin_congr hAdds.workDir hLead
      have hPlace := eq_destination_of_target_eq_ok hTarget
      rw [destination, hOrigin] at hPlace
      rcases target_eq_ok_some_iff.mp hTarget with
        ⟨_, before, name, _, hSteps, _⟩
      refine
        .inr
          ⟨hEntry, other.steps, ?_, ⟨name, ?_⟩,
            hPlace.symm⟩
      · rw [List.mem_inits]
        exact hWithin
      · rw [hSteps, List.getLast?_concat]

/- What is above an ensured directory was there before. -/
theorem entry?_walk_of_ensureDirectory_eq_ok
    (hEnsure : tree.ensureDirectory path = (made, .ok ()))
    (hFront : front <+: path.steps.dropLast) :
    tree.entry?
        (Path.Step.walk (tree.origin path) front) =
      some .directory := by
  rcases ensureDirectory_cases tree path with
    ⟨other, hMade, _⟩ | ⟨hThere, _⟩ | ⟨fault, hFault⟩
  · rcases makeDirectory_eq_ok_iff.mp hMade with
      ⟨place, hTarget, _⟩
    rcases target_eq_ok_some_iff.mp hTarget with
      ⟨_, before, name, above, hSteps, hBefore, hAbove, _⟩
    rw [hSteps, List.dropLast_concat] at hFront
    exact entry?_walk_of_follow hBefore hAbove hFront
  · rcases isDirectory_iff.mp hThere with
      ⟨place, hLocate, hPlace⟩
    exact
      entry?_walk_of_follow
        (locate_eq_ok_iff_follow.mp hLocate).2.1 hPlace
        (hFront.trans (List.dropLast_prefix path.steps))
  · rw [hFault] at hEnsure
    cases hEnsure

/- Steps that stay at the end add nothing to pass. -/
theorem passable_of_prefix_append_stays
    {start : Location}
    {steps : List Path.Step}
    (hSteps :
      ∀ front, front <+: steps → tree.Passable start front)
    (hStays : ∀ step ∈ stays, step = .stay)
    (hFront : front <+: steps ++ stays) :
    tree.Passable start front := by
  rcases List.prefix_or_prefix_of_prefix hFront
      (List.prefix_append steps stays) with
    hWithin | ⟨more, rfl⟩
  · exact hSteps front hWithin
  · have hMore :=
      (List.prefix_append_right_inj steps).mp hFront
    apply (hSteps steps (List.prefix_refl steps)).append_stays
    intro step hStep
    exact hStays step (hMore.subset hStep)

/- A directory that was made could be made. -/
theorem passable_steps_of_makeDirectories_eq_ok
    (hMake :
      tree.makeDirectories (path :: path.ancestors) =
        (made, .ok ())) :
    tree.Passable (tree.origin path) path.steps := by
  have hAdds :=
    addsDirectories_makeDirectories tree
      (path :: path.ancestors)
  rw [hMake] at hAdds
  rcases isDirectory_iff.mp
      (isDirectory_of_makeDirectories_eq_ok hMake) with
    ⟨place, hLocate, hPlace⟩
  have hSame := eq_destination_of_locate_eq_ok hLocate
  rw [destination_congr hAdds.workDir] at hSame
  apply passable_of_addsDirectories hAdds
  · intro other hOther
    rcases List.mem_cons.mp hOther with rfl | hAbove
    · exact ⟨rfl, List.prefix_refl _⟩
    · have hBegins := Path.begins_of_mem_ancestors hAbove
      exact ⟨hBegins.1, hBegins.prefix_steps⟩
  · rw [← destination, ← hSame]
    exact hPlace

/-
  If a directory was made, a place on the way to it could be
  passed, or it is above the directory and what is above was
  made first.
-/
theorem passable_or_above_of_makeDirectories_eq_ok
    (hMake :
      tree.makeDirectories (path :: path.ancestors) =
        (made, .ok ()))
    (hFront : front <+: path.steps) :
    tree.Passable (tree.origin path) front ∨
      front <+: path.steps.dropLast ∧
        ∃ middle,
          tree.makeDirectories path.ancestors =
              (middle, .ok ()) ∧
            middle.ensureDirectory path =
              (made, .ok ()) := by
  have hWhole := passable_steps_of_makeDirectories_eq_ok hMake
  rcases Path.Step.eq_or_prefix_dropLast hFront with
    rfl | hBefore
  · exact .inl hWhole
  · rcases makeDirectories_cons_cases tree path
        path.ancestors with
      hCons | ⟨middle, hAbove, hCons⟩ |
        ⟨middle, fault, _, hCons⟩
    · rw [hCons] at hMake
      exact
        .inl
          (.inl
            (entry?_walk_of_ensureDirectory_eq_ok hMake
              hBefore))
    · rw [hCons] at hMake
      exact .inr ⟨hBefore, middle, hAbove, hMake⟩
    · rw [hCons] at hMake
      cases hMake

/-
  If a directory was made, with those above it that were
  missing, every place on the way to it could be passed.
-/
theorem passable_of_makeDirectories_eq_ok
    (hTrimmed : path.IsTrimmed)
    (hMake :
      tree.makeDirectories (path :: path.ancestors) =
        (made, .ok ()))
    (hFront : front <+: path.steps) :
    tree.Passable (tree.origin path) front := by
  induction hTrimmed using Path.IsTrimmed.ascent
      generalizing made front with
  | top path _ hNone _ =>
      rcases passable_or_above_of_makeDirectories_eq_ok hMake
          hFront with
        hPassable | ⟨hBefore, middle, hAbove, hEnsure⟩
      · exact hPassable
      · rw [hNone] at hAbove
        cases hAbove
        exact
          .inl
            (entry?_walk_of_ensureDirectory_eq_ok hEnsure
              hBefore)
  | below path parent stays _ _ hAncestors hStays hSteps ih =>
      rcases passable_or_above_of_makeDirectories_eq_ok hMake
          hFront with
        hPassable | ⟨hBefore, middle, hAbove, _⟩
      · exact hPassable
      · have hParent :=
          Path.isParentOf_of_ancestors_eq_cons hAncestors
        rw [hAncestors] at hAbove
        rw [hSteps] at hBefore
        rw [← origin_of_begins hParent.begins]
        exact
          passable_of_prefix_append_stays
            (fun _ hWithin => ih hAbove hWithin) hStays
            hBefore

end FileTree

end StreamOverloads
