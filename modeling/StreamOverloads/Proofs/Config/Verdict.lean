import StreamOverloads.Proofs.Config.Check
import StreamOverloads.Proofs.Path.Respelling

/-
  What the check of a configuration answers, in full.

  A configuration is accepted if its paths are sound and are
  not respellings of one another. Otherwise the answer is the
  first flaw: of the input path, of the output path, or of
  both together. A path is reported with the setting that it
  is for and as it was written, two paths as the input was.

  Key definitions include:
    * `Config.IsSoundPath`
    * `Config.PathFlaw`
    * `Config.FirstFlaw`

  Main declarations:
    * `Config.checkPath_eq_error_iff`
    * `Config.check_eq_error_iff`
    * `Config.check_accepts_iff_and_reports_first_flaw`
-/

------------------------------------------------------------
-- Single Paths
------------------------------------------------------------

namespace StreamOverloads

namespace Config

variable {field path : String}
variable {failure : Failure}

/- A path that can name a file. -/
def IsSoundPath
    (path : String) : Prop :=
  path ≠ "" ∧ '\x00' ∉ path.toList

/- What can be wrong with a path, and how it is reported. -/
inductive PathFlaw
    (field path : String) : Failure → Prop where
  | empty
      (hPath : path = "") :
      PathFlaw field path
        (.invalidValue field path "Path cannot be empty")
  | nul
      (hText : path ≠ "")
      (hNul : '\x00' ∈ path.toList) :
      PathFlaw field path
        (.invalidValue field path "Path contains null bytes")

theorem checkPath_eq_ok_iff :
    checkPath field path = .ok () ↔ IsSoundPath path := by
  unfold checkPath IsSoundPath
  by_cases hEmpty : path = ""
  · simp [hEmpty]
  · by_cases hNul : '\x00' ∈ path.toList
    · simp [hEmpty, hNul]
    · simp [hEmpty, hNul]

/- A path that is not sound is reported with its flaw. -/
theorem checkPath_eq_error_iff :
    checkPath field path = .error failure ↔
      PathFlaw field path failure := by
  unfold checkPath
  constructor
  · intro hCheck
    split at hCheck
    · rename_i hEmpty
      rw [← Except.error.inj hCheck]
      exact .empty hEmpty
    · rename_i hText
      split at hCheck
      · rename_i hNul
        rw [← Except.error.inj hCheck]
        exact .nul hText hNul
      · cases hCheck
  · intro hFlaw
    cases hFlaw with
    | empty hPath =>
        rw [if_pos hPath]
        rfl
    | nul hText hNul =>
        rw [if_neg hText, if_pos hNul]
        rfl

theorem checkOptionalPath_eq_ok_iff
    {path : Option String} :
    checkOptionalPath field path = .ok () ↔
      ∀ text ∈ path, IsSoundPath text := by
  cases path with
  | none => simp [checkOptionalPath]
  | some text =>
      simp [checkOptionalPath, checkPath_eq_ok_iff]

theorem checkOptionalPath_eq_error_iff
    {path : Option String} :
    checkOptionalPath field path = .error failure ↔
      ∃ text ∈ path, PathFlaw field text failure := by
  cases path with
  | none => simp [checkOptionalPath]
  | some text =>
      simp [checkOptionalPath, checkPath_eq_error_iff]

end Config

end StreamOverloads

------------------------------------------------------------
-- Whole Configurations
------------------------------------------------------------

namespace StreamOverloads

namespace Config

variable {config : Config}
variable {failure : Failure}

/- The failure of a check is that of the first to fail. -/
theorem check_eq_error_iff :
    config.check = .error failure ↔
      checkOptionalPath "input" config.input =
          .error failure ∨
        checkOptionalPath "input" config.input = .ok () ∧
          checkOptionalPath "output" config.output =
            .error failure ∨
        checkOptionalPath "input" config.input = .ok () ∧
          checkOptionalPath "output" config.output =
            .ok () ∧
          checkDistinct config.input config.output =
            .error failure := by
  unfold check
  cases checkOptionalPath "input" config.input with
  | error other => simp [bind, Except.bind]
  | ok done =>
      cases checkOptionalPath "output" config.output with
      | error other => simp [bind, Except.bind]
      | ok done => simp [bind, Except.bind]

/- Two paths pass unless they are one path respelled. -/
theorem checkDistinct_eq_ok_iff_respelled
    {input output : Option String} :
    checkDistinct input output = .ok () ↔
      ¬ ∃ source ∈ input, ∃ target ∈ output,
        Path.Respelled source target := by
  cases input with
  | none => simp [checkDistinct]
  | some source =>
      cases output with
      | none => simp [checkDistinct]
      | some target =>
          simp [checkDistinct_eq_ok_iff,
            Path.respelled_iff_sameComponents]

/-
  Of two paths that are one path respelled the input is
  named, as it was written.
-/
theorem checkDistinct_eq_error_iff
    {input output : Option String} :
    checkDistinct input output = .error failure ↔
      ∃ source ∈ input, ∃ target ∈ output,
        Path.Respelled source target ∧
          failure =
            .configuration
              ("input and output both name '" ++ source ++
                "'") := by
  cases input with
  | none => simp [checkDistinct]
  | some source =>
      cases output with
      | none => simp [checkDistinct]
      | some target =>
          by_cases hSame : Path.SameComponents source target
          · simp [checkDistinct, hSame,
              Path.respelled_iff_sameComponents, eq_comm]
          · simp [checkDistinct, hSame,
              Path.respelled_iff_sameComponents]

/- The first flaw of a configuration, if it has any. -/
inductive FirstFlaw
    (config : Config) : Failure → Prop where
  | input
      {source : String}
      {failure : Failure}
      (hInput : config.input = some source)
      (hFlaw : PathFlaw "input" source failure) :
      FirstFlaw config failure
  | output
      {target : String}
      {failure : Failure}
      (hInput : ∀ source ∈ config.input, IsSoundPath source)
      (hOutput : config.output = some target)
      (hFlaw : PathFlaw "output" target failure) :
      FirstFlaw config failure
  | same
      {source target : String}
      (hInput : config.input = some source)
      (hSource : IsSoundPath source)
      (hOutput : config.output = some target)
      (hTarget : IsSoundPath target)
      (hSame : Path.Respelled source target) :
      FirstFlaw config
        (.configuration
          ("input and output both name '" ++ source ++ "'"))

/-
  A configuration is accepted exactly if each path in it is
  sound and the output is no respelling of the input. It is
  rejected with its first flaw and with nothing else.
-/
theorem check_accepts_iff_and_reports_first_flaw
    (config : Config) :
    (config.check = .ok () ↔
        (∀ path ∈ config.input, IsSoundPath path) ∧
          (∀ path ∈ config.output, IsSoundPath path) ∧
          ¬ ∃ source ∈ config.input,
            ∃ target ∈ config.output,
              Path.Respelled source target) ∧
      ∀ failure : Failure,
        config.check = .error failure ↔
          FirstFlaw config failure := by
  constructor
  · rw [check_eq_ok_iff, checkOptionalPath_eq_ok_iff,
      checkOptionalPath_eq_ok_iff,
      checkDistinct_eq_ok_iff_respelled]
  · intro failure
    rw [check_eq_error_iff, checkOptionalPath_eq_ok_iff,
      checkOptionalPath_eq_ok_iff,
      checkOptionalPath_eq_error_iff,
      checkOptionalPath_eq_error_iff,
      checkDistinct_eq_error_iff]
    constructor
    · rintro (⟨source, hInput, hFlaw⟩ |
        ⟨hInput, target, hOutput, hFlaw⟩ |
        ⟨hSources, hTargets, source, hInput, target, hOutput,
          hSame, rfl⟩)
      · exact .input hInput hFlaw
      · exact .output hInput hOutput hFlaw
      · exact
          .same hInput (hSources source hInput) hOutput
            (hTargets target hOutput) hSame
    · intro hFlaw
      cases hFlaw with
      | input hInput hFlaw =>
          exact .inl ⟨_, hInput, hFlaw⟩
      | output hInput hOutput hFlaw =>
          exact .inr (.inl ⟨hInput, _, hOutput, hFlaw⟩)
      | same hInput hSource hOutput hTarget hSame =>
          refine
            .inr (.inr ⟨?_, ?_, _, hInput, _, hOutput, hSame,
              rfl⟩)
          · rw [hInput]
            rintro path ⟨⟩
            exact hSource
          · rw [hOutput]
            rintro path ⟨⟩
            exact hTarget

end Config

end StreamOverloads
