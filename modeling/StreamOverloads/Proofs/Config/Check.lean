import StreamOverloads.Config

/-
  What the check of a configuration decides.

  A configuration is accepted if all of its checks pass, and
  rejected with the failure of the first one that does not.
  Whichever that is, the failure exits with one.

  Main declarations:
    * `Config.check_eq_ok_iff`
    * `Config.check_eq_error_cases`
    * `Config.exitCode_of_check_eq_error`
-/

------------------------------------------------------------
-- All Checks
------------------------------------------------------------

namespace StreamOverloads

namespace Config

variable {config : Config}
variable {failure : Failure}

/- A configuration is accepted if it passes each check. -/
theorem check_eq_ok_iff :
    config.check = .ok () ↔
      checkOptionalPath "input" config.input = .ok () ∧
        checkOptionalPath "output" config.output =
          .ok () ∧
        checkDistinct config.input config.output =
          .ok () := by
  unfold check
  cases checkOptionalPath "input" config.input with
  | error other => simp [bind, Except.bind]
  | ok done =>
      cases checkOptionalPath "output" config.output with
      | error other => simp [bind, Except.bind]
      | ok done => simp [bind, Except.bind]

/- A configuration is rejected by the first check it fails. -/
theorem check_eq_error_cases
    (hCheck : config.check = .error failure) :
    checkOptionalPath "input" config.input =
        .error failure ∨
      checkOptionalPath "output" config.output =
        .error failure ∨
      checkDistinct config.input config.output =
        .error failure := by
  unfold check at hCheck
  cases hInput :
      checkOptionalPath "input" config.input with
  | error other =>
      rw [hInput] at hCheck
      exact .inl hCheck
  | ok done =>
      cases hOutput :
          checkOptionalPath "output" config.output with
      | error other =>
          rw [hInput, hOutput] at hCheck
          exact .inr (.inl hCheck)
      | ok done =>
          rw [hInput, hOutput] at hCheck
          exact .inr (.inr hCheck)

end Config

end StreamOverloads

------------------------------------------------------------
-- Accepted And Rejected Configurations
------------------------------------------------------------

namespace StreamOverloads

namespace Config

variable {config : Config}
variable {input output : String}
variable {failure : Failure}

/- Two paths are distinct if their components are. -/
theorem checkDistinct_eq_ok_iff :
    checkDistinct (some input) (some output) = .ok () ↔
      ¬ Path.SameComponents input output := by
  by_cases hSame : Path.SameComponents input output
  · simp [checkDistinct, hSame]
  · simp [checkDistinct, hSame]

/- An accepted input and output differ in components. -/
theorem components_ne_of_check_eq_ok
    (hInput : config.input = some input)
    (hOutput : config.output = some output)
    (hAccepted : config.check = .ok ()) :
    (Path.ofText input).components ≠
      (Path.ofText output).components := by
  have hDistinct := (check_eq_ok_iff.mp hAccepted).2.2
  rw [hInput, hOutput] at hDistinct
  exact checkDistinct_eq_ok_iff.mp hDistinct

theorem exitCode_of_checkOptionalPath_eq_error
    {field : String}
    {path : Option String}
    (hCheck :
      checkOptionalPath field path = .error failure) :
    failure.exitCode = 1 := by
  cases path with
  | none => cases hCheck
  | some path =>
      change checkPath field path = .error failure at hCheck
      unfold checkPath at hCheck
      split at hCheck
      · rw [← Except.error.inj hCheck]
        rfl
      · split at hCheck
        · rw [← Except.error.inj hCheck]
          rfl
        · cases hCheck

theorem exitCode_of_checkDistinct_eq_error
    {input output : Option String}
    (hCheck :
      checkDistinct input output = .error failure) :
    failure.exitCode = 1 := by
  unfold checkDistinct at hCheck
  split at hCheck
  · split at hCheck
    · rw [← Except.error.inj hCheck]
      rfl
    · cases hCheck
  · cases hCheck

/- Every failure of the check exits with one. -/
theorem exitCode_of_check_eq_error
    (hCheck : config.check = .error failure) :
    failure.exitCode = 1 := by
  rcases check_eq_error_cases hCheck with
    hInput | hOutput | hDistinct
  · exact exitCode_of_checkOptionalPath_eq_error hInput
  · exact exitCode_of_checkOptionalPath_eq_error hOutput
  · exact exitCode_of_checkDistinct_eq_error hDistinct

end Config

end StreamOverloads
