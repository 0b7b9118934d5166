import StreamOverloads.Proofs.Options.Acceptance

/-
  When the help is shown.

  The help is shown exactly if it is asked for: some mentions
  come first, of which nothing is asked for twice, and the
  next argument is the long name of the help or starts with
  its letter, which the letter of the verbose option can
  precede. No other arguments end a reading with the help.

  Key definitions include:
    * `Options.IsHelp`
    * `Options.AsksForHelp`

  Main declarations:
    * `Options.accept_eq_helpWanted_iff`
    * `Options.parse_eq_helpWanted_iff`
-/

------------------------------------------------------------
-- Asking For Help
------------------------------------------------------------

namespace StreamOverloads

namespace Options

/-
  An argument that asks for help where a configuration has
  been read before it.
-/
def IsHelp
    (config : Config)
    (argument : Bytes) : Prop :=
  argument = Bytes.ofText "--help" ∨
    Bytes.ofText "-h" <+: argument ∨
      config.verbose = false ∧
        Bytes.ofText "-vh" <+: argument

/-
  Arguments of which one asks for help, behind mentions that
  describe a configuration.
-/
def AsksForHelp
    (arguments : List Bytes) : Prop :=
  ∃ mentions config argument rest,
    arguments = spelling mentions false ++ argument :: rest ∧
      Describes (requested mentions) config ∧
        IsHelp config argument

end Options

end StreamOverloads

------------------------------------------------------------
-- Arguments That Ask For Help
------------------------------------------------------------

namespace StreamOverloads

namespace Options

variable {progress next : Progress}
variable {config : Config}
variable {setting : Setting}
variable {switch : Switch}
variable {text argument : Bytes}

theorem bind_eq_error_iff
    {α β : Type}
    {first : Except Refusal α}
    {second : α → Except Refusal β}
    {refusal : Refusal} :
    (first >>= second) = .error refusal ↔
      first = .error refusal ∨
        ∃ value,
          first = .ok value ∧
            second value = .error refusal := by
  cases first with
  | error other => simp [bind, Except.bind]
  | ok value => simp [bind, Except.bind]

theorem assign_ne_helpWanted
    {value : Bytes} :
    assign config setting value ≠ .error .helpWanted := by
  unfold assign
  split
  · simp
  · split <;> simp

theorem settle_ne_helpWanted :
    settle progress ≠ .error .helpWanted := by
  unfold settle
  split
  · simp
  · simp
  · exact assign_ne_helpWanted

theorem meetSetting_ne_helpWanted
    {value : Option Bytes} :
    meetSetting progress setting value ≠
      .error .helpWanted := by
  intro hHelp
  rcases bind_eq_error_iff.mp hHelp with
    hSettle | ⟨config, _, hValue⟩
  · exact settle_ne_helpWanted hSettle
  · cases value with
    | none => cases hValue
    | some value =>
        rcases bind_eq_error_iff.mp hValue with
          hAssign | ⟨more, _, hDone⟩
        · exact assign_ne_helpWanted hAssign
        · cases hDone

/- Of the switches only the help ends a reading with help. -/
theorem meetSwitch_eq_helpWanted_iff :
    meetSwitch progress switch = .error .helpWanted ↔
      switch = .help ∧
        ∃ config, settle progress = .ok config := by
  rw [meetSwitch, bind_eq_error_iff,
    or_iff_right settle_ne_helpWanted]
  cases switch with
  | help => simp
  | verbose =>
      simp only [reduceCtorEq, false_and, iff_false]
      rintro ⟨config, _, hMeet⟩
      split at hMeet <;> cases hMeet

theorem acceptLong_help :
    acceptLong progress (Bytes.ofText "help") =
      meetSwitch progress .help := by
  rfl

/- The long name asks for help, without a value. -/
theorem acceptLong_eq_helpWanted_iff :
    acceptLong progress text = .error .helpWanted ↔
      text = Bytes.ofText "help" ∧
        ∃ config, settle progress = .ok config := by
  constructor
  · intro hAccept
    cases hLookup :
        longNames.lookup
          (text.takeWhile fun byte => byte != equalsSign) with
    | none =>
        simp only [acceptLong, hLookup] at hAccept
        cases hAccept
    | some known =>
        have hText := exists_eq_append_of_takeWhile text
        rcases eq_of_lookup_longNames hLookup with
          ⟨setting, hName, rfl⟩ | ⟨hName, rfl⟩ |
            ⟨hName, rfl⟩
        · simp only [acceptLong, hLookup] at hAccept
          exact absurd hAccept meetSetting_ne_helpWanted
        · rw [hName] at hText
          rcases hText with rfl | ⟨value, rfl⟩
          · rw [acceptLong_verbose,
              meetSwitch_eq_helpWanted_iff] at hAccept
            cases hAccept.1
          · cases hAccept
        · rw [hName] at hText
          rcases hText with rfl | ⟨value, rfl⟩
          · rw [acceptLong_help,
              meetSwitch_eq_helpWanted_iff] at hAccept
            exact ⟨rfl, hAccept.2⟩
          · cases hAccept
  · rintro ⟨rfl, hSettle⟩
    rw [acceptLong_help, meetSwitch_eq_helpWanted_iff]
    exact ⟨rfl, hSettle⟩

theorem acceptLetters_help
    (rest : Bytes) :
    acceptLetters progress (Bytes.ofText "h" ++ rest) =
      meetSwitch progress .help >>= fun next =>
        acceptLetters next rest :=
  acceptLetters_switch rfl rest

/- A reading by letters ends with the help at this letter. -/
theorem acceptLetters_help_eq_helpWanted_iff
    (rest : Bytes) :
    acceptLetters progress (Bytes.ofText "h" ++ rest) =
        .error .helpWanted ↔
      ∃ config, settle progress = .ok config := by
  rw [acceptLetters_help, bind_eq_error_iff,
    meetSwitch_eq_helpWanted_iff]
  constructor
  · rintro (⟨_, hSettle⟩ | ⟨next, hMeet, _⟩)
    · exact hSettle
    · exact absurd hMeet meetSwitch_help_ne_ok
  · intro hSettle
    exact .inl ⟨rfl, hSettle⟩

/- Letters ask for help, first or behind the verbose one. -/
theorem acceptLetters_eq_helpWanted_iff :
    acceptLetters progress text = .error .helpWanted ↔
      ∃ config,
        settle progress = .ok config ∧
          (Bytes.ofText "h" <+: text ∨
            config.verbose = false ∧
              Bytes.ofText "vh" <+: text) := by
  constructor
  · intro hAccept
    induction text generalizing progress with
    | nil => cases hAccept
    | cons letter text ih =>
        cases hLookup : letters.lookup letter with
        | none =>
            simp only [acceptLetters, hLookup] at hAccept
            cases hAccept
        | some known =>
            rw [← List.singleton_append] at hAccept ⊢
            rcases eq_of_lookup_letters hLookup with
              ⟨setting, hLetter, rfl⟩ | ⟨hLetter, rfl⟩ |
                ⟨hLetter, rfl⟩
            · rw [hLetter, acceptLetters_letter] at hAccept
              exact absurd hAccept meetSetting_ne_helpWanted
            · rw [hLetter, acceptLetters_verbose,
                bind_eq_error_iff,
                meetSwitch_eq_helpWanted_iff] at hAccept
              rcases hAccept with
                ⟨hHelp, _⟩ | ⟨next, hMeet, hRest⟩
              · cases hHelp
              · rcases meetSwitch_verbose_eq_ok_iff.mp
                    hMeet with
                  ⟨config, hSettle, hVerbose, rfl⟩
                rcases ih hRest with
                  ⟨more, hMore, hFirst | ⟨hQuiet, _⟩⟩
                · refine
                    ⟨config, hSettle, .inr ⟨hVerbose, ?_⟩⟩
                  rw [hLetter]
                  exact
                    List.cons_prefix_cons.mpr ⟨rfl, hFirst⟩
                · -- A second verbose letter would be a flaw.
                  cases hMore
                  cases hQuiet
            · rw [hLetter,
                acceptLetters_help_eq_helpWanted_iff]
                at hAccept
              rcases hAccept with ⟨config, hSettle⟩
              rw [hLetter]
              exact
                ⟨config, hSettle,
                  .inl (List.prefix_append _ text)⟩
  · rintro
      ⟨config, hSettle, ⟨rest, rfl⟩ |
        ⟨hVerbose, rest, rfl⟩⟩
    · rw [acceptLetters_help_eq_helpWanted_iff]
      exact ⟨config, hSettle⟩
    · have hLetters :
          Bytes.ofText "vh" ++ rest =
            Bytes.ofText "v" ++ (Bytes.ofText "h" ++ rest) := by
        rfl
      rw [hLetters, acceptLetters_verbose, bind_eq_error_iff]
      refine
        .inr
          ⟨_,
            meetSwitch_verbose_eq_ok_iff.mpr
              ⟨config, hSettle, hVerbose, rfl⟩,
            ?_⟩
      rw [acceptLetters_help_eq_helpWanted_iff]
      exact ⟨_, rfl⟩

theorem isHelp_long_iff :
    IsHelp config (hyphen :: hyphen :: text) ↔
      text = Bytes.ofText "help" := by
  have hWord :
      Bytes.ofText "--help" =
        hyphen :: hyphen :: Bytes.ofText "help" := by
    rfl
  have hLetter :
      ¬ Bytes.ofText "-h" <+: hyphen :: hyphen :: text := by
    rintro ⟨rest, hSame⟩
    cases hSame
  have hLetters :
      ¬ Bytes.ofText "-vh" <+: hyphen :: hyphen :: text := by
    rintro ⟨rest, hSame⟩
    cases hSame
  simp [IsHelp, hWord, hLetter, hLetters]

theorem isHelp_short_iff
    {letter : UInt8}
    (hLetter : letter ≠ hyphen) :
    IsHelp config (hyphen :: letter :: text) ↔
      Bytes.ofText "h" <+: letter :: text ∨
        config.verbose = false ∧
          Bytes.ofText "vh" <+: letter :: text := by
  have hWord :
      hyphen :: letter :: text ≠ Bytes.ofText "--help" := by
    intro hSame
    exact hLetter (List.cons.inj (List.cons.inj hSame).2).1
  have hFirst :
      Bytes.ofText "-h" <+: hyphen :: letter :: text ↔
        Bytes.ofText "h" <+: letter :: text :=
    List.prefix_cons_inj hyphen
  have hSecond :
      Bytes.ofText "-vh" <+: hyphen :: letter :: text ↔
        Bytes.ofText "vh" <+: letter :: text :=
    List.prefix_cons_inj hyphen
  rw [IsHelp, or_iff_right hWord, hFirst, hSecond]

theorem ne_hyphen_of_shape_eq_short
    {letter : UInt8}
    (hShape :
      shape (hyphen :: letter :: text) =
        .short (letter :: text)) :
    letter ≠ hyphen := by
  rintro rfl
  cases text with
  | nil => cases hShape
  | cons byte text => cases hShape

/- A word is no request for help. -/
theorem not_isHelp_of_word
    (hWord :
      argument = [hyphen] ∨ argument.head? ≠ some hyphen) :
    ¬ IsHelp config argument := by
  rintro (rfl | ⟨rest, rfl⟩ | ⟨_, rest, rfl⟩)
  · rcases hWord with hLone | hFirst
    · cases hLone
    · exact hFirst rfl
  · rcases hWord with hLone | hFirst
    · cases hLone
    · exact hFirst rfl
  · rcases hWord with hLone | hFirst
    · cases hLone
    · exact hFirst rfl

theorem acceptWord_ne_helpWanted :
    acceptWord progress argument ≠ .error .helpWanted := by
  unfold acceptWord
  split <;> simp

/- An argument is read with help where it asks for it. -/
theorem accept_eq_helpWanted_iff :
    accept progress argument = .error .helpWanted ↔
      progress.ended = false ∧
        ∃ config,
          settle progress = .ok config ∧
            IsHelp config argument := by
  cases hEnded : progress.ended with
  | true => simp [accept, hEnded]
  | false =>
      rw [and_iff_right rfl, accept, hEnded,
        if_neg Bool.false_ne_true]
      rcases shape_cases argument with
        ⟨rfl, hShape⟩ | ⟨text, rfl, hShape⟩ |
          ⟨letter, text, rfl, hShape⟩ | ⟨hWord, hShape⟩
      · rw [hShape]
        have hNot : ∀ config,
            ¬ IsHelp config [hyphen, hyphen] := by
          intro config
          rw [isHelp_long_iff]
          exact (List.cons_ne_nil _ _).symm
        simp [hNot]
      · simp only [hShape, acceptLong_eq_helpWanted_iff,
          isHelp_long_iff]
        constructor
        · rintro ⟨hText, config, hSettle⟩
          exact ⟨config, hSettle, hText⟩
        · rintro ⟨config, hSettle, hText⟩
          exact ⟨hText, config, hSettle⟩
      · simp only [hShape, acceptLetters_eq_helpWanted_iff,
          isHelp_short_iff
            (ne_hyphen_of_shape_eq_short hShape)]
      · rw [hShape]
        simp [acceptWord_ne_helpWanted,
          not_isHelp_of_word hWord]

end Options

end StreamOverloads

------------------------------------------------------------
-- Readings That End With Help
------------------------------------------------------------

namespace StreamOverloads

namespace Options

variable {progress next : Progress}
variable {argument : Bytes}
variable {arguments before rest : List Bytes}

theorem acceptAll_append :
    acceptAll progress (before ++ rest) =
      acceptAll progress before >>= fun next =>
        acceptAll next rest := by
  induction before generalizing progress with
  | nil => rfl
  | cons argument before ih =>
      rw [List.cons_append, acceptAll, acceptAll]
      cases accept progress argument with
      | error refusal => rfl
      | ok next => exact ih

theorem acceptAll_singleton :
    acceptAll progress [argument] =
      accept progress argument := by
  rw [acceptAll]
  cases accept progress argument <;> rfl

/- A reading that fails does so at one of the arguments. -/
theorem acceptAll_eq_error_iff
    {refusal : Refusal} :
    acceptAll progress arguments = .error refusal ↔
      ∃ before argument rest next,
        arguments = before ++ argument :: rest ∧
          acceptAll progress before = .ok next ∧
            accept next argument = .error refusal := by
  constructor
  · intro hAll
    induction arguments generalizing progress with
    | nil => cases hAll
    | cons argument arguments ih =>
        cases hAccept : accept progress argument with
        | error other =>
            rw [acceptAll, hAccept] at hAll
            rw [Except.error.inj hAll] at hAccept
            exact
              ⟨[], argument, arguments, progress, rfl, rfl,
                hAccept⟩
        | ok middle =>
            rw [acceptAll, hAccept] at hAll
            rcases ih hAll with
              ⟨before, failing, rest, next, rfl, hBefore,
                hFailing⟩
            refine
              ⟨argument :: before, failing, rest, next, rfl,
                ?_, hFailing⟩
            rw [acceptAll, hAccept]
            exact hBefore
  · rintro
      ⟨before, argument, rest, next, rfl, hBefore, hAccept⟩
    rw [acceptAll_append, hBefore]
    change acceptAll next (argument :: rest) = _
    rw [acceptAll, hAccept]

/- The mark that ends the options is read once. -/
theorem accept_endMark_eq_ok_iff :
    accept progress (Bytes.ofText "--") = .ok next ↔
      progress.ended = false ∧
        next = { progress with ended := true } := by
  have hMark : shape (Bytes.ofText "--") = .endMark := by
    rfl
  rw [accept, hMark]
  cases progress.ended with
  | true => simp
  | false => simp [eq_comm]

/-
  Arguments are read to a configuration to which more can be
  added exactly if they spell mentions that describe it.
-/
theorem exists_acceptAll_iff_spelling
    {config : Config} :
    (∃ next,
        acceptAll start before = .ok next ∧
          next.ended = false ∧ settle next = .ok config) ↔
      ∃ mentions,
        before = spelling mentions false ∧
          Describes (requested mentions) config := by
  constructor
  · rintro ⟨next, hBefore, hEnded, hSettle⟩
    have hParse : parse before = .ok config := by
      rw [parse, hBefore]
      exact hSettle
    rcases exists_spelling_of_finish hParse with
      ⟨mentions, closed, rfl⟩
    cases closed with
    | false =>
        exact
          ⟨mentions, rfl,
            (parse_spelling_eq_ok_iff mentions false).mp
              hParse⟩
    | true =>
        -- Behind the mark nothing more could be added.
        change
          acceptAll start
              (mentions.flatMap Mention.arguments ++
                [Bytes.ofText "--"]) =
            .ok next at hBefore
        rw [acceptAll_append, bind_eq_ok_iff] at hBefore
        rcases hBefore with ⟨middle, _, hMark⟩
        rw [acceptAll_singleton, accept_endMark_eq_ok_iff]
          at hMark
        rw [hMark.2] at hEnded
        cases hEnded
  · rintro ⟨mentions, rfl, hDescribes⟩
    -- The mark can follow, so the options were not ended.
    have hParse :=
      (parse_spelling_eq_ok_iff mentions true).mpr hDescribes
    have hSpelling :
        spelling mentions true =
          spelling mentions false ++ [Bytes.ofText "--"] := by
      simp [spelling, closing]
    cases hAll :
        acceptAll start (spelling mentions true) with
    | error refusal =>
        rw [parse, hAll] at hParse
        cases hParse
    | ok final =>
        rw [parse, hAll] at hParse
        rw [hSpelling, acceptAll_append, bind_eq_ok_iff]
          at hAll
        rcases hAll with ⟨next, hBefore, hMark⟩
        rw [acceptAll_singleton, accept_endMark_eq_ok_iff]
          at hMark
        rcases hMark with ⟨hEnded, rfl⟩
        exact ⟨next, hBefore, hEnded, hParse⟩

/- The help is shown exactly if it is asked for. -/
theorem parse_eq_helpWanted_iff :
    parse arguments = .error .helpWanted ↔
      AsksForHelp arguments := by
  have hParse :
      parse arguments = .error .helpWanted ↔
        acceptAll start arguments = .error .helpWanted := by
    rw [parse]
    cases acceptAll start arguments with
    | error refusal => simp
    | ok next => simp [settle_ne_helpWanted]
  rw [hParse, acceptAll_eq_error_iff]
  constructor
  · rintro
      ⟨before, argument, rest, next, rfl, hBefore, hAccept⟩
    rcases accept_eq_helpWanted_iff.mp hAccept with
      ⟨hEnded, config, hSettle, hHelp⟩
    rcases exists_acceptAll_iff_spelling.mp
        ⟨next, hBefore, hEnded, hSettle⟩ with
      ⟨mentions, rfl, hDescribes⟩
    exact
      ⟨mentions, config, argument, rest, rfl, hDescribes,
        hHelp⟩
  · rintro
      ⟨mentions, config, argument, rest, rfl, hDescribes,
        hHelp⟩
    rcases exists_acceptAll_iff_spelling.mpr
        ⟨mentions, rfl, hDescribes⟩ with
      ⟨next, hBefore, hEnded, hSettle⟩
    exact
      ⟨_, argument, rest, next, rfl, hBefore,
        accept_eq_helpWanted_iff.mpr
          ⟨hEnded, config, hSettle, hHelp⟩⟩

end Options

end StreamOverloads
