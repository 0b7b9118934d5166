import StreamOverloads.Proofs.Options.Reading

/-
  Which arguments make a configuration.

  One mention is read as if its requests were fulfilled, and
  a reading that goes well starts with a mention or with the
  mark that ends the options. So the arguments that make a
  configuration are the spellings of mentions that describe
  it. What they ask for counts, not how or in which order.

  Main declarations:
    * `Options.finish_arguments_append_eq_ok_iff`
    * `Options.exists_arguments_of_finish_cons`
    * `Options.parse_spelling_eq_ok_iff`
    * `Options.parse_verboseLetter_cons`
    * `Options.parse_reads_described_spellings`
-/

------------------------------------------------------------
-- Values Behind Letters
------------------------------------------------------------

namespace StreamOverloads

namespace Options

variable {text value : String}
variable {bytes : Bytes}

/- Text behind a letter is a value, but for an equals sign. -/
theorem attached_ofText
    (hText : text ≠ "") :
    attached (Bytes.ofText text) =
      some (Bytes.ofText (withoutEqualsSign text)) := by
  by_cases hSign : text.toList.head? = some '='
  · rcases List.head?_eq_some_iff.mp hSign with
      ⟨chars, hChars⟩
    have hSplit : text = "=" ++ String.ofList chars := by
      apply String.toList_injective
      simp [hChars]
    have hWithout :
        withoutEqualsSign text = String.ofList chars := by
      simp only [withoutEqualsSign, hChars]
    rw [hWithout, hSplit, Bytes.ofText_append]
    rfl
  · have hWithout : withoutEqualsSign text = text := by
      rw [withoutEqualsSign]
      split
      · rename_i chars hChars
        rw [hChars] at hSign
        exact absurd rfl hSign
      · rfl
    have hHead :
        (Bytes.ofText text).head? ≠ some equalsSign := by
      rw [Ne, equalsSign,
        Bytes.head?_ofText_eq_iff (by decide)]
      exact hSign
    rw [hWithout]
    cases hBytes : Bytes.ofText text with
    | nil =>
        exact absurd (Bytes.ofText_eq_nil_iff.mp hBytes) hText
    | cons first rest =>
        have hFirst : first ≠ equalsSign := by
          rintro rfl
          rw [hBytes] at hHead
          exact hHead rfl
        rw [attached, if_neg hFirst]

/- What is behind a letter is text if its value is. -/
theorem exists_eq_ofText_of_attached
    (hAttached : attached bytes = some (Bytes.ofText value)) :
    ∃ text, text ≠ "" ∧ bytes = Bytes.ofText text := by
  cases bytes with
  | nil => cases hAttached
  | cons first rest =>
      have hText :
          ∃ text, first :: rest = Bytes.ofText text := by
        by_cases hFirst : first = equalsSign
        · rw [attached, if_pos hFirst] at hAttached
          refine ⟨"=" ++ value, ?_⟩
          rw [hFirst, Option.some.inj hAttached,
            Bytes.ofText_append]
          rfl
        · rw [attached, if_neg hFirst] at hAttached
          exact ⟨value, Option.some.inj hAttached⟩
      rcases hText with ⟨text, hText⟩
      refine ⟨text, ?_, hText⟩
      rintro rfl
      cases hText

end Options

end StreamOverloads

------------------------------------------------------------
-- Reading Mentions
------------------------------------------------------------

namespace StreamOverloads

namespace Options

variable {config final : Config}
variable {setting : Setting}
variable {text : String}
variable {bytes : Bytes}
variable {rest : List Bytes}
variable {behind : Progress → Except Refusal Config}

/- Requests are fulfilled in two parts as well. -/
theorem exists_foldlM_append_iff
    {first second : List Request}
    {Good : Config → Prop} :
    (∃ final,
        (first ++ second).foldlM fulfil config = some final ∧
          Good final) ↔
      ∃ more,
        first.foldlM fulfil config = some more ∧
          ∃ final,
            second.foldlM fulfil more = some final ∧
              Good final := by
  rw [List.foldlM_append]
  cases first.foldlM fulfil config <;> simp

/- A verbose option is met before anything that follows. -/
theorem meetSwitch_bind_eq_ok_iff :
    (meetSwitch (ready config) .verbose >>= behind) =
        .ok final ↔
      ∃ more,
        fulfil config .verbose = some more ∧
          behind (ready more) = .ok final := by
  simp only [bind_eq_ok_iff, meetSwitch_ready_eq_ok_iff,
    true_and]
  constructor
  · rintro ⟨_, ⟨more, hFulfil, rfl⟩, hBehind⟩
    exact ⟨more, hFulfil, hBehind⟩
  · rintro ⟨more, hFulfil, hBehind⟩
    exact ⟨ready more, ⟨more, hFulfil, rfl⟩, hBehind⟩

/- A value in the same argument fulfils a request for it. -/
theorem meetSetting_some_bind_eq_ok_iff :
    (meetSetting (ready config) setting
          (some (Bytes.ofText text)) >>= behind) =
        .ok final ↔
      ∃ more,
        fulfil config (.value setting text) = some more ∧
          behind (ready more) = .ok final := by
  simp only [bind_eq_ok_iff, meetSetting_ready_some_eq_ok_iff]
  constructor
  · rintro ⟨_, ⟨other, more, hText, hFulfil, rfl⟩, hBehind⟩
    rw [Bytes.ofText_injective hText]
    exact ⟨more, hFulfil, hBehind⟩
  · rintro ⟨more, hFulfil, hBehind⟩
    exact
      ⟨ready more, ⟨text, more, rfl, hFulfil, rfl⟩, hBehind⟩

/- A value in the next argument fulfils a request for it. -/
theorem meetSetting_none_bind_finish_eq_ok_iff
    (hApart : StandsApart text) :
    (meetSetting (ready config) setting none >>= fun next =>
        finish next (Bytes.ofText text :: rest)) =
        .ok final ↔
      ∃ more,
        fulfil config (.value setting text) = some more ∧
          finish (ready more) rest = .ok final := by
  rw [meetSetting_ready_none]
  change finish (waiting config setting) _ = _ ↔ _
  rw [finish_waiting_eq_ok_iff]
  constructor
  · rintro ⟨other, others, more, _, hSame, hFulfil, hFinish⟩
    rcases List.cons.inj hSame with ⟨hText, rfl⟩
    rw [Bytes.ofText_injective hText]
    exact ⟨more, hFulfil, hFinish⟩
  · rintro ⟨more, hFulfil, hFinish⟩
    exact ⟨text, rest, more, hApart, rfl, hFulfil, hFinish⟩

/- A letter of verbose counts before that of a setting. -/
theorem finish_lettered_cons_eq_ok_iff
    {verbose : Bool} :
    finish (ready config)
          ((Bytes.ofText (lettered verbose setting) ++ bytes) ::
            rest) =
        .ok final ↔
      ∃ more,
        (Mention.verboseRequests verbose).foldlM fulfil
              config =
            some more ∧
          (meetSetting (ready more) setting (attached bytes) >>=
              fun next => finish next rest) =
            .ok final := by
  cases verbose with
  | false =>
      have hShape :
          shape
              (Bytes.ofText (lettered false setting) ++
                bytes) =
            .short
              (Bytes.ofText setting.letter ++ bytes) := by
        cases setting <;> rfl
      rw [finish_cons_of_short rfl hShape, acceptLetters_letter]
      simp [Mention.verboseRequests]
  | true =>
      have hShape :
          shape
              (Bytes.ofText (lettered true setting) ++
                bytes) =
            .short
              (Bytes.ofText "v" ++
                (Bytes.ofText setting.letter ++ bytes)) := by
        cases setting <;> rfl
      rw [finish_cons_of_short rfl hShape,
        acceptLetters_verbose, bind_assoc,
        meetSwitch_bind_eq_ok_iff]
      simp [Mention.verboseRequests, acceptLetters_letter]

/- One mention is read as its requests are fulfilled. -/
theorem finish_arguments_append_eq_ok_iff
    (mention : Mention) :
    finish (ready config) (mention.arguments ++ rest) =
        .ok final ↔
      ∃ more,
        mention.requests.foldlM fulfil config = some more ∧
          finish (ready more) rest = .ok final := by
  cases mention with
  | verboseWord =>
      have hShape :
          shape (Bytes.ofText "--verbose") =
            .long (Bytes.ofText "verbose") := by
        rfl
      rw [Mention.arguments, List.singleton_append,
        finish_cons_of_long rfl hShape, acceptLong_verbose,
        meetSwitch_bind_eq_ok_iff]
      simp [Mention.requests]
  | verboseLetter =>
      have hShape :
          shape (Bytes.ofText "-v") =
            .short (Bytes.ofText "v" ++ []) := by
        rfl
      rw [Mention.arguments, List.singleton_append,
        finish_cons_of_short rfl hShape,
        acceptLetters_verbose, bind_assoc,
        meetSwitch_bind_eq_ok_iff]
      simp [Mention.requests, acceptLetters, bind, Except.bind]
  | wordJoined setting value =>
      have hShape :
          shape
              (Bytes.ofText
                ("--" ++ setting.name ++ "=" ++ value)) =
            .long
              (Bytes.ofText setting.name ++
                equalsSign :: Bytes.ofText value) := by
        simp only [Bytes.ofText_append]
        cases setting <;> rfl
      rw [Mention.arguments, List.singleton_append,
        finish_cons_of_long rfl hShape,
        acceptLong_name_append,
        meetSetting_some_bind_eq_ok_iff]
      simp [Mention.requests]
  | wordApart setting value =>
      have hShape :
          shape (Bytes.ofText ("--" ++ setting.name)) =
            .long (Bytes.ofText setting.name) := by
        cases setting <;> rfl
      rw [Mention.arguments, List.cons_append,
        finish_cons_of_long rfl hShape, acceptLong_name,
        List.singleton_append,
        meetSetting_none_bind_finish_eq_ok_iff value.property]
      simp [Mention.requests]
  | letterApart verbose setting value =>
      rw [Mention.arguments, List.cons_append,
        ← List.append_nil (Bytes.ofText (lettered _ _)),
        finish_lettered_cons_eq_ok_iff]
      simp only [attached, List.singleton_append,
        meetSetting_none_bind_finish_eq_ok_iff value.property,
        Mention.requests, exists_foldlM_append_iff,
        List.foldlM_cons, List.foldlM_nil, bind_pure]
  | letterJoined verbose setting text =>
      rw [Mention.arguments, List.singleton_append,
        Bytes.ofText_append, finish_lettered_cons_eq_ok_iff]
      simp only [attached_ofText text.property,
        meetSetting_some_bind_eq_ok_iff, Mention.requests,
        exists_foldlM_append_iff, List.foldlM_cons,
        List.foldlM_nil, bind_pure]

end Options

end StreamOverloads

------------------------------------------------------------
-- Finding Mentions
------------------------------------------------------------

namespace StreamOverloads

namespace Options

variable {next : Progress}
variable {config final : Config}
variable {setting : Setting}
variable {verbose : Bool}
variable {argument bytes : Bytes}
variable {rest : List Bytes}

/- A letter of a setting makes a mention with its value. -/
theorem exists_arguments_of_lettered
    (hMeet :
      meetSetting (ready config) setting (attached bytes) =
        .ok next)
    (hFinish : finish next rest = .ok final) :
    ∃ mention : Mention,
      mention.arguments <+:
        (Bytes.ofText (lettered verbose setting) ++ bytes) ::
          rest := by
  cases hAttached : attached bytes with
  | none =>
      have hBytes : bytes = [] := by
        cases bytes with
        | nil => rfl
        | cons first others =>
            rw [attached] at hAttached
            split at hAttached <;> cases hAttached
      rw [hAttached, meetSetting_ready_none] at hMeet
      cases hMeet
      rcases finish_waiting_eq_ok_iff.mp hFinish with
        ⟨text, others, _, hApart, rfl, _⟩
      rw [hBytes, List.append_nil]
      exact
        ⟨.letterApart verbose setting ⟨text, hApart⟩, others,
          rfl⟩
  | some value =>
      rw [hAttached,
        meetSetting_ready_some_eq_ok_iff] at hMeet
      rcases hMeet with ⟨_, _, rfl, _⟩
      rcases exists_eq_ofText_of_attached hAttached with
        ⟨text, hText, rfl⟩
      rw [← Bytes.ofText_append]
      exact
        ⟨.letterJoined verbose setting ⟨text, hText⟩, rest,
          rfl⟩

/- The verbose option is not asked for twice. -/
theorem not_fulfil_verbose_twice
    {more : Config}
    (hOnce : fulfil config .verbose = some more) :
    fulfil more .verbose ≠ some final := by
  intro hTwice
  rcases fulfil_verbose_eq_some_iff.mp hOnce with ⟨_, rfl⟩
  have hVerbose := (fulfil_verbose_eq_some_iff.mp hTwice).1
  cases hVerbose

theorem ofText_lettered :
    Bytes.ofText (lettered verbose setting) =
      hyphen ::
        (Bytes.ofText (if verbose then "v" else "") ++
          Bytes.ofText setting.letter) := by
  cases verbose <;> cases setting <;> rfl

/- Letters make a mention, with the next argument or without. -/
theorem exists_arguments_of_acceptLetters
    {letter : UInt8}
    (hAccept :
      acceptLetters (ready config) (letter :: bytes) =
        .ok next)
    (hFinish : finish next rest = .ok final) :
    ∃ mention : Mention,
      mention.arguments <+:
        (hyphen :: letter :: bytes) :: rest := by
  rcases acceptLetters_cons_cases hAccept with
    ⟨setting, hLetter, hMeet⟩ |
      ⟨hLetter, middle, hMeet, hAccept⟩
  · have hArgument :
        hyphen :: letter :: bytes =
          Bytes.ofText (lettered false setting) ++ bytes := by
      rw [ofText_lettered, ← hLetter]
      rfl
    rw [hArgument]
    exact exists_arguments_of_lettered hMeet hFinish
  · rcases meetSwitch_ready_eq_ok_iff.mp hMeet with
      ⟨_, more, hFulfil, rfl⟩
    cases bytes with
    | nil =>
        refine ⟨.verboseLetter, rest, ?_⟩
        rw [← List.singleton_append, hLetter]
        rfl
    | cons second others =>
        rcases acceptLetters_cons_cases hAccept with
          ⟨setting, hSecond, hMeet⟩ | ⟨_, middle, hMeet, _⟩
        · have hArgument :
              hyphen :: letter :: second :: others =
                Bytes.ofText (lettered true setting) ++
                  others := by
            rw [ofText_lettered, ← hSecond, if_pos rfl,
              ← hLetter]
            rfl
          rw [hArgument]
          exact exists_arguments_of_lettered hMeet hFinish
        · -- A second such letter would ask for the same again.
          rcases meetSwitch_ready_eq_ok_iff.mp hMeet with
            ⟨_, final, hTwice, _⟩
          exact absurd hTwice (not_fulfil_verbose_twice hFulfil)

/-
  A reading that goes well starts with a mention or with the
  mark that ends the options.
-/
theorem exists_arguments_of_finish_cons
    (hFinish :
      finish (ready config) (argument :: rest) = .ok final) :
    argument :: rest = closing true ∨
      ∃ mention : Mention,
        mention.arguments <+: argument :: rest := by
  rcases shape_cases argument with
    ⟨rfl, _⟩ | ⟨text, rfl, hShape⟩ |
      ⟨letter, letters, rfl, hShape⟩ | ⟨_, hShape⟩
  · rw [finish_endMark_eq_ok_iff rfl] at hFinish
    rw [hFinish.1]
    exact .inl rfl
  · right
    rw [finish_cons_of_long rfl hShape,
      bind_eq_ok_iff] at hFinish
    rcases hFinish with ⟨next, hAccept, hFinish⟩
    rcases acceptLong_cases hAccept with
      ⟨rfl, _⟩ | ⟨setting, rfl, hMeet⟩ |
        ⟨setting, value, rfl, hMeet⟩
    · exact ⟨.verboseWord, rest, rfl⟩
    · rw [meetSetting_ready_none] at hMeet
      cases hMeet
      rcases finish_waiting_eq_ok_iff.mp hFinish with
        ⟨text, others, _, hApart, rfl, _⟩
      refine
        ⟨.wordApart setting ⟨text, hApart⟩, others, ?_⟩
      rw [Mention.arguments, Bytes.ofText_append]
      rfl
    · rcases meetSetting_ready_some_eq_ok_iff.mp hMeet with
        ⟨text, _, rfl, _⟩
      refine ⟨.wordJoined setting text, rest, ?_⟩
      simp only [Mention.arguments, Bytes.ofText_append,
        List.append_assoc]
      rfl
  · right
    rw [finish_cons_of_short rfl hShape,
      bind_eq_ok_iff] at hFinish
    rcases hFinish with ⟨next, hAccept, hFinish⟩
    exact exists_arguments_of_acceptLetters hAccept hFinish
  · rw [finish_cons_of_word rfl hShape,
      acceptWord_of_settle settle_ready] at hFinish
    cases hFinish

end Options

end StreamOverloads

------------------------------------------------------------
-- Spellings
------------------------------------------------------------

namespace StreamOverloads

namespace Options

variable {config final : Config}
variable {arguments : List Bytes}

theorem Mention.arguments_length_pos
    (mention : Mention) :
    0 < mention.arguments.length := by
  cases mention <;> exact Nat.succ_pos _

/- A spelling is read as its requests are fulfilled. -/
theorem finish_spelling_eq_ok_iff
    (mentions : List Mention)
    (closed : Bool) :
    finish (ready config) (spelling mentions closed) =
        .ok final ↔
      (requested mentions).foldlM fulfil config =
        some final := by
  induction mentions generalizing config with
  | nil =>
      have hNil :
          (requested []).foldlM fulfil config =
            some config := by
        rfl
      rw [hNil, Option.some_inj]
      cases closed with
      | true =>
          have hMark :
              spelling [] true = [hyphen, hyphen] :: [] := by
            rfl
          rw [hMark, finish_endMark_eq_ok_iff rfl]
          simp
      | false =>
          have hNothing : spelling [] false = [] := by
            rfl
          rw [hNothing]
          simp
  | cons mention mentions ih =>
      have hSpelling :
          spelling (mention :: mentions) closed =
            mention.arguments ++ spelling mentions closed := by
        rw [spelling, List.flatMap_cons, List.append_assoc]
        rfl
      have hRequested :
          requested (mention :: mentions) =
            mention.requests ++ requested mentions := by
        rfl
      rw [hSpelling, hRequested, List.foldlM_append,
        finish_arguments_append_eq_ok_iff]
      simp only [ih]
      exact Option.bind_eq_some_iff.symm

/- A spelling makes the configuration that it describes. -/
theorem parse_spelling_eq_ok_iff
    (mentions : List Mention)
    (closed : Bool) :
    parse (spelling mentions closed) = .ok config ↔
      Describes (requested mentions) config := by
  rw [parse_eq_finish, finish_spelling_eq_ok_iff,
    foldlM_fulfil_eq_some_iff, leadsTo_start_iff]

/- Only spellings are read without a flaw. -/
theorem exists_spelling_of_finish
    (hFinish : finish (ready config) arguments = .ok final) :
    ∃ mentions closed,
      arguments = spelling mentions closed := by
  -- A mention takes one argument or two, so not on the list.
  induction hLength : arguments.length using
    Nat.strongRecOn generalizing config arguments with
  | ind length ih =>
      cases arguments with
      | nil => exact ⟨[], false, rfl⟩
      | cons argument rest =>
          rcases exists_arguments_of_finish_cons hFinish with
            hMark | ⟨mention, others, hSplit⟩
          · exact ⟨[], true, hMark⟩
          · rw [← hSplit] at hFinish hLength ⊢
            rcases (finish_arguments_append_eq_ok_iff
                mention).mp hFinish with
              ⟨more, _, hOthers⟩
            have hSome := mention.arguments_length_pos
            have hShorter : others.length < length := by
              rw [List.length_append] at hLength
              omega
            rcases ih others.length hShorter hOthers rfl with
              ⟨mentions, closed, rfl⟩
            refine ⟨mention :: mentions, closed, ?_⟩
            rw [spelling, spelling, List.flatMap_cons,
              List.append_assoc]

/- The verbose option can be put before other requests. -/
theorem Describes.verbose_cons
    {requests : List Request}
    (hQuiet : config.verbose = false)
    (hDescribes : Describes requests config) :
    Describes (.verbose :: requests)
      { config with verbose := true } := by
  have hNot : .verbose ∉ requests := by
    rw [← hDescribes.verbose_iff, hQuiet]
    exact Bool.false_ne_true
  have hCount : requests.count .verbose = 0 :=
    List.count_eq_zero_of_not_mem hNot
  exact
    { verbose_once := by simp [hCount]
      input_once := hDescribes.input_once
      output_once := hDescribes.output_once
      verbose_iff := by simp
      input_eq := hDescribes.input_eq
      output_eq := hDescribes.output_eq }

theorem parse_verboseLetter_cons
    (hQuiet : config.verbose = false)
    (hParse : parse arguments = .ok config) :
    parse (Bytes.ofText "-v" :: arguments) =
      .ok { config with verbose := true } := by
  rcases exists_spelling_of_finish hParse with
    ⟨mentions, closed, rfl⟩
  rw [parse_spelling_eq_ok_iff] at hParse
  exact
    (parse_spelling_eq_ok_iff (.verboseLetter :: mentions)
      closed).mpr (hParse.verbose_cons hQuiet)

/-
  Arguments make a configuration exactly if they spell
  mentions that describe it, with or without two hyphens
  behind. It depends on what is asked for, not on the order
  or on the spelling.
-/
theorem parse_reads_described_spellings :
    (∀ arguments config,
      parse arguments = .ok config ↔
        ∃ mentions closed,
          arguments = spelling mentions closed ∧
            Describes (requested mentions) config) ∧
      ∀ left right leftClosed rightClosed,
        (requested left).Perm (requested right) →
          ∀ config,
            parse (spelling left leftClosed) = .ok config ↔
              parse (spelling right rightClosed) =
                .ok config := by
  constructor
  · intro arguments config
    constructor
    · intro hParse
      rcases exists_spelling_of_finish hParse with
        ⟨mentions, closed, rfl⟩
      exact
        ⟨mentions, closed, rfl,
          (parse_spelling_eq_ok_iff mentions closed).mp hParse⟩
    · rintro ⟨mentions, closed, rfl, hDescribes⟩
      exact
        (parse_spelling_eq_ok_iff mentions closed).mpr
          hDescribes
  · intro left right leftClosed rightClosed hPerm config
    rw [parse_spelling_eq_ok_iff, parse_spelling_eq_ok_iff]
    exact ⟨.perm hPerm, .perm hPerm.symm⟩

/- All three options, input and verbose by their letters. -/
def byLetters : List Mention :=
  [ .letterApart true .input ⟨"nodes.h", by decide⟩,
    .wordJoined .output "gen.h" ]

/- All three options, input and verbose by their names. -/
def byNames : List Mention :=
  [ .letterJoined false .output ⟨"=gen.h", by decide⟩,
    .verboseWord,
    .wordApart .input ⟨"nodes.h", by decide⟩ ]

theorem parse_reads_described_spellings_reordered :
    (requested byLetters).Perm (requested byNames) ∧
      parse
            [Bytes.ofText "-vi", Bytes.ofText "nodes.h",
              Bytes.ofText "--output=gen.h"] =
          .ok
            { input := some "nodes.h"
              output := some "gen.h"
              verbose := true } ∧
        parse
            [Bytes.ofText "-o=gen.h", Bytes.ofText "--verbose",
              Bytes.ofText "--input", Bytes.ofText "nodes.h",
              Bytes.ofText "--"] =
          .ok
            { input := some "nodes.h"
              output := some "gen.h"
              verbose := true } := by
  have hPerm :
      (requested byLetters).Perm (requested byNames) := by
    decide
  have hLetters :
      parse (spelling byLetters false) =
        .ok
          { input := some "nodes.h"
            output := some "gen.h"
            verbose := true } := by
    apply (parse_reads_described_spellings.1 _ _).mpr
    refine ⟨byLetters, false, rfl, ?_⟩
    constructor <;> decide
  exact
    ⟨hPerm, hLetters,
      (parse_reads_described_spellings.2 byLetters byNames
        false true hPerm _).mp hLetters⟩

end Options

end StreamOverloads
