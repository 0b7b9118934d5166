import StreamOverloads.Proofs.Options.Mention
import StreamOverloads.Proofs.Text.Encoding

/-
  What reading arguments does from where nothing is pending.

  A reading only goes well if what is pending is settled at
  last, by the next option or the end. So a setting with a
  value in an argument of its own is read as if it had been
  settled at once, though a flaw in it is noticed later. And
  a setting that waits for its value takes the next argument
  or spoils the reading.

  Key definitions include:
    * `Options.ready`
    * `Options.waiting`
    * `Options.finish`

  Main declarations:
    * `Options.acceptLong_cases`
    * `Options.acceptLetters_cons_cases`
    * `Options.finish_eq_ok_iff_of_settle`
    * `Options.finish_waiting_eq_ok_iff`
-/

------------------------------------------------------------
-- Readings
------------------------------------------------------------

namespace StreamOverloads

namespace Options

variable {progress next : Progress}
variable {config final : Config}
variable {argument : Bytes}
variable {rest : List Bytes}

/- A configuration to which more can be added. -/
def ready
    (config : Config) : Progress where
  config := config
  pending := none
  ended := false

/- A configuration with a setting that waits for its value. -/
def waiting
    (config : Config)
    (setting : Setting) : Progress where
  config := config
  pending := some { setting := setting, value := none }
  ended := false

/-
  A configuration with a setting that has its value but is
  not settled yet.
-/
def given
    (config : Config)
    (setting : Setting)
    (value : Bytes) : Progress where
  config := config
  pending := some { setting := setting, value := some value }
  ended := false

/- Read arguments to the end and settle what is pending. -/
def finish
    (progress : Progress)
    (arguments : List Bytes) : Except Refusal Config :=
  match acceptAll progress arguments with
  | .error refusal => .error refusal
  | .ok progress => settle progress

theorem parse_eq_finish
    (arguments : List Bytes) :
    parse arguments =
      finish (ready start.config) arguments := by
  rfl

@[simp] theorem finish_nil :
    finish progress [] = settle progress := by
  rfl

@[simp] theorem settle_ready :
    settle (ready config) = .ok config := by
  rfl

/- Arguments are read one after another. -/
theorem finish_cons :
    finish progress (argument :: rest) =
      accept progress argument >>= fun next =>
        finish next rest := by
  rw [finish, acceptAll]
  cases accept progress argument <;> rfl

end Options

end StreamOverloads

------------------------------------------------------------
-- Shapes Of Arguments
------------------------------------------------------------

namespace StreamOverloads

namespace Options

variable {argument text : Bytes}

/- Every argument has the shape that its first bytes give. -/
theorem shape_cases
    (argument : Bytes) :
    argument = [hyphen, hyphen] ∧
        shape argument = .endMark ∨
      (∃ text,
        argument = hyphen :: hyphen :: text ∧
          shape argument = .long text) ∨
      (∃ letter rest,
        argument = hyphen :: letter :: rest ∧
          shape argument = .short (letter :: rest)) ∨
      (argument = [hyphen] ∨
          argument.head? ≠ some hyphen) ∧
        shape argument = .word := by
  match argument with
  | [] => simp [shape]
  | [only] =>
      by_cases hOnly : only = hyphen
      · simp [shape, hOnly]
      · simp [shape, hOnly]
  | first :: second :: rest =>
      by_cases hFirst : first = hyphen
      · subst hFirst
        by_cases hSecond : second = hyphen
        · subst hSecond
          cases rest with
          | nil => exact .inl ⟨rfl, rfl⟩
          | cons third rest =>
              exact .inr (.inl ⟨third :: rest, rfl, rfl⟩)
        · refine .inr (.inr (.inl ⟨second, rest, rfl, ?_⟩))
          simp [shape, hSecond]
      · simp [shape, hFirst]

theorem shape_eq_word_iff :
    shape argument = .word ↔
      argument = [hyphen] ∨
        argument.head? ≠ some hyphen := by
  rcases shape_cases argument with
    ⟨rfl, hShape⟩ | ⟨text, rfl, hShape⟩ |
      ⟨letter, rest, rfl, hShape⟩ | ⟨hWord, hShape⟩
  · rw [hShape]
    simp
  · rw [hShape]
    simp
  · rw [hShape]
    simp
  · exact iff_of_true hShape hWord

/- A text is a word if it can be a value on its own. -/
theorem shape_ofText_eq_word_iff
    {text : String} :
    shape (Bytes.ofText text) = .word ↔
      StandsApart text := by
  have hLone :
      Bytes.ofText text = [hyphen] ↔ text = "-" :=
    Bytes.ofText_injective.eq_iff' rfl
  have hFirst :
      (Bytes.ofText text).head? = some hyphen ↔
        text.toList.head? = some '-' :=
    Bytes.head?_ofText_eq_iff (by decide)
  rw [shape_eq_word_iff, hLone, Ne, hFirst, StandsApart]
  constructor
  · exact .inr
  · rintro (rfl | hText)
    · exact .inr (by simp)
    · exact hText

end Options

end StreamOverloads

------------------------------------------------------------
-- Meeting Options
------------------------------------------------------------

namespace StreamOverloads

namespace Options

variable {progress next : Progress}
variable {config more : Config}
variable {setting : Setting}
variable {switch : Switch}
variable {value : Bytes}

theorem bind_eq_ok_iff
    {α β : Type}
    {first : Except Refusal α}
    {second : α → Except Refusal β}
    {result : β} :
    (first >>= second) = .ok result ↔
      ∃ value,
        first = .ok value ∧ second value = .ok result := by
  cases first with
  | error refusal => simp [bind, Except.bind]
  | ok value => simp [bind, Except.bind]

/- A value is assigned if it is text, and the first one. -/
theorem assign_eq_ok_iff :
    assign config setting value = .ok more ↔
      ∃ text,
        value = Bytes.ofText text ∧
          fulfil config (.value setting text) = some more := by
  simp only [fulfil_value_eq_some_iff,
    ← Text.Utf8.decode?_eq_some_iff]
  unfold assign
  split
  · rename_i hHeld
    simp [Option.isSome_iff_ne_none.mp hHeld]
  · rename_i hHeld
    rw [Option.not_isSome_iff_eq_none.mp hHeld]
    cases Text.Utf8.decode? value with
    | none => simp
    | some text => simp [eq_comm]

/- Meeting the help never goes well. -/
theorem meetSwitch_help_ne_ok :
    meetSwitch progress .help ≠ .ok next := by
  intro hMeet
  rcases bind_eq_ok_iff.mp hMeet with ⟨config, _, hHelp⟩
  cases hHelp

/- The verbose option is met once and settles what waits. -/
theorem meetSwitch_verbose_eq_ok_iff :
    meetSwitch progress .verbose = .ok next ↔
      ∃ config,
        settle progress = .ok config ∧
          config.verbose = false ∧
            next =
              { progress with
                config := { config with verbose := true }
                pending := none } := by
  rw [meetSwitch, bind_eq_ok_iff]
  constructor
  · rintro ⟨config, hSettle, hMeet⟩
    cases hVerbose : config.verbose with
    | true => simp [hVerbose] at hMeet
    | false =>
        refine ⟨config, hSettle, hVerbose, ?_⟩
        simpa [hVerbose, eq_comm] using hMeet
  · rintro ⟨config, hSettle, hVerbose, rfl⟩
    exact ⟨config, hSettle, by simp [hVerbose]⟩

/- Where nothing waits only verbose can be met, and once. -/
theorem meetSwitch_ready_eq_ok_iff :
    meetSwitch (ready config) switch = .ok next ↔
      switch = .verbose ∧
        ∃ more,
          fulfil config .verbose = some more ∧
            next = ready more := by
  simp only [fulfil_verbose_eq_some_iff]
  cases switch with
  | help => simp [meetSwitch_help_ne_ok]
  | verbose =>
      rw [meetSwitch_verbose_eq_ok_iff, settle_ready]
      constructor
      · rintro ⟨_, hSame, hVerbose, rfl⟩
        cases hSame
        exact ⟨rfl, _, ⟨hVerbose, rfl⟩, rfl⟩
      · rintro ⟨_, _, ⟨hVerbose, rfl⟩, rfl⟩
        exact ⟨config, rfl, hVerbose, rfl⟩

/- A setting without a value waits for it. -/
theorem meetSetting_ready_none :
    meetSetting (ready config) setting none =
      .ok (waiting config setting) := by
  rfl

/- A setting with a value gets it at once if it is text. -/
theorem meetSetting_ready_some_eq_ok_iff :
    meetSetting (ready config) setting (some value) =
        .ok next ↔
      ∃ text more,
        value = Bytes.ofText text ∧
          fulfil config (.value setting text) = some more ∧
            next = ready more := by
  simp only [meetSetting, settle_ready, bind_eq_ok_iff,
    assign_eq_ok_iff, Except.ok.injEq]
  constructor
  · rintro ⟨_, rfl, more, ⟨text, hText, hMore⟩, rfl⟩
    exact ⟨text, more, hText, hMore, rfl⟩
  · rintro ⟨text, more, hText, hMore, rfl⟩
    exact ⟨config, rfl, more, ⟨text, hText, hMore⟩, rfl⟩

/- What is pending is settled before an option is met. -/
theorem meetSwitch_of_settle
    (hSettle : settle progress = .ok config)
    (hEnded : progress.ended = false) :
    meetSwitch progress switch =
      meetSwitch (ready config) switch := by
  rw [meetSwitch, hSettle, hEnded]
  rfl

theorem meetSetting_of_settle
    {value : Option Bytes}
    (hSettle : settle progress = .ok config)
    (hEnded : progress.ended = false) :
    meetSetting progress setting value =
      meetSetting (ready config) setting value := by
  rw [meetSetting, hSettle, hEnded]
  rfl

theorem exists_settle_of_meetSwitch
    (hMeet : meetSwitch progress switch = .ok next) :
    ∃ config, settle progress = .ok config := by
  rcases bind_eq_ok_iff.mp hMeet with ⟨config, hSettle, _⟩
  exact ⟨config, hSettle⟩

theorem exists_settle_of_meetSetting
    {value : Option Bytes}
    (hMeet :
      meetSetting progress setting value = .ok next) :
    ∃ config, settle progress = .ok config := by
  rcases bind_eq_ok_iff.mp hMeet with ⟨config, hSettle, _⟩
  exact ⟨config, hSettle⟩

end Options

end StreamOverloads

------------------------------------------------------------
-- Words And Letters
------------------------------------------------------------

namespace StreamOverloads

namespace Options

variable {progress next : Progress}
variable {config : Config}
variable {text : Bytes}
variable {letter : UInt8}

theorem acceptLong_verbose :
    acceptLong progress (Bytes.ofText "verbose") =
      meetSwitch progress .verbose := by
  rfl

theorem acceptLong_name
    (setting : Setting) :
    acceptLong progress (Bytes.ofText setting.name) =
      meetSetting progress setting none := by
  cases setting <;> rfl

theorem acceptLong_name_append
    (setting : Setting)
    (value : Bytes) :
    acceptLong progress
        (Bytes.ofText setting.name ++ equalsSign :: value) =
      meetSetting progress setting (some value) := by
  cases setting <;> rfl

/- What is behind a name starts with the equals sign. -/
theorem exists_eq_append_of_takeWhile
    (text : Bytes) :
    let name :=
      text.takeWhile fun byte => byte != equalsSign
    text = name ∨
      ∃ value, text = name ++ equalsSign :: value := by
  intro name
  have hText :
      name ++ text.dropWhile (fun byte => byte != equalsSign) =
        text :=
    List.takeWhile_append_dropWhile
  cases hDrop :
      text.dropWhile fun byte => byte != equalsSign with
  | nil =>
      rw [hDrop, List.append_nil] at hText
      exact .inl hText.symm
  | cons sign value =>
      have hSign :=
        List.head?_dropWhile_not
          (fun byte => byte != equalsSign) text
      rw [hDrop] at hSign
      have hSame : sign = equalsSign := by simpa using hSign
      rw [hDrop, hSame] at hText
      exact .inr ⟨value, hText.symm⟩

/- What is known by a key is listed with it. -/
theorem mem_of_lookup_eq_some
    {α : Type}
    [BEq α]
    [LawfulBEq α]
    {known : Known}
    {key : α}
    {pairs : List (α × Known)}
    (hKnown : pairs.lookup key = some known) :
    (key, known) ∈ pairs := by
  rcases List.lookup_eq_some_iff.mp hKnown with
    ⟨before, behind, hPairs, _⟩
  rw [hPairs]
  exact List.mem_append_right before List.mem_cons_self

/- The known long names. -/
theorem eq_of_lookup_longNames
    {name : Bytes}
    {known : Known}
    (hKnown : longNames.lookup name = some known) :
    (∃ setting,
        name = Bytes.ofText (Setting.name setting) ∧
          known = .setting setting) ∨
      (name = Bytes.ofText "verbose" ∧
          known = .switch .verbose) ∨
        name = Bytes.ofText "help" ∧
          known = .switch .help := by
  have hMem := mem_of_lookup_eq_some hKnown
  simp only [longNames, List.mem_cons, Prod.mk.injEq,
    List.not_mem_nil, or_false] at hMem
  rcases hMem with hInput | hOutput | hVerbose | hHelp
  · exact .inl ⟨.input, hInput⟩
  · exact .inl ⟨.output, hOutput⟩
  · exact .inr (.inl hVerbose)
  · exact .inr (.inr hHelp)

/-
  A long name that is read is that of the verbose option, or
  that of a setting with or without a value.
-/
theorem acceptLong_cases
    (hAccept : acceptLong progress text = .ok next) :
    (text = Bytes.ofText "verbose" ∧
        meetSwitch progress .verbose = .ok next) ∨
      (∃ setting,
        text = Bytes.ofText setting.name ∧
          meetSetting progress setting none = .ok next) ∨
      ∃ setting value,
        text = Bytes.ofText setting.name ++
            equalsSign :: value ∧
          meetSetting progress setting (some value) =
            .ok next := by
  have hKnown :
      ∃ known,
        longNames.lookup
            (text.takeWhile fun byte => byte != equalsSign) =
          some known := by
    cases hLookup :
        longNames.lookup
          (text.takeWhile fun byte => byte != equalsSign) with
    | none =>
        simp only [acceptLong, hLookup] at hAccept
        cases hAccept
    | some known => exact ⟨known, rfl⟩
  rcases hKnown with ⟨known, hKnown⟩
  have hText := exists_eq_append_of_takeWhile text
  rcases eq_of_lookup_longNames hKnown with
    ⟨setting, hName, rfl⟩ | ⟨hName, rfl⟩ | ⟨hName, rfl⟩
  · rw [hName] at hText
    rcases hText with rfl | ⟨value, rfl⟩
    · rw [acceptLong_name] at hAccept
      exact .inr (.inl ⟨setting, rfl, hAccept⟩)
    · rw [acceptLong_name_append] at hAccept
      exact .inr (.inr ⟨setting, value, rfl, hAccept⟩)
  · rw [hName] at hText
    rcases hText with rfl | ⟨value, rfl⟩
    · rw [acceptLong_verbose] at hAccept
      exact .inl ⟨rfl, hAccept⟩
    · cases hAccept
  · rw [hName] at hText
    rcases hText with rfl | ⟨value, rfl⟩
    · exact absurd hAccept meetSwitch_help_ne_ok
    · cases hAccept

/- The letter of a setting, with what follows at once. -/
theorem acceptLetters_letter
    (setting : Setting)
    (rest : Bytes) :
    acceptLetters progress
        (Bytes.ofText setting.letter ++ rest) =
      meetSetting progress setting (attached rest) := by
  cases setting <;> rfl

/- The letter of a switch, with the letters behind it. -/
theorem acceptLetters_switch
    {switch : Switch}
    (hLetter :
      letters.lookup letter = some (.switch switch))
    (rest : Bytes) :
    acceptLetters progress (letter :: rest) =
      meetSwitch progress switch >>= fun next =>
        acceptLetters next rest := by
  simp only [acceptLetters, hLetter]
  cases meetSwitch progress switch <;> rfl

theorem acceptLetters_verbose
    (rest : Bytes) :
    acceptLetters progress (Bytes.ofText "v" ++ rest) =
      meetSwitch progress .verbose >>= fun next =>
        acceptLetters next rest :=
  acceptLetters_switch rfl rest

/- The known letters. -/
theorem eq_of_lookup_letters
    {known : Known}
    (hKnown : letters.lookup letter = some known) :
    (∃ setting,
        [letter] = Bytes.ofText (Setting.letter setting) ∧
          known = .setting setting) ∨
      ([letter] = Bytes.ofText "v" ∧
          known = .switch .verbose) ∨
        [letter] = Bytes.ofText "h" ∧
          known = .switch .help := by
  have hMem := mem_of_lookup_eq_some hKnown
  simp only [letters, List.mem_cons, Prod.mk.injEq,
    List.not_mem_nil, or_false] at hMem
  rcases hMem with
    ⟨rfl, rfl⟩ | ⟨rfl, rfl⟩ | ⟨rfl, rfl⟩ | ⟨rfl, rfl⟩
  · exact .inl ⟨.input, rfl, rfl⟩
  · exact .inl ⟨.output, rfl, rfl⟩
  · exact .inr (.inl ⟨rfl, rfl⟩)
  · exact .inr (.inr ⟨rfl, rfl⟩)

/-
  A first letter that is read is that of a setting or of the
  verbose option.
-/
theorem acceptLetters_cons_cases
    (hAccept :
      acceptLetters progress (letter :: text) = .ok next) :
    (∃ setting,
        [letter] = Bytes.ofText setting.letter ∧
          meetSetting progress setting (attached text) =
            .ok next) ∨
      [letter] = Bytes.ofText "v" ∧
        ∃ middle,
          meetSwitch progress .verbose = .ok middle ∧
            acceptLetters middle text = .ok next := by
  have hKnown :
      ∃ known, letters.lookup letter = some known := by
    cases hLookup : letters.lookup letter with
    | none =>
        simp only [acceptLetters, hLookup] at hAccept
        cases hAccept
    | some known => exact ⟨known, rfl⟩
  rcases hKnown with ⟨known, hKnown⟩
  rcases eq_of_lookup_letters hKnown with
    ⟨setting, hLetter, rfl⟩ | ⟨hLetter, rfl⟩ | ⟨hLetter, rfl⟩
  · rw [← List.singleton_append, hLetter,
      acceptLetters_letter] at hAccept
    exact .inl ⟨setting, hLetter, hAccept⟩
  · rw [← List.singleton_append, hLetter,
      acceptLetters_verbose] at hAccept
    exact .inr ⟨hLetter, bind_eq_ok_iff.mp hAccept⟩
  · rw [acceptLetters_switch hKnown, bind_eq_ok_iff] at hAccept
    rcases hAccept with ⟨middle, hMeet, _⟩
    exact absurd hMeet meetSwitch_help_ne_ok

end Options

end StreamOverloads

------------------------------------------------------------
-- Settling What Is Pending
------------------------------------------------------------

namespace StreamOverloads

namespace Options

variable {progress next : Progress}
variable {config final : Config}
variable {setting : Setting}
variable {argument text : Bytes}
variable {arguments rest : List Bytes}

/- The shape of an argument tells how it is read. -/
theorem finish_cons_of_long
    (hEnded : progress.ended = false)
    (hShape : shape argument = .long text) :
    finish progress (argument :: rest) =
      acceptLong progress text >>= fun next =>
        finish next rest := by
  rw [finish_cons, accept, hEnded, hShape]
  rfl

theorem finish_cons_of_short
    (hEnded : progress.ended = false)
    (hShape : shape argument = .short text) :
    finish progress (argument :: rest) =
      acceptLetters progress text >>= fun next =>
        finish next rest := by
  rw [finish_cons, accept, hEnded, hShape]
  rfl

theorem finish_cons_of_word
    (hEnded : progress.ended = false)
    (hShape : shape argument = .word) :
    finish progress (argument :: rest) =
      acceptWord progress argument >>= fun next =>
        finish next rest := by
  rw [finish_cons, accept, hEnded, hShape]
  rfl

/- After two hyphens nothing more can be said. -/
theorem finish_endMark_eq_ok_iff
    (hEnded : progress.ended = false) :
    finish progress ([hyphen, hyphen] :: rest) = .ok final ↔
      rest = [] ∧ settle progress = .ok final := by
  have hAccept :
      accept progress [hyphen, hyphen] =
        .ok { progress with ended := true } := by
    rw [accept, hEnded]
    rfl
  rw [finish, acceptAll, hAccept]
  cases rest with
  | nil => exact (and_iff_right rfl).symm
  | cons argument rest => simp [acceptAll, accept]

/- An option that is met settles what was pending before. -/
theorem exists_settle_of_acceptLong
    (hAccept : acceptLong progress text = .ok next) :
    ∃ config, settle progress = .ok config := by
  rcases acceptLong_cases hAccept with
    ⟨_, hMeet⟩ | ⟨setting, _, hMeet⟩ |
      ⟨setting, value, _, hMeet⟩
  · exact exists_settle_of_meetSwitch hMeet
  · exact exists_settle_of_meetSetting hMeet
  · exact exists_settle_of_meetSetting hMeet

theorem exists_settle_of_acceptLetters
    {letter : UInt8}
    (hAccept :
      acceptLetters progress (letter :: text) = .ok next) :
    ∃ config, settle progress = .ok config := by
  rcases acceptLetters_cons_cases hAccept with
    ⟨setting, _, hMeet⟩ | ⟨_, middle, hMeet, _⟩
  · exact exists_settle_of_meetSetting hMeet
  · exact exists_settle_of_meetSwitch hMeet

/- What is pending settles at once, or a word comes first. -/
theorem settle_or_word_of_finish_cons
    (hEnded : progress.ended = false)
    (hFinish :
      finish progress (argument :: rest) = .ok final) :
    (∃ config, settle progress = .ok config) ∨
      shape argument = .word := by
  rcases shape_cases argument with
    ⟨rfl, _⟩ | ⟨text, rfl, hShape⟩ |
      ⟨letter, text, rfl, hShape⟩ | ⟨_, hShape⟩
  · rw [finish_endMark_eq_ok_iff hEnded] at hFinish
    exact .inl ⟨final, hFinish.2⟩
  · rw [finish_cons_of_long hEnded hShape,
      bind_eq_ok_iff] at hFinish
    rcases hFinish with ⟨next, hAccept, _⟩
    exact .inl (exists_settle_of_acceptLong hAccept)
  · rw [finish_cons_of_short hEnded hShape,
      bind_eq_ok_iff] at hFinish
    rcases hFinish with ⟨next, hAccept, _⟩
    exact .inl (exists_settle_of_acceptLetters hAccept)
  · exact .inr hShape

/- A word is read only where a setting waits for it. -/
theorem acceptWord_eq_ok_iff :
    acceptWord progress argument = .ok next ↔
      ∃ setting,
        progress.pending =
            some { setting := setting, value := none } ∧
          next =
            { progress with
              pending :=
                some
                  { setting := setting
                    value := some argument } } := by
  rw [acceptWord]
  split
  · rename_i setting hPending
    simp [hPending, eq_comm]
  · rename_i hPending
    constructor
    · intro hAccept
      cases hAccept
    · rintro ⟨setting, hWaiting, _⟩
      exact (hPending setting hWaiting).elim

/- A reading that goes well settles all that has a value. -/
theorem exists_settle_of_finish
    (hEnded : progress.ended = false)
    (hPending :
      ∀ setting,
        progress.pending ≠
          some { setting := setting, value := none })
    (hFinish : finish progress arguments = .ok final) :
    ∃ config, settle progress = .ok config := by
  cases arguments with
  | nil => exact ⟨final, hFinish⟩
  | cons argument rest =>
      rcases settle_or_word_of_finish_cons hEnded hFinish with
        hSettle | hShape
      · exact hSettle
      · rw [finish_cons_of_word hEnded hShape,
          bind_eq_ok_iff] at hFinish
        rcases hFinish with ⟨next, hAccept, _⟩
        rcases acceptWord_eq_ok_iff.mp hAccept with
          ⟨setting, hWaiting, _⟩
        exact absurd hWaiting (hPending setting)

/- Where nothing waits for it a word is a flaw. -/
theorem acceptWord_of_settle
    (hSettle : settle progress = .ok config) :
    acceptWord progress argument =
      .error (.unknown (shown argument)) := by
  rw [acceptWord]
  split
  · rename_i setting hPending
    rw [settle, hPending] at hSettle
    cases hSettle
  · rfl

/-
  A reading ends the same whether what is pending is settled
  before it or on the way.
-/
theorem finish_eq_ok_iff_of_settle
    (hSettle : settle progress = .ok config)
    (hEnded : progress.ended = false) :
    finish progress arguments = .ok final ↔
      finish (ready config) arguments = .ok final := by
  cases arguments with
  | nil => rw [finish_nil, hSettle, finish_nil, settle_ready]
  | cons argument rest =>
      rcases shape_cases argument with
        ⟨rfl, _⟩ | ⟨text, rfl, hShape⟩ |
          ⟨letter, text, rfl, hShape⟩ | ⟨_, hShape⟩
      · -- Past the mark what is pending differs until the end.
        rw [finish_endMark_eq_ok_iff hEnded,
          finish_endMark_eq_ok_iff rfl, hSettle, settle_ready]
      · have hSame :
            acceptLong progress text =
              acceptLong (ready config) text := by
          simp only [acceptLong,
            meetSwitch_of_settle hSettle hEnded,
            meetSetting_of_settle hSettle hEnded]
        rw [finish_cons_of_long hEnded hShape,
          finish_cons_of_long rfl hShape, hSame]
      · have hSame :
            acceptLetters progress (letter :: text) =
              acceptLetters (ready config)
                (letter :: text) := by
          simp only [acceptLetters,
            meetSwitch_of_settle hSettle hEnded,
            meetSetting_of_settle hSettle hEnded]
        rw [finish_cons_of_short hEnded hShape,
          finish_cons_of_short rfl hShape, hSame]
      · rw [finish_cons_of_word hEnded hShape,
          finish_cons_of_word rfl hShape,
          acceptWord_of_settle hSettle,
          acceptWord_of_settle settle_ready]

theorem finish_waiting_cons_of_word
    (hShape : shape argument = .word) :
    finish (waiting config setting) (argument :: rest) =
      finish (given config setting argument) rest := by
  rw [finish_cons_of_word rfl hShape]
  rfl

/-
  A setting that waits gets the next argument, which has to be
  a word, and is as good as settled with it.
-/
theorem finish_waiting_eq_ok_iff :
    finish (waiting config setting) arguments = .ok final ↔
      ∃ text rest more,
        StandsApart text ∧
          arguments = Bytes.ofText text :: rest ∧
            fulfil config (.value setting text) =
                some more ∧
              finish (ready more) rest = .ok final := by
  have hWaiting :
      ∀ next,
        settle (waiting config setting) ≠ .ok next := by
    intro next hSettle
    cases hSettle
  constructor
  · intro hFinish
    cases arguments with
    | nil => exact absurd hFinish (hWaiting final)
    | cons value rest =>
        rcases settle_or_word_of_finish_cons rfl hFinish with
          ⟨next, hSettle⟩ | hShape
        · exact absurd hSettle (hWaiting next)
        · rw [finish_waiting_cons_of_word hShape] at hFinish
          rcases exists_settle_of_finish rfl (by simp [given])
              hFinish with
            ⟨more, hSettle⟩
          rw [finish_eq_ok_iff_of_settle hSettle rfl] at hFinish
          rcases assign_eq_ok_iff.mp hSettle with
            ⟨text, rfl, hFulfil⟩
          exact
            ⟨text, rest, more,
              shape_ofText_eq_word_iff.mp hShape, rfl, hFulfil,
              hFinish⟩
  · rintro ⟨text, rest, more, hApart, rfl, hFulfil, hFinish⟩
    have hSettle :
        settle (given config setting (Bytes.ofText text)) =
          .ok more :=
      assign_eq_ok_iff.mpr ⟨text, rfl, hFulfil⟩
    rw [finish_waiting_cons_of_word
        (shape_ofText_eq_word_iff.mpr hApart),
      finish_eq_ok_iff_of_settle hSettle rfl]
    exact hFinish

end Options

end StreamOverloads
