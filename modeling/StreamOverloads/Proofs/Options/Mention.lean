import StreamOverloads.Options

/-
  How options are mentioned, and what mentions ask for.

  A mention is one way of writing options into arguments: by
  name or by letter, the value in the same argument or in the
  next one. It asks for the verbose option, for the value of
  a setting, or for both. A configuration is described by
  what is asked for if nothing is asked for twice and
  everything in it is.

  Asking one after another comes to the same: each request is
  fulfilled unless it was made before. The order in which
  they are made does not matter.

  Key definitions include:
    * `Options.Request`
    * `Options.Mention`
    * `Options.Mention.arguments`
    * `Options.Mention.requests`
    * `Options.spelling`
    * `Options.Describes`
    * `Options.fulfil`

  Main declarations:
    * `Options.foldlM_fulfil_eq_some_iff`
    * `Options.leadsTo_start_iff`
    * `Options.Describes.perm`
-/

------------------------------------------------------------
-- Requests
------------------------------------------------------------

namespace StreamOverloads

namespace Options

/- What can be asked for. -/
inductive Request where
  | verbose
  | value (setting : Setting) (text : String)
  deriving DecidableEq

/- The value that a request has for a setting, if any. -/
def Request.valueFor?
    (setting : Setting) : Request → Option String
  | .verbose => none
  | .value other text =>
      if other = setting then some text else none

/- All values for a setting, in the order of the requests. -/
def values
    (setting : Setting)
    (requests : List Request) : List String :=
  requests.filterMap (Request.valueFor? setting)

/-
  A configuration for which nothing is asked for twice, and
  which holds what is asked for and nothing else.
-/
structure Describes
    (requests : List Request)
    (config : Config) : Prop where
  verbose_once : requests.count .verbose ≤ 1
  input_once : (values .input requests).length ≤ 1
  output_once : (values .output requests).length ≤ 1
  verbose_iff : config.verbose = true ↔ .verbose ∈ requests
  input_eq : config.input = (values .input requests).head?
  output_eq :
    config.output = (values .output requests).head?

end Options

end StreamOverloads

------------------------------------------------------------
-- Mentions
------------------------------------------------------------

namespace StreamOverloads

namespace Options

/- The long name of a setting. -/
def Setting.name : Setting → String
  | .input => "input"
  | .output => "output"

/- The letter of a setting. -/
def Setting.letter : Setting → String
  | .input => "i"
  | .output => "o"

/-
  A text that can be a value in an argument of its own: it is
  not to be taken for an option.
-/
def StandsApart
    (text : String) : Prop :=
  text = "" ∨ text = "-" ∨ text.toList.head? ≠ some '-'

instance (text : String) : Decidable (StandsApart text) := by
  unfold StandsApart
  infer_instance

/-
  One way of writing options into arguments. The letter of
  the verbose option can stand before the letter of a setting.
  Behind the latter some text can follow at once.
-/
inductive Mention where
  | verboseWord
  | verboseLetter
  | wordJoined (setting : Setting) (value : String)
  | wordApart
      (setting : Setting)
      (value : { text : String // StandsApart text })
  | letterApart
      (verbose : Bool)
      (setting : Setting)
      (value : { text : String // StandsApart text })
  | letterJoined
      (verbose : Bool)
      (setting : Setting)
      (text : { text : String // text ≠ "" })

/- A text without the equals sign that it may start with. -/
def withoutEqualsSign
    (text : String) : String :=
  match text.toList with
  | '=' :: rest => String.ofList rest
  | _ => text

/- The letter of a setting, with that of verbose or without. -/
def lettered
    (verbose : Bool)
    (setting : Setting) : String :=
  "-" ++ (if verbose then "v" else "") ++ setting.letter

namespace Mention

/- The arguments that a mention consists of. -/
def arguments : Mention → List Bytes
  | verboseWord => [Bytes.ofText "--verbose"]
  | verboseLetter => [Bytes.ofText "-v"]
  | wordJoined setting value =>
      [Bytes.ofText ("--" ++ setting.name ++ "=" ++ value)]
  | wordApart setting value =>
      [Bytes.ofText ("--" ++ setting.name),
        Bytes.ofText value]
  | letterApart verbose setting value =>
      [Bytes.ofText (lettered verbose setting),
        Bytes.ofText value]
  | letterJoined verbose setting text =>
      [Bytes.ofText (lettered verbose setting ++ text)]

/- A request for the verbose option, or none. -/
def verboseRequests : Bool → List Request
  | true => [.verbose]
  | false => []

/- What a mention asks for. -/
def requests : Mention → List Request
  | verboseWord => [.verbose]
  | verboseLetter => [.verbose]
  | wordJoined setting value => [.value setting value]
  | wordApart setting value => [.value setting value]
  | letterApart verbose setting value =>
      verboseRequests verbose ++ [.value setting value]
  | letterJoined verbose setting text =>
      verboseRequests verbose ++
        [.value setting (withoutEqualsSign text)]

end Mention

/- What mentions ask for, one after another. -/
def requested
    (mentions : List Mention) : List Request :=
  mentions.flatMap Mention.requests

/- The mark that nothing but words follows. -/
def closing : Bool → List Bytes
  | true => [Bytes.ofText "--"]
  | false => []

/- Mentions as arguments, with or without the mark behind. -/
def spelling
    (mentions : List Mention)
    (closed : Bool) : List Bytes :=
  mentions.flatMap Mention.arguments ++ closing closed

end Options

end StreamOverloads

------------------------------------------------------------
-- Fulfilling Requests
------------------------------------------------------------

namespace StreamOverloads

namespace Options

variable {config final : Config}
variable {requests others : List Request}
variable {setting other : Setting}

/- Fulfil a request, unless it was made before. -/
def fulfil
    (config : Config) : Request → Option Config
  | .verbose =>
      if config.verbose then none
      else some { config with verbose := true }
  | .value setting text =>
      if (valueOf config setting).isSome then none
      else some (withValue config text setting)

theorem fulfil_verbose_eq_some_iff :
    fulfil config .verbose = some final ↔
      config.verbose = false ∧
        final = { config with verbose := true } := by
  rw [fulfil]
  split
  · rename_i hVerbose
    simp [hVerbose]
  · rename_i hVerbose
    simp [hVerbose, eq_comm]

theorem fulfil_value_eq_some_iff
    {text : String} :
    fulfil config (.value setting text) = some final ↔
      valueOf config setting = none ∧
        final = withValue config text setting := by
  rw [fulfil]
  split
  · rename_i hHeld
    simp [Option.isSome_iff_ne_none.mp hHeld]
  · rename_i hHeld
    simp [Option.not_isSome_iff_eq_none.mp hHeld, eq_comm]

@[simp] theorem values_cons
    (request : Request) :
    values setting (request :: requests) =
      (request.valueFor? setting).toList ++
        values setting requests := by
  cases hValue : request.valueFor? setting with
  | none => simp [values, hValue]
  | some text => simp [values, hValue]

theorem valueOf_withValue
    (text : String) :
    valueOf (withValue config text setting) other =
      if setting = other then some text
      else valueOf config other := by
  cases setting <;> cases other <;> rfl

@[simp] theorem verbose_withValue
    (text : String) :
    (withValue config text setting).verbose =
      config.verbose := by
  cases setting <;> rfl

/- What a configuration holds is all there is to it. -/
theorem eq_iff_valueOf_eq :
    config = final ↔
      config.verbose = final.verbose ∧
        ∀ setting,
          valueOf config setting = valueOf final setting := by
  constructor
  · rintro rfl
    exact ⟨rfl, fun _ => rfl⟩
  · rintro ⟨hVerbose, hValues⟩
    rcases config with ⟨input, output, verbose⟩
    rcases final with ⟨input', output', verbose'⟩
    have hInput : input = input' := hValues .input
    have hOutput : output = output' := hValues .output
    have hSame : verbose = verbose' := hVerbose
    rw [hInput, hOutput, hSame]

/-
  What one configuration holds and what requests ask for,
  put together, is what another one holds.
-/
structure LeadsTo
    (config : Config)
    (requests : List Request)
    (final : Config) : Prop where
  verbose_eq :
    config.verbose.toNat + requests.count .verbose =
      final.verbose.toNat
  values_eq :
    ∀ setting,
      (valueOf config setting).toList ++
          values setting requests =
        (valueOf final setting).toList

theorem leadsTo_nil_iff :
    LeadsTo config [] final ↔ config = final := by
  rw [eq_iff_valueOf_eq]
  constructor
  · rintro ⟨hVerbose, hValues⟩
    constructor
    · cases hConfig : config.verbose <;>
        cases hFinal : final.verbose <;>
          simp_all
    · intro setting
      have hHeads :=
        congrArg List.head? (hValues setting)
      simpa [values] using hHeads
  · rintro ⟨hVerbose, hValues⟩
    refine ⟨congrArg Bool.toNat hVerbose, ?_⟩
    intro setting
    rw [values, List.filterMap_nil, List.append_nil,
      hValues setting]

/- A request that is fulfilled is all that changes. -/
theorem leadsTo_of_fulfil_eq_some
    {request : Request}
    (hFulfil : fulfil config request = some final) :
    LeadsTo config [request] final := by
  cases request with
  | verbose =>
      rcases fulfil_verbose_eq_some_iff.mp hFulfil with
        ⟨hVerbose, rfl⟩
      refine ⟨by simp [hVerbose], ?_⟩
      intro setting
      cases setting <;>
        simp [values, Request.valueFor?, valueOf]
  | value setting text =>
      rcases fulfil_value_eq_some_iff.mp hFulfil with
        ⟨hValue, rfl⟩
      refine ⟨by simp, ?_⟩
      intro other
      rw [valueOf_withValue]
      by_cases hOther : setting = other
      · subst hOther
        simp [values, Request.valueFor?, hValue]
      · simp [values, Request.valueFor?, hOther]

/- A request that cannot be fulfilled had been made before. -/
theorem not_leadsTo_of_fulfil_eq_none
    {request : Request}
    (hFulfil : fulfil config request = none) :
    ¬ LeadsTo config (request :: requests) final := by
  rintro ⟨hCount, hValues⟩
  cases request with
  | verbose =>
      cases hVerbose : config.verbose with
      | false => simp [fulfil, hVerbose] at hFulfil
      | true =>
          have hFinal := Bool.toNat_le final.verbose
          rw [hVerbose, List.count_cons_self,
            Bool.toNat_true] at hCount
          omega
  | value setting text =>
      cases hValue : valueOf config setting with
      | none => simp [fulfil, hValue] at hFulfil
      | some held =>
          have hLength :=
            congrArg List.length (hValues setting)
          have hFinal :
              (valueOf final setting).toList.length ≤ 1 :=
            Option.length_toList_le
          rw [List.length_append, hValue, values_cons,
            List.length_append] at hLength
          simp [Request.valueFor?] at hLength
          omega

/- What requests lead to can be told one at a time. -/
theorem leadsTo_cons_iff
    {request : Request}
    {next : Config}
    (hNext : LeadsTo config [request] next) :
    LeadsTo config (request :: requests) final ↔
      LeadsTo next requests final := by
  have hCount :
      (request :: requests).count .verbose =
        [request].count .verbose +
          requests.count .verbose := by
    rw [← List.singleton_append, List.count_append]
  have hValues : ∀ setting,
      values setting (request :: requests) =
        values setting [request] ++
          values setting requests := by
    intro setting
    rw [← List.singleton_append, values,
      List.filterMap_append]
    rfl
  constructor
  · intro hLeads
    refine ⟨?_, ?_⟩
    · rw [← hNext.verbose_eq, ← hLeads.verbose_eq, hCount,
        Nat.add_assoc]
    · intro setting
      rw [← hNext.values_eq, ← hLeads.values_eq, hValues,
        List.append_assoc]
  · intro hLeads
    refine ⟨?_, ?_⟩
    · rw [hCount, ← Nat.add_assoc, hNext.verbose_eq,
        hLeads.verbose_eq]
    · intro setting
      rw [hValues, ← List.append_assoc, hNext.values_eq,
        hLeads.values_eq]

/-
  Requests are fulfilled one after another exactly if they
  lead from one configuration to another.
-/
theorem foldlM_fulfil_eq_some_iff :
    requests.foldlM fulfil config = some final ↔
      LeadsTo config requests final := by
  induction requests generalizing config with
  | nil =>
      rw [leadsTo_nil_iff]
      exact Option.some_inj
  | cons request requests ih =>
      rw [List.foldlM_cons]
      cases hFulfil : fulfil config request with
      | none =>
          have hNot :
              ¬ LeadsTo config (request :: requests) final :=
            not_leadsTo_of_fulfil_eq_none hFulfil
          simp [hNot]
      | some next =>
          have hNext := leadsTo_of_fulfil_eq_some hFulfil
          rw [leadsTo_cons_iff hNext, ← ih]
          rfl

end Options

end StreamOverloads

------------------------------------------------------------
-- Descriptions
------------------------------------------------------------

namespace StreamOverloads

namespace Options

variable {config : Config}
variable {requests others : List Request}
variable {setting : Setting}

/-
  A list is that of an optional item exactly if it holds one
  item at most and this is its first.
-/
theorem eq_toList_iff
    {items : List String}
    {item : Option String} :
    items = item.toList ↔
      items.length ≤ 1 ∧ item = items.head? := by
  constructor
  · rintro rfl
    exact ⟨Option.length_toList_le, Option.head?_toList.symm⟩
  · rintro ⟨hLength, rfl⟩
    match items with
    | [] => rfl
    | [only] => rfl
    | first :: second :: rest => simp at hLength

/- From nothing, requests lead to what they describe. -/
theorem leadsTo_start_iff :
    LeadsTo start.config requests config ↔
      Describes requests config := by
  have hVerbose := Bool.toNat_le config.verbose
  constructor
  · rintro ⟨hCount, hValues⟩
    have hInput := eq_toList_iff.mp (hValues .input)
    have hOutput := eq_toList_iff.mp (hValues .output)
    change 0 + requests.count .verbose = _ at hCount
    rw [Nat.zero_add] at hCount
    refine
      ⟨by omega, hInput.1, hOutput.1, ?_, hInput.2,
        hOutput.2⟩
    rw [← List.count_pos_iff, hCount, ← Bool.toNat_eq_one]
    omega
  · intro hDescribes
    refine ⟨?_, ?_⟩
    · change 0 + requests.count .verbose = _
      have hOnce := hDescribes.verbose_once
      have hIff := hDescribes.verbose_iff
      rw [← List.count_pos_iff, ← Bool.toNat_eq_one] at hIff
      omega
    · intro setting
      cases setting with
      | input =>
          exact
            eq_toList_iff.mpr
              ⟨hDescribes.input_once, hDescribes.input_eq⟩
      | output =>
          exact
            eq_toList_iff.mpr
              ⟨hDescribes.output_once, hDescribes.output_eq⟩

/- The order of requests does not matter. -/
theorem LeadsTo.perm
    {initial : Config}
    (hPerm : requests.Perm others)
    (hLeads : LeadsTo initial requests config) :
    LeadsTo initial others config := by
  refine ⟨?_, ?_⟩
  · rw [← hPerm.count_eq]
    exact hLeads.verbose_eq
  · intro setting
    have hSame :
        ((valueOf initial setting).toList ++
            values setting requests).Perm
          ((valueOf initial setting).toList ++
            values setting others) :=
      (hPerm.filterMap (Request.valueFor? setting)).append_left
        _
    rw [hLeads.values_eq] at hSame
    cases hValue : valueOf config setting with
    | none =>
        rw [hValue] at hSame
        exact List.nil_perm.mp hSame
    | some text =>
        rw [hValue] at hSame
        exact (List.singleton_perm.mp hSame).symm

theorem Describes.perm
    (hPerm : requests.Perm others)
    (hDescribes : Describes requests config) :
    Describes others config :=
  leadsTo_start_iff.mp
    ((leadsTo_start_iff.mpr hDescribes).perm hPerm)

end Options

end StreamOverloads
