import StreamOverloads.Proofs.MemoryStore.Runs

/-
  Runs among other commands to a store in memory.

  Between runs, the input can be replaced, the output can be
  fed back, and either kind of failure can be set or lifted.
  Whatever the order of the commands, the output is the one
  of the last run that met no failure. Every run reads once,
  writes once if it could read, and answers for itself.

  Key definitions include:
    * `MemoryStore.answer`
    * `MemoryStore.Command`
    * `MemoryStore.performAll`
    * `MemoryStore.runStarts`
    * `MemoryStore.lastFaultless?`

  Main declarations:
    * `MemoryStore.ending_run`
    * `MemoryStore.output_performAll`
    * `MemoryStore.performAll_accounts_for_runs`
-/

------------------------------------------------------------
-- Any Run
------------------------------------------------------------

namespace StreamOverloads

namespace MemoryStore

/- A store that neither fails to be read nor to be written. -/
def IsFaultless
    (memory : MemoryStore) : Prop :=
  memory.readFailure = none ∧ memory.writeFailure = none

instance (memory : MemoryStore) :
    Decidable memory.IsFaultless :=
  inferInstanceAs
    (Decidable
      (memory.readFailure = none ∧
        memory.writeFailure = none))

/-
  What a run answers: the failure of reading if one is set,
  else that of writing if one is set, else its counts.
-/
def answer
    (memory : MemoryStore) : Except Failure Stats :=
  match memory.readFailure, memory.writeFailure with
  | some failure, _ => .error failure
  | none, some failure => .error failure
  | none, none =>
      .ok (AmendedHeader.ofHeader memory.input).stats

/- What a run leaves behind. -/
def afterRun
    (memory : MemoryStore) : MemoryStore :=
  { memory with
    output :=
      if memory.IsFaultless then
        some (AmendedHeader.ofHeader memory.input).toBytes
      else
        memory.output
    reads := memory.reads + 1
    writes :=
      if memory.readFailure = none then
        memory.writes + 1
      else
        memory.writes }

variable {memory : MemoryStore}
variable {failure : Failure}

/- A read that is set to fail only counts. -/
theorem ending_run_of_read_failure
    (hRead : memory.readFailure = some failure) :
    ((Stages.ofStore store).run memory).ending =
      (.error failure,
        { memory with reads := memory.reads + 1 }) := by
  apply Stages.ending_run_of_read_error
  change (Action.ofChange giveInput memory).ending = _
  rw [Action.ending_ofChange, giveInput, hRead]

/- A write that is set to fail only counts. -/
theorem ending_run_of_write_failure
    (hRead : memory.readFailure = none)
    (hWrite : memory.writeFailure = some failure) :
    ((Stages.ofStore store).run memory).ending =
      (.error failure,
        { memory with
          reads := memory.reads + 1
          writes := memory.writes + 1 }) := by
  have hGiven :
      (store.read memory).ending =
        (.ok memory.input,
          { memory with reads := memory.reads + 1 }) := by
    change (Action.ofChange giveInput memory).ending = _
    rw [Action.ending_ofChange, giveInput, hRead]
  apply Stages.ending_run_of_write_error hGiven
  change (Action.ofChange (takeOutput _) _).ending = _
  rw [Action.ending_ofChange, takeOutput, hWrite]

/- How a run ends, whatever is set to fail. -/
theorem ending_run
    (memory : MemoryStore) :
    ((Stages.ofStore store).run memory).ending =
      (memory.answer, memory.afterRun) := by
  cases hRead : memory.readFailure with
  | some failure =>
      rw [ending_run_of_read_failure hRead]
      simp [answer, afterRun, IsFaultless, hRead]
  | none =>
      cases hWrite : memory.writeFailure with
      | some failure =>
          rw [ending_run_of_write_failure hRead hWrite]
          simp [answer, afterRun, IsFaultless, hRead,
            hWrite]
      | none =>
          rw [ending_run_of_no_failure hRead hWrite]
          simp [answer, afterRun, IsFaultless, hRead,
            hWrite]

theorem result_run
    (memory : MemoryStore) :
    ((Stages.ofStore store).run memory).result =
      memory.answer :=
  Outcome.result_of_ending (ending_run memory)

end MemoryStore

end StreamOverloads

------------------------------------------------------------
-- Commands
------------------------------------------------------------

namespace StreamOverloads

namespace MemoryStore

/-
  What can be done with a store: a run, or what prepares the
  runs after it.
-/
inductive Command where
  | setInput (data : Bytes)
  | feedBack
  | setReadFailure (failure : Option Failure)
  | setWriteFailure (failure : Option Failure)
  | run
  deriving DecidableEq

/- The store after one command. -/
def perform
    (memory : MemoryStore) : Command → MemoryStore
  | .setInput data => memory.setInput data
  | .feedBack => memory.feedBack
  | .setReadFailure failure =>
      memory.setReadFailure failure
  | .setWriteFailure failure =>
      memory.setWriteFailure failure
  | .run => ((Stages.ofStore store).run memory).state

/- The store after several commands. -/
def performAll
    (memory : MemoryStore)
    (commands : List Command) : MemoryStore :=
  commands.foldl perform memory

/-
  The stores that the runs among several commands start
  from, in order.
-/
def runStarts
    (memory : MemoryStore) :
    List Command → List MemoryStore
  | [] => []
  | .run :: rest =>
      memory :: runStarts (memory.perform .run) rest
  | command :: rest =>
      runStarts (memory.perform command) rest

/-
  The store that the last run without a failure started
  from, if there is such a run among the commands.
-/
def lastFaultless?
    (memory : MemoryStore)
    (commands : List Command) : Option MemoryStore :=
  ((memory.runStarts commands).filter fun start =>
    start.IsFaultless).getLast?

variable {memory : MemoryStore}
variable {command : Command}

theorem runStarts_cons
    (memory : MemoryStore)
    (command : Command)
    (rest : List Command) :
    memory.runStarts (command :: rest) =
      (if command = .run then [memory] else []) ++
        (memory.perform command).runStarts rest := by
  cases command <;> rfl

theorem perform_run
    (memory : MemoryStore) :
    memory.perform .run = memory.afterRun :=
  Outcome.state_of_ending (ending_run memory)

/- Only runs touch the output and the counters. -/
theorem perform_of_ne_run
    (hCommand : command ≠ .run) :
    (memory.perform command).output = memory.output ∧
      (memory.perform command).reads = memory.reads ∧
      (memory.perform command).writes = memory.writes := by
  cases command with
  | run => exact (hCommand rfl).elim
  | setInput data => exact ⟨rfl, rfl, rfl⟩
  | feedBack => exact ⟨rfl, rfl, rfl⟩
  | setReadFailure failure => exact ⟨rfl, rfl, rfl⟩
  | setWriteFailure failure => exact ⟨rfl, rfl, rfl⟩

end MemoryStore

end StreamOverloads

------------------------------------------------------------
-- After Several Commands
------------------------------------------------------------

namespace StreamOverloads

namespace MemoryStore

/- The first run counts only if no later one is faultless. -/
theorem lastFaultless?_cons
    (memory : MemoryStore)
    (command : Command)
    (rest : List Command) :
    memory.lastFaultless? (command :: rest) =
      ((memory.perform command).lastFaultless? rest).or
        (if command = .run ∧ memory.IsFaultless then
          some memory
        else
          none) := by
  unfold lastFaultless?
  rw [runStarts_cons, List.filter_append,
    List.getLast?_append]
  congr 1
  by_cases hRun : command = .run
  · by_cases hFaultless : memory.IsFaultless
    · simp [hRun, hFaultless]
    · simp [hRun, hFaultless]
  · simp [hRun]

/- What one command does to the output. -/
theorem output_perform
    (memory : MemoryStore)
    (command : Command) :
    (memory.perform command).output =
      if command = .run ∧ memory.IsFaultless then
        some (AmendedHeader.ofHeader memory.input).toBytes
      else
        memory.output := by
  by_cases hRun : command = .run
  · subst hRun
    rw [perform_run]
    simp [afterRun]
  · rw [(perform_of_ne_run hRun).1]
    simp [hRun]

/-
  The output is that of the last run without a failure, or
  the first one if there is none.
-/
theorem output_performAll
    (memory : MemoryStore)
    (commands : List Command) :
    (memory.performAll commands).output =
      ((memory.lastFaultless? commands).map fun start =>
        (AmendedHeader.ofHeader start.input).toBytes).or
        memory.output := by
  induction commands generalizing memory with
  | nil => rfl
  | cons command rest ih =>
      change
        ((memory.perform command).performAll rest).output =
          _
      rw [ih, lastFaultless?_cons, Option.map_or,
        Option.or_assoc, output_perform]
      congr 1
      by_cases hFirst :
          command = .run ∧ memory.IsFaultless
      · rw [if_pos hFirst, if_pos hFirst]
        rfl
      · rw [if_neg hFirst, if_neg hFirst]
        rfl

/- Every run reads once. -/
theorem reads_performAll
    (memory : MemoryStore)
    (commands : List Command) :
    (memory.performAll commands).reads =
      memory.reads + commands.count .run := by
  induction commands generalizing memory with
  | nil => rfl
  | cons command rest ih =>
      change
        ((memory.perform command).performAll rest).reads =
          _
      rw [ih, List.count_cons]
      by_cases hRun : command = .run
      · subst hRun
        rw [perform_run]
        simp only [afterRun, beq_self_eq_true, if_true]
        omega
      · rw [(perform_of_ne_run hRun).2.1]
        simp [hRun]

/- Every run that is not kept from reading writes once. -/
theorem writes_performAll
    (memory : MemoryStore)
    (commands : List Command) :
    (memory.performAll commands).writes =
      memory.writes +
        (memory.runStarts commands).countP fun start =>
          start.readFailure = none := by
  induction commands generalizing memory with
  | nil => rfl
  | cons command rest ih =>
      change
        ((memory.perform command).performAll rest).writes =
          _
      rw [ih, runStarts_cons, List.countP_append]
      by_cases hRun : command = .run
      · subst hRun
        rw [perform_run]
        by_cases hRead : memory.readFailure = none
        · simp only [afterRun, hRead, if_true,
            List.countP_singleton, decide_true]
          omega
        · simp [afterRun, hRead]
      · rw [(perform_of_ne_run hRun).2.2]
        simp [hRun]

/-
  Whatever commands are given in whatever order: the output
  is that of the last run without a failure, every run reads
  once, and writes once if reading does not fail. A run
  answers the failure of reading, else that of writing, else
  its counts; it leaves the input and both failures as they
  were set.
-/
theorem performAll_accounts_for_runs
    (memory : MemoryStore)
    (commands : List Command) :
    (memory.performAll commands).output =
        ((memory.lastFaultless? commands).map fun start =>
          (AmendedHeader.ofHeader start.input).toBytes).or
          memory.output ∧
      (memory.performAll commands).reads =
        memory.reads + commands.count .run ∧
      (memory.performAll commands).writes =
        memory.writes +
          ((memory.runStarts commands).countP fun start =>
            start.readFailure = none) ∧
      ∀ start ∈ memory.runStarts commands,
        ((Stages.ofStore store).run start).result =
            start.answer ∧
          (start.perform .run).input = start.input ∧
          (start.perform .run).readFailure =
            start.readFailure ∧
          (start.perform .run).writeFailure =
            start.writeFailure := by
  refine
    ⟨output_performAll memory commands,
      reads_performAll memory commands,
      writes_performAll memory commands, ?_⟩
  intro start _
  rw [perform_run]
  exact ⟨result_run start, rfl, rfl, rfl⟩

/- A failed write keeps the output of the run before it. -/
example :
    let memory := ofInput (Bytes.ofText "int x;")
    let later :=
      memory.performAll
        [.run, .setInput [],
          .setWriteFailure (some (.configuration "full")),
          .run]
    later.output =
        some (AmendedHeader.ofHeader memory.input).toBytes ∧
      later.reads = 2 ∧
      later.writes = 2 := by
  decide

end MemoryStore

end StreamOverloads
