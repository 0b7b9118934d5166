import StreamOverloads.Stages

/-
  How a run over a store ends.

  A run reads once and writes at most once. It ends with the
  failure of the read, with the failure of the write, or
  with the counts of the header that it read. The state it
  leaves is the one that the last of these two left: notes
  and the amending in between do not touch it.

  Key definitions include:
    * `Outcome.ending`

  Main declarations:
    * `Stages.ending_run_of_read_error`
    * `Stages.ending_run_of_write_error`
    * `Stages.ending_run_of_write_ok`
-/

------------------------------------------------------------
-- Endings
------------------------------------------------------------

namespace StreamOverloads

/- The result and the state of an outcome, its events aside. -/
def Outcome.ending
    {σ α : Type}
    (outcome : Outcome σ α) : Except Failure α × σ :=
  (outcome.result, outcome.state)

namespace Outcome

variable {σ α : Type}
variable {outcome : Outcome σ α}
variable {result : Except Failure α}
variable {state : σ}

theorem result_of_ending
    (hEnding : outcome.ending = (result, state)) :
    outcome.result = result :=
  congrArg Prod.fst hEnding

theorem state_of_ending
    (hEnding : outcome.ending = (result, state)) :
    outcome.state = state :=
  congrArg Prod.snd hEnding

end Outcome

namespace Action

variable {σ α β : Type}

/- After a success the next action decides the ending. -/
theorem ending_bind_of_ok
    {first : Action σ α}
    {state middle : σ}
    {value : α}
    (hFirst : (first state).ending = (.ok value, middle))
    (second : α → Action σ β) :
    ((first >>= second) state).ending =
      (second value middle).ending := by
  change (next first second state).ending = _
  unfold next
  simp only [Outcome.result_of_ending hFirst,
    Outcome.state_of_ending hFirst]
  rfl

/- A failure is the ending of all that follows it. -/
theorem ending_bind_of_error
    {first : Action σ α}
    {state middle : σ}
    {failure : Failure}
    (hFirst :
      (first state).ending = (.error failure, middle))
    (second : α → Action σ β) :
    ((first >>= second) state).ending =
      (.error failure, middle) := by
  change (next first second state).ending = _
  unfold next
  simp only [Outcome.result_of_ending hFirst,
    Outcome.state_of_ending hFirst]
  rfl

/- Noting an event does not change the ending. -/
@[simp] theorem ending_note_bind
    (event : Log.Event)
    (second : Unit → Action σ β)
    (state : σ) :
    ((note event >>= second) state).ending =
      (second () state).ending :=
  ending_bind_of_ok rfl second

@[simp] theorem ending_ofChange
    (change : σ → σ × Except Failure α)
    (state : σ) :
    (ofChange change state).ending =
      ((change state).2, (change state).1) := by
  rfl

@[simp] theorem ending_ofExcept
    (result : Except Failure α)
    (state : σ) :
    (ofExcept result state).ending = (result, state) := by
  rfl

/- Noting an event on a failure does not change the ending. -/
@[simp] theorem ending_onFailure
    (action : Action σ α)
    (event : Failure → Log.Event)
    (state : σ) :
    (action.onFailure event state).ending =
      (action state).ending := by
  unfold onFailure
  cases hResult : (action state).result with
  | error failure => simp only [hResult, Outcome.ending]
  | ok value => simp only [hResult]

end Action

end StreamOverloads

------------------------------------------------------------
-- Runs Over A Store
------------------------------------------------------------

namespace StreamOverloads

namespace Stages

variable {σ : Type}
variable {store : Store σ}
variable {state middle final : σ}
variable {data : Bytes}
variable {failure : Failure}

/- Reading lines fails where the store fails to be read. -/
theorem ending_readFrom_of_error
    (hRead :
      (store.read state).ending =
        (.error failure, middle)) :
    (readFrom store state).ending =
      (.error failure, middle) :=
  Action.ending_bind_of_error hRead _

/- Reading lines gives those of the data in the store. -/
theorem ending_readFrom_of_ok
    (hRead :
      (store.read state).ending = (.ok data, middle)) :
    (readFrom store state).ending =
      (.ok (Line.divide data), middle) := by
  unfold readFrom
  rw [Action.ending_bind_of_ok hRead]
  rfl

/- Amending never fails and leaves the state alone. -/
theorem ending_amendNoting
    (lines : List Line)
    (state : σ) :
    (amendNoting lines state).ending =
      (.ok (AmendedHeader.ofLines lines), state) := by
  rfl

/- Writing a header fails where the store fails to take it. -/
theorem ending_writeTo_of_error
    {header : AmendedHeader}
    (hWrite :
      (store.write header.toBytes state).ending =
        (.error failure, final)) :
    (writeTo store header state).ending =
      (.error failure, final) := by
  unfold writeTo
  rw [Action.ending_note_bind]
  exact Action.ending_bind_of_error hWrite _

/- Writing a header answers its counts. -/
theorem ending_writeTo_of_ok
    {header : AmendedHeader}
    (hWrite :
      (store.write header.toBytes state).ending =
        (.ok (), final)) :
    (writeTo store header state).ending =
      (.ok header.stats, final) := by
  unfold writeTo
  rw [Action.ending_note_bind,
    Action.ending_bind_of_ok hWrite]
  rfl

/- A run that cannot read ends with that failure. -/
theorem ending_run_of_read_error
    (hRead :
      (store.read state).ending =
        (.error failure, middle)) :
    ((ofStore store).run state).ending =
      (.error failure, middle) := by
  unfold run
  rw [Action.ending_note_bind]
  exact
    Action.ending_bind_of_error
      (ending_readFrom_of_error hRead) _

/- After the read, writing the amended header is left. -/
theorem ending_run_of_read_ok
    (hRead :
      (store.read state).ending = (.ok data, middle)) :
    ((ofStore store).run state).ending =
      ((writeTo store (AmendedHeader.ofHeader data) >>=
        fun stats => do
          Action.note (.completed stats)
          pure stats) middle).ending := by
  have hLines :
      ((ofStore store).readLines state).ending =
        (.ok (Line.divide data), middle) :=
    ending_readFrom_of_ok hRead
  have hHeader :
      ((ofStore store).amendLines
          (Line.divide data) middle).ending =
        (.ok (AmendedHeader.ofHeader data), middle) :=
    ending_amendNoting (Line.divide data) middle
  unfold run
  rw [Action.ending_note_bind,
    Action.ending_bind_of_ok hLines,
    Action.ending_note_bind,
    Action.ending_bind_of_ok hHeader,
    Action.ending_note_bind]
  rfl

/- A run that cannot write ends with that failure. -/
theorem ending_run_of_write_error
    (hRead :
      (store.read state).ending = (.ok data, middle))
    (hWrite :
      (store.write (AmendedHeader.ofHeader data).toBytes
          middle).ending =
        (.error failure, final)) :
    ((ofStore store).run state).ending =
      (.error failure, final) := by
  rw [ending_run_of_read_ok hRead]
  exact
    Action.ending_bind_of_error
      (ending_writeTo_of_error hWrite) _

/-
  A run that reads and writes answers the counts of the
  header that it read.
-/
theorem ending_run_of_write_ok
    (hRead :
      (store.read state).ending = (.ok data, middle))
    (hWrite :
      (store.write (AmendedHeader.ofHeader data).toBytes
          middle).ending =
        (.ok (), final)) :
    ((ofStore store).run state).ending =
      (.ok (AmendedHeader.ofHeader data).stats, final) := by
  rw [ending_run_of_read_ok hRead,
    Action.ending_bind_of_ok (ending_writeTo_of_ok hWrite)]
  rfl

end Stages

end StreamOverloads
