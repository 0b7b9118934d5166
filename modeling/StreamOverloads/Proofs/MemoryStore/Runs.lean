import StreamOverloads.Proofs.AmendedHeader.Repetition
import StreamOverloads.Proofs.Stages.Run
import StreamOverloads.Store.Memory

/-
  Runs over a header in memory.

  A run that nothing makes fail puts the amended form of the
  input into the output. When that output becomes the next
  input, again and again, the output and the counts of every
  run are known from the first input alone.

  Key definitions include:
    * `MemoryStore.rerun`
    * `MemoryStore.rerunInput`

  Main declarations:
    * `MemoryStore.ending_run_of_no_failure`
    * `MemoryStore.ending_rerun`
    * `MemoryStore.rerun_closed_form`
-/

------------------------------------------------------------
-- One Run
------------------------------------------------------------

namespace StreamOverloads

namespace MemoryStore

/- Without failures a run amends the input. -/
theorem ending_run_of_no_failure
    {memory : MemoryStore}
    (hRead : memory.readFailure = none)
    (hWrite : memory.writeFailure = none) :
    ((Stages.ofStore store).run memory).ending =
      (.ok (AmendedHeader.ofHeader memory.input).stats,
        { memory with
          output :=
            some
              (AmendedHeader.ofHeader memory.input).toBytes
          reads := memory.reads + 1
          writes := memory.writes + 1 }) := by
  have hGiven :
      (store.read memory).ending =
        (.ok memory.input,
          { memory with reads := memory.reads + 1 }) := by
    change (Action.ofChange giveInput memory).ending = _
    rw [Action.ending_ofChange, giveInput, hRead]
  have hTaken :
      (store.write
          (AmendedHeader.ofHeader memory.input).toBytes
          { memory with
            reads := memory.reads + 1 }).ending =
        (.ok (),
          { memory with
            output :=
              some
                (AmendedHeader.ofHeader
                  memory.input).toBytes
            reads := memory.reads + 1
            writes := memory.writes + 1 }) := by
    change (Action.ofChange (takeOutput _) _).ending = _
    rw [Action.ending_ofChange, takeOutput, hWrite]
  exact Stages.ending_run_of_write_ok hGiven hTaken

end MemoryStore

end StreamOverloads

------------------------------------------------------------
-- Runs On Their Own Output
------------------------------------------------------------

namespace StreamOverloads

namespace MemoryStore

/-
  The run that follows some earlier runs, where the output
  of each run becomes the input of the next one.
-/
def rerun
    (memory : MemoryStore) :
    (earlier : Nat) → Outcome MemoryStore Stats
  | 0 => (Stages.ofStore store).run memory
  | earlier + 1 =>
      (Stages.ofStore store).run
        (memory.rerun earlier).state.feedBack

/- What a run reads that has so many other runs before it. -/
def rerunInput
    (memory : MemoryStore) : (earlier : Nat) → Bytes
  | 0 => memory.input
  | earlier + 1 =>
      Line.join
        (AmendedHeader.linesAfter (earlier + 1)
          (Line.divide memory.input))

/-
  Amending what a run reads gives what all runs up to it add
  to the first input.
-/
theorem lines_ofHeader_rerunInput
    (memory : MemoryStore)
    (earlier : Nat) :
    (AmendedHeader.ofHeader
        (memory.rerunInput earlier)).lines =
      AmendedHeader.linesAfter (earlier + 1)
        (Line.divide memory.input) := by
  cases earlier with
  | zero =>
      exact
        AmendedHeader.lines_ofHeader_eq_linesAfter_one
          memory.input
  | succ earlier =>
      exact
        AmendedHeader.lines_ofHeader_join_linesAfter
          (earlier + 1) memory.input

/- Every run of the chain ends as a run on what it reads. -/
theorem ending_rerun
    {memory : MemoryStore}
    (hRead : memory.readFailure = none)
    (hWrite : memory.writeFailure = none)
    (earlier : Nat) :
    (memory.rerun earlier).ending =
      (.ok
        (AmendedHeader.ofHeader
          (memory.rerunInput earlier)).stats,
        { memory with
          input := memory.rerunInput earlier
          output :=
            some (memory.rerunInput (earlier + 1))
          reads := memory.reads + (earlier + 1)
          writes := memory.writes + (earlier + 1) }) := by
  have hOutput :
      ∀ count : Nat,
        (AmendedHeader.ofHeader
            (memory.rerunInput count)).toBytes =
          memory.rerunInput (count + 1) := by
    intro count
    unfold AmendedHeader.toBytes
    rw [lines_ofHeader_rerunInput]
    rfl
  -- The state before a run is the first one up to its input
  -- and its counters, so no failure was scheduled meanwhile.
  induction earlier with
  | zero =>
      rw [← hOutput 0]
      exact ending_run_of_no_failure hRead hWrite
  | succ earlier ih =>
      rw [rerun, Outcome.state_of_ending ih,
        ← hOutput (earlier + 1)]
      exact ending_run_of_no_failure hRead hWrite

/- Every run reads the lines that the runs before it made. -/
theorem length_divide_rerunInput
    (memory : MemoryStore)
    (earlier : Nat) :
    (Line.divide (memory.rerunInput earlier)).length =
      (Line.divide memory.input).length + 2 * earlier +
        2 * earlier *
          Line.recognisedCount
            (Line.divide memory.input) := by
  cases earlier with
  | zero => simp [rerunInput]
  | succ earlier =>
      rw [rerunInput, AmendedHeader.divide_join_linesAfter,
        List.length_map, AmendedHeader.length_linesAfter]

/- Every run recognises what the first one recognises. -/
theorem recognisedCount_divide_rerunInput
    (memory : MemoryStore)
    (earlier : Nat) :
    Line.recognisedCount
        (Line.divide (memory.rerunInput earlier)) =
      Line.recognisedCount (Line.divide memory.input) := by
  cases earlier with
  | zero => rfl
  | succ earlier =>
      rw [rerunInput, AmendedHeader.divide_join_linesAfter,
        Line.recognisedCount_map_terminated,
        AmendedHeader.recognisedCount_linesAfter]

/-
  After some runs, each on the output of the one before, the
  output opens with as many pairs of forward declarations
  and has as many pairs of overloads after each declaration
  of the first input. The counts of the last run follow.
-/
theorem rerun_closed_form
    {memory : MemoryStore}
    (hRead : memory.readFailure = none)
    (hWrite : memory.writeFailure = none)
    (earlier : Nat) :
    (memory.rerun earlier).state.output =
        some
          (Line.join
            ((List.replicate (earlier + 1)
                forwardLines).flatten ++
              (Line.divide memory.input).flatMap
                (Line.amendedTimes (earlier + 1)))) ∧
      (memory.rerun earlier).result =
        .ok
          { linesRead :=
              (Line.divide memory.input).length +
                2 * earlier +
                2 * earlier *
                  Line.recognisedCount
                    (Line.divide memory.input)
            declarationsExpanded :=
              Line.recognisedCount
                (Line.divide memory.input)
            linesWritten :=
              (Line.divide memory.input).length +
                2 * (earlier + 1) +
                2 * (earlier + 1) *
                  Line.recognisedCount
                    (Line.divide memory.input) } := by
  have hEnding := ending_rerun hRead hWrite earlier
  constructor
  · have hState := congrArg Prod.snd hEnding
    exact congrArg MemoryStore.output hState
  · have hResult := congrArg Prod.fst hEnding
    change (memory.rerun earlier).result = _ at hResult
    rw [hResult, AmendedHeader.stats_ofHeader,
      lines_ofHeader_rerunInput,
      AmendedHeader.length_linesAfter,
      length_divide_rerunInput,
      recognisedCount_divide_rerunInput]

/- A plain line and an indented declaration, unterminated. -/
def sampleHeader : Bytes :=
  Bytes.ofText
    ("  int x; \n\t" ++ Declaration.pureVirtual.signature)

/- Two runs on a header with one declaration. -/
theorem rerun_closed_form_two_runs :
    (ofInput sampleHeader).readFailure = none ∧
      (ofInput sampleHeader).writeFailure = none ∧
      ((ofInput sampleHeader).rerun 1).state.output =
        some
          (Line.join
            (forwardLines ++ forwardLines ++
              [Bytes.ofText "  int x;",
                Declaration.pureVirtual.signatureLine] ++
              Declaration.pureVirtual.overloadLines ++
              Declaration.pureVirtual.overloadLines)) ∧
      ((ofInput sampleHeader).rerun 1).result =
        .ok
          { linesRead := 6
            declarationsExpanded := 1
            linesWritten := 10 } := by
  have hClosed :=
    rerun_closed_form
      (rfl :
        (ofInput sampleHeader).readFailure = none)
      rfl 1
  refine ⟨rfl, rfl, hClosed.1.trans ?_, hClosed.2.trans ?_⟩
  · rfl
  · rfl

end MemoryStore

end StreamOverloads
