import StreamOverloads.Stages

/-
  A header kept in memory.

  Such a store counts how often it is read and written, and
  can be told to fail at either. A failed write keeps the
  output of the write before it.

  Key definitions include:
    * `StreamOverloads.MemoryStore`
    * `StreamOverloads.MemoryStore.feedBack`
    * `StreamOverloads.MemoryStore.store`
-/

------------------------------------------------------------
-- Stores In Memory
------------------------------------------------------------

namespace StreamOverloads

/- The contents of a store in memory. -/
structure MemoryStore where
  input : Bytes
  output : Option Bytes
  reads : Nat
  writes : Nat
  readFailure : Option Failure
  writeFailure : Option Failure
  deriving DecidableEq

namespace MemoryStore

/- A store that nothing was done with yet. -/
def ofInput
    (input : Bytes) : MemoryStore where
  input := input
  output := none
  reads := 0
  writes := 0
  readFailure := none
  writeFailure := none

/- Replace the input. -/
def setInput
    (data : Bytes)
    (memory : MemoryStore) : MemoryStore :=
  { memory with input := data }

/- Make the output the input, if there is an output. -/
def feedBack
    (memory : MemoryStore) : MemoryStore :=
  { memory with input := memory.output.getD memory.input }

/- From now on, fail at reading, or do so no more. -/
def setReadFailure
    (failure : Option Failure)
    (memory : MemoryStore) : MemoryStore :=
  { memory with readFailure := failure }

/- From now on, fail at writing, or do so no more. -/
def setWriteFailure
    (failure : Option Failure)
    (memory : MemoryStore) : MemoryStore :=
  { memory with writeFailure := failure }

/- Give the input to a reader. -/
def giveInput
    (memory : MemoryStore) :
    MemoryStore × Except Failure Bytes :=
  ({ memory with reads := memory.reads + 1 },
    match memory.readFailure with
    | some failure => .error failure
    | none => .ok memory.input)

/- Take the output from a writer. -/
def takeOutput
    (data : Bytes)
    (memory : MemoryStore) :
    MemoryStore × Except Failure Unit :=
  let counted := { memory with writes := memory.writes + 1 }
  match memory.writeFailure with
  | some failure => (counted, .error failure)
  | none => ({ counted with output := some data }, .ok ())

/- The store that reads and writes memory. -/
def store : Store MemoryStore where
  read := Action.ofChange giveInput
  write := fun data => Action.ofChange (takeOutput data)

end MemoryStore

end StreamOverloads
