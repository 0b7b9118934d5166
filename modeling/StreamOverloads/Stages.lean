import StreamOverloads.Action

/-
  The stages of a run, and where headers are kept.

  A run reads the lines of a header, amends them and writes
  the result. It stops at the first stage that fails. A store
  gives the bytes of the header to be amended and takes the
  bytes of the amended one.

  Key definitions include:
    * `StreamOverloads.Store`
    * `StreamOverloads.Stages`
    * `StreamOverloads.Stages.ofStore`
    * `StreamOverloads.Stages.run`
-/

------------------------------------------------------------
-- Stores
------------------------------------------------------------

namespace StreamOverloads

/- Where a header is read from and written to. -/
structure Store (σ : Type) where
  read : Action σ Bytes
  write : Bytes → Action σ Unit

end StreamOverloads

------------------------------------------------------------
-- Stages
------------------------------------------------------------

namespace StreamOverloads

/- The three stages of a run. -/
structure Stages (σ : Type) where
  readLines : Action σ (List Line)
  amendLines : List Line → Action σ AmendedHeader
  writeLines : AmendedHeader → Action σ Stats

namespace Stages

variable {σ : Type}

/- Read a header from a store and divide it into lines. -/
def readFrom
    (store : Store σ) : Action σ (List Line) := do
  let data ← store.read
  Action.note (.bytesRead data.length)
  pure (Line.divide data)

/- Amend lines, noting each declaration that is expanded. -/
def amendNoting
    (lines : List Line) : Action σ AmendedHeader := do
  Action.noteAll
    ((Line.recognised lines).map fun (number, decl) =>
      .expanded decl number)
  pure (AmendedHeader.ofLines lines)

/- Write an amended header to a store. -/
def writeTo
    (store : Store σ)
    (header : AmendedHeader) : Action σ Stats := do
  let data := header.toBytes
  Action.note (.writing data.length)
  store.write data
  pure header.stats

/- The stages that work on a store. -/
def ofStore
    (store : Store σ) : Stages σ where
  readLines := readFrom store
  amendLines := amendNoting
  writeLines := writeTo store

/- Go through the stages. -/
def run
    (stages : Stages σ) : Action σ Stats := do
  Action.note .started
  let lines ← stages.readLines
  Action.note (.linesDivided lines.length)
  let header ← stages.amendLines lines
  Action.note
    (.declarationsExpanded header.stats.declarationsExpanded)
  let stats ← stages.writeLines header
  Action.note (.completed stats)
  pure stats

end Stages

end StreamOverloads
