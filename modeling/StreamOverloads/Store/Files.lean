import StreamOverloads.FileTree
import StreamOverloads.Stages

/-
  Headers kept in files or passed through standard streams.

  Key definitions include:
    * `StreamOverloads.Host`
    * `StreamOverloads.FileStore`
    * `StreamOverloads.FileStore.store`
-/

------------------------------------------------------------
-- Hosts
------------------------------------------------------------

namespace StreamOverloads

/-
  What a run can reach: the files, what is left to be read
  from standard input, and what has been written to standard
  output. The standard streams never fail.
-/
structure Host where
  tree : FileTree
  stdin : Bytes
  stdout : Bytes
  deriving DecidableEq

end StreamOverloads

------------------------------------------------------------
-- File Stores
------------------------------------------------------------

namespace StreamOverloads

/-
  The file to read and the file to write, a standard stream
  where none is given.
-/
structure FileStore where
  input : Option String
  output : Option String
  deriving DecidableEq

namespace FileStore

/- The store that a configuration asks for. -/
def ofConfig
    (config : Config) : FileStore where
  input := config.input
  output := config.output

/- The text of a file store. -/
def description
    (files : FileStore) : String :=
  "LocalStorage \x7b input_path: " ++
    Text.quoteOptional files.input ++ ", output_path: " ++
    Text.quoteOptional files.output ++ " \x7d"

/- Read a file. -/
def fromFile
    (path : String)
    (host : Host) : Host × Except Failure Bytes :=
  (host,
    (host.tree.read (Path.ofText path)).mapError Failure.io)

/- Read all that is left of standard input. -/
def fromStdin
    (host : Host) : Host × Except Failure Bytes :=
  ({ host with stdin := [] }, .ok host.stdin)

/- Write a file. -/
def toFile
    (path : String)
    (data : Bytes)
    (host : Host) : Host × Except Failure Unit :=
  let written := host.tree.write (Path.ofText path) data
  ({ host with tree := written.1 },
    written.2.mapError Failure.io)

/- Write to standard output. -/
def toStdout
    (data : Bytes)
    (host : Host) : Host × Except Failure Unit :=
  ({ host with stdout := host.stdout ++ data }, .ok ())

/- Read the header. -/
def read
    (files : FileStore) : Action Host Bytes :=
  match files.input with
  | some path => do
      Action.note (.readingFile path)
      Action.ofChange (fromFile path)
  | none => do
      Action.note .readingInput
      Action.ofChange fromStdin

/- Write the amended header. -/
def write
    (files : FileStore)
    (data : Bytes) : Action Host Unit :=
  match files.output with
  | some path => do
      Action.ofChange (toFile path data)
      Action.note (.fileWritten path)
  | none => Action.ofChange (toStdout data)

/- The store that reads and writes files. -/
def store
    (files : FileStore) : Store Host where
  read := files.read
  write := files.write

end FileStore

end StreamOverloads
