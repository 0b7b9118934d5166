import StreamOverloads.Program

/-
  The command line of the tool.

  The part of the file system that a call can reach is loaded
  as a tree, the call is run on it, and what has changed in the
  tree is saved.
-/

------------------------------------------------------------
-- Loading
------------------------------------------------------------

namespace StreamOverloads

namespace Program

/- Load the entry at one location, if there is one. -/
def loadEntry
    (tree : FileTree)
    (place : Location) : IO FileTree := do
  if (tree.entry? place).isSome then
    return tree
  let file := (← IO.currentDir) / ("/" ++ place.text)
  if ← file.isDir then
    return tree.set place .directory
  if ← file.pathExists then
    let data ← IO.FS.readBinFile file
    return tree.set place (.file data.data.toList)
  return tree

/- Load every entry that steps pass. -/
def loadAlong
    (tree : FileTree)
    (place : Location) :
    List Path.Step → IO FileTree
  | [] => loadEntry tree place
  | step :: rest => do
      let tree ← loadEntry tree place
      let next :=
        match step with
        | .stay => place
        | .up => place.tail
        | .enter name => name :: place
      loadAlong tree next rest

/- A tree that holds the real working directory only. -/
def loadWorkDir : IO FileTree := do
  let path := Path.ofText (← IO.currentDir).toString
  let names := path.steps.filterMap fun step =>
    match step with
    | .enter name => some name
    | _ => none
  return FileTree.ofWorkDir names.reverse

/- Load every entry that paths pass. -/
def loadPaths
    (tree : FileTree)
    (texts : List String) : IO FileTree :=
  texts.foldlM
    (fun tree text =>
      let path := Path.ofText text
      loadAlong tree (tree.origin path) path.steps)
    tree

/- Load standard input. -/
def loadStdin : IO Bytes := do
  return (← (← IO.getStdin).readBinToEnd).data.toList

/- Load all that a configuration names. -/
def loadHost
    (config : Option Config) : IO Host := do
  let workDir ← loadWorkDir
  match config with
  | none =>
      return { tree := workDir, stdin := [], stdout := [] }
  | some config =>
      let tree ← loadPaths workDir
        (config.input.toList ++ config.output.toList)
      let stdin ←
        if config.input.isSome then pure [] else loadStdin
      return { tree := tree, stdin := stdin, stdout := [] }

end Program

end StreamOverloads

------------------------------------------------------------
-- Saving
------------------------------------------------------------

namespace StreamOverloads

namespace Program

/- Save every entry that is not what it was. -/
def saveTree
    (before after : FileTree) : IO Unit := do
  for (place, entry) in after.entries do
    if before.entry? place ≠ some entry then
      let file := (← IO.currentDir) / ("/" ++ place.text)
      match entry with
      | .directory => IO.FS.createDir file
      | .file data =>
          IO.FS.writeBinFile file ⟨data.toArray⟩

end Program

end StreamOverloads

------------------------------------------------------------
-- Entry Point
------------------------------------------------------------

/- Run the tool on the arguments it is called with. -/
def main
    (arguments : List String) : IO UInt32 := do
  let invocation : StreamOverloads.Program.Invocation :=
    { arguments := arguments.map StreamOverloads.Bytes.ofText
      logFilter := ← IO.getEnv "RUST_LOG" }
  let host ←
    StreamOverloads.Program.loadHost invocation.config?
  let report := StreamOverloads.Program.run invocation host
  StreamOverloads.Program.saveTree host.tree report.host.tree
  for line in report.stderr do
    IO.eprintln line
  let stdout ← IO.getStdout
  stdout.write ⟨report.host.stdout.toArray⟩
  stdout.flush
  return report.exitCode.toUInt32
