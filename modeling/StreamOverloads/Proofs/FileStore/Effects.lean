import StreamOverloads.Proofs.FileStore.Runs
import StreamOverloads.Proofs.FileTree.Frame

/-
  What writing to a file leaves behind, once and again.

  Writing gives the named file its bytes and makes directories
  above it. Beyond that it changes nothing, and if it fails no
  file at all. A run that keeps its source can therefore be
  repeated: the second run finds the directories made and the
  output written, and leaves everything as it is.

  Main declarations:
    * `FileStore.write_changes_output_only`
    * `FileStore.run_again_of_kept_input`
-/

------------------------------------------------------------
-- Deliveries
------------------------------------------------------------

namespace StreamOverloads

namespace FileStore

variable {files : FileStore}
variable {output : String}
variable {host : Host}
variable {data : Bytes}

/- A delivery to a path writes the tree and nothing else. -/
theorem delivery_of_output
    (hOutput : files.output = some output)
    (data : Bytes)
    (host : Host) :
    files.delivery data host =
      ({ host with
          tree :=
            (host.tree.write (Path.ofText output) data).1 },
        (host.tree.write (Path.ofText output) data).2) := by
  rw [delivery, hOutput]

/- A delivery without a path adds to standard output. -/
theorem delivery_of_stdout
    (hOutput : files.output = none)
    (data : Bytes)
    (host : Host) :
    files.delivery data host =
      ({ host with stdout := host.stdout ++ data },
        .ok ()) := by
  rw [delivery, hOutput]

/- A delivery that fails changes neither output nor files. -/
theorem delivery_of_error
    {fault : Fault}
    (hFailed :
      (files.delivery data host).2 = .error fault) :
    (files.delivery data host).1.stdout = host.stdout ∧
      ∀ place,
        FileTree.SameFileAt place host.tree
          (files.delivery data host).1.tree := by
  cases hOutput : files.output with
  | none =>
      rw [delivery_of_stdout hOutput] at hFailed
      cases hFailed
  | some path =>
      rw [delivery_of_output hOutput] at hFailed ⊢
      exact
        ⟨rfl, FileTree.sameFileAt_write_of_error hFailed⟩

end FileStore

end StreamOverloads

------------------------------------------------------------
-- One Write
------------------------------------------------------------

namespace StreamOverloads

namespace FileStore

variable {files : FileStore}
variable {input output : String}
variable {host : Host}
variable {data : Bytes}

/- Reading from a path gives what the file holds. -/
theorem result_read_of_input
    (hInput : files.input = some input)
    (hRead :
      host.tree.read (Path.ofText input) = .ok data) :
    (files.store.read host).result = .ok data := by
  rw [Outcome.result_of_ending (ending_read files host),
    header, hInput]
  simp only [hRead]
  rfl

/-
  A write that succeeds makes the path lead to a file that
  holds the bytes, and keeps every other file. A write that
  fails keeps every file. In both cases nothing is removed,
  and new directories are reached by the parent of the path
  or by what the parent begins with.
-/
theorem write_changes_output_only
    (hOutput : files.output = some output)
    (data : Bytes)
    (host : Host) :
    ((files.store.write data host).result = .ok () →
        ((FileStore.mk (some output) none).store.read
            (files.store.write data host).state).result =
          .ok data ∧
        ∃ place,
          (files.store.write data host).state.tree.locate
              (Path.ofText output) =
            .ok place ∧
          ∀ other ≠ place,
            FileTree.SameFileAt other host.tree
              (files.store.write data host).state.tree) ∧
      (∀ failure,
        (files.store.write data host).result =
            .error failure →
          ∀ place,
            FileTree.SameFileAt place host.tree
              (files.store.write data host).state.tree) ∧
      FileTree.RemovesNothing host.tree
        (files.store.write data host).state.tree ∧
      FileTree.AddsOnlyAbove (Path.ofText output) host.tree
        (files.store.write data host).state.tree := by
  have hDelivery := delivery_of_output hOutput data host
  rw [Outcome.state_of_ending (ending_write files data host),
    hDelivery]
  refine
    ⟨?_, ?_, FileTree.removesNothing_write _ _ _,
      FileTree.addsOnlyAbove_write _ _ _⟩
  · intro hResult
    have hDone := result_write_eq_ok_iff.mp hResult
    rw [hDelivery] at hDone
    refine
      ⟨result_read_of_input rfl
          (FileTree.read_write_of_ok hDone),
        host.tree.destination (Path.ofText output),
        FileTree.locate_write_of_ok hDone, ?_⟩
    intro other hOther
    exact FileTree.sameFileAt_write_of_ne hDone hOther
  · intro failure hResult
    rcases
        exists_fault_of_result_write_eq_error hResult with
      ⟨fault, hFailed⟩
    rw [hDelivery] at hFailed
    exact FileTree.sameFileAt_write_of_error hFailed

/- A store with its output below a new directory. -/
def sampleBelow : FileStore where
  input := some "nodes.h"
  output := some "gen/nodes.h"

/- A store whose output asks for a directory. -/
def sampleSlash : FileStore where
  input := some "nodes.h"
  output := some "gen/new/"

/-
  Writing below a new directory, and failing to write to a
  path that ends in a slash, after making what is above it.
-/
theorem write_changes_output_only_below_new_directory :
    sampleBelow.output = some "gen/nodes.h" ∧
      (sampleBelow.store.write [10] sampleHost).result =
        .ok () ∧
      ((FileStore.mk (some "gen/nodes.h") none).store.read
          (sampleBelow.store.write [10]
            sampleHost).state).result =
        .ok [10] ∧
      sampleSlash.output = some "gen/new/" ∧
      (sampleSlash.store.write [10] sampleHost).result =
        .error (.io .isDirectory) ∧
      FileTree.entry?
          (sampleSlash.store.write [10]
            sampleHost).state.tree
          ["gen".toList, "work".toList] =
        some .directory ∧
      ∀ place,
        FileTree.SameFileAt place sampleHost.tree
          (sampleSlash.store.write [10]
            sampleHost).state.tree := by
  have hDone :
      (sampleBelow.store.write [10] sampleHost).result =
        .ok () := by
    rfl
  have hFailed :
      (sampleSlash.store.write [10] sampleHost).result =
        .error (.io .isDirectory) := by
    rfl
  have hBelow :=
    write_changes_output_only
      (rfl : sampleBelow.output = some "gen/nodes.h") [10]
      sampleHost
  have hSlash :=
    write_changes_output_only
      (rfl : sampleSlash.output = some "gen/new/") [10]
      sampleHost
  exact
    ⟨rfl, hDone, (hBelow.1 hDone).1, rfl, hFailed, rfl,
      hSlash.2.1 _ hFailed⟩

end FileStore

end StreamOverloads

------------------------------------------------------------
-- The Same Run Again
------------------------------------------------------------

namespace StreamOverloads

namespace FileStore

variable {files : FileStore}
variable {input output : String}
variable {host : Host}
variable {stats : Stats}

/- A run that succeeds has read its source. -/
theorem exists_read_of_result_run_eq_ok
    (hInput : files.input = some input)
    (hDone : (files.run host).result = .ok stats) :
    ∃ data,
      host.tree.read (Path.ofText input) = .ok data := by
  cases hRead : host.tree.read (Path.ofText input) with
  | ok data => exact ⟨data, rfl⟩
  | error fault =>
      have hHeader : files.header host = .error fault := by
        rw [header, hInput]
        exact hRead
      rw [Outcome.result_of_ending
        (ending_run_of_header_error hHeader)] at hDone
      cases hDone

/-
  A run over two files that succeeds and keeps its source can
  be repeated: the second run succeeds with the same counts
  and leaves the host as the first one left it.
-/
theorem run_again_of_kept_input
    (hInput : files.input = some input)
    (hOutput : files.output = some output)
    (hDone : (files.run host).result = .ok stats)
    (hKept :
      (files.run host).state.tree.read
          (Path.ofText input) =
        host.tree.read (Path.ofText input)) :
    (files.run (files.run host).state).result =
        .ok stats ∧
      (files.run (files.run host).state).state =
        (files.run host).state := by
  rcases exists_read_of_result_run_eq_ok hInput hDone with
    ⟨data, hRead⟩
  have hWrite :=
    (exists_result_run_eq_ok_iff hInput hOutput hRead).mp
      ⟨stats, hDone⟩
  have hAgain :=
    FileTree.write_write
      (FileTree.write_eq_of_result_eq_ok hWrite)
  have hFirst := ending_run_of_paths hInput hOutput hRead
  have hState := Outcome.state_of_ending hFirst
  have hSecond :
      (files.run (files.run host).state).ending =
        (files.run host).ending := by
    rw [ending_run_of_paths hInput hOutput
      (hKept.trans hRead), hState, hFirst, hAgain, hWrite]
  constructor
  · exact (congrArg Prod.fst hSecond).trans hDone
  · exact congrArg Prod.snd hSecond

/-
  A second run finds the directory and the file that the
  first one made.
-/
theorem run_again_of_kept_input_below_new_directory :
    sampleBelow.input = some "nodes.h" ∧
      sampleBelow.output = some "gen/nodes.h" ∧
      (sampleBelow.run sampleHost).result =
        .ok
          { linesRead := 1
            declarationsExpanded := 0
            linesWritten := 3 } ∧
      (sampleBelow.run sampleHost).state.tree.read
          (Path.ofText "nodes.h") =
        sampleHost.tree.read (Path.ofText "nodes.h") ∧
      (sampleBelow.run sampleHost).state ≠ sampleHost ∧
      (sampleBelow.run
          (sampleBelow.run sampleHost).state).result =
        .ok
          { linesRead := 1
            declarationsExpanded := 0
            linesWritten := 3 } ∧
      (sampleBelow.run
          (sampleBelow.run sampleHost).state).state =
        (sampleBelow.run sampleHost).state := by
  have hDone :
      (sampleBelow.run sampleHost).result =
        .ok
          { linesRead := 1
            declarationsExpanded := 0
            linesWritten := 3 } := by
    rfl
  have hKept :
      (sampleBelow.run sampleHost).state.tree.read
          (Path.ofText "nodes.h") =
        sampleHost.tree.read (Path.ofText "nodes.h") := by
    rfl
  have hAgain :=
    run_again_of_kept_input
      (rfl : sampleBelow.input = some "nodes.h")
      (rfl : sampleBelow.output = some "gen/nodes.h")
      hDone hKept
  refine
    ⟨rfl, rfl, hDone, hKept, ?_, hAgain.1, hAgain.2⟩
  intro hSame
  have hLength :=
    congrArg (fun host => host.tree.entries.length) hSame
  exact absurd hLength (by decide)

end FileStore

end StreamOverloads
