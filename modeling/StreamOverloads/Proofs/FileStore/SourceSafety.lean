import StreamOverloads.Proofs.AmendedHeader.Repetition
import StreamOverloads.Proofs.Config.Check
import StreamOverloads.Proofs.FileStore.Runs
import StreamOverloads.Proofs.FileTree.Writing
import StreamOverloads.Proofs.Path.Destination

/-
  Whether a run keeps the file that it reads.

  A run over two files loses its source exactly if it
  succeeds and both paths name one place. The check of a
  configuration compares components, so it rules this out
  for paths that start alike and never go up, but accepts
  other spellings of the same place.

  Main declarations:
    * `FileStore.read_input_run_of_same`
    * `FileStore.read_input_run_iff`
    * `FileStore.input_overwritten_by_other_spelling`
-/

------------------------------------------------------------
-- Runs Over Two Files
------------------------------------------------------------

namespace StreamOverloads

namespace FileStore

variable {files : FileStore}
variable {input output : String}
variable {host : Host}
variable {data : Bytes}

/- What reading the source gives is decided by its place. -/
theorem read_input_run_eq_ok_iff_entry
    (hInput : files.input = some input)
    (hOutput : files.output = some output)
    (hRead :
      host.tree.read (Path.ofText input) = .ok data)
    (other : Bytes) :
    (files.run host).state.tree.read (Path.ofText input) =
        .ok other ↔
      FileTree.entry?
          (host.tree.write (Path.ofText output)
            (AmendedHeader.ofHeader data).toBytes).1
          (host.tree.destination (Path.ofText input)) =
        some (.file other) := by
  rw [Outcome.state_of_ending
    (ending_run_of_paths hInput hOutput hRead)]
  exact
    (FileTree.sustains_write host.tree _ _).read_eq_ok_iff
      hRead

/- A run that fails or writes elsewhere keeps the source. -/
theorem read_input_run_of_not
    (hInput : files.input = some input)
    (hOutput : files.output = some output)
    (hRead :
      host.tree.read (Path.ofText input) = .ok data)
    (hNot :
      ¬ ((∃ stats, (files.run host).result = .ok stats) ∧
          host.tree.destination (Path.ofText input) =
            host.tree.destination (Path.ofText output))) :
    (files.run host).state.tree.read (Path.ofText input) =
      .ok data := by
  rw [exists_result_run_eq_ok_iff hInput hOutput hRead]
    at hNot
  rw [read_input_run_eq_ok_iff_entry hInput hOutput hRead]
  have hEntry := (FileTree.read_eq_ok_iff.mp hRead).2
  -- On one place, only a write that fails is left.
  by_cases hPlace :
      host.tree.destination (Path.ofText input) =
        host.tree.destination (Path.ofText output)
  · cases hResult :
        (host.tree.write (Path.ofText output)
          (AmendedHeader.ofHeader data).toBytes).2 with
    | error fault =>
        exact
          (FileTree.addsDirectories_write_of_error
            hResult).keeps _ _ hEntry
    | ok done => exact (hNot ⟨hResult, hPlace⟩).elim
  · exact FileTree.entry?_write_of_ne hPlace hEntry _

/- A run that succeeds on one place replaces the source. -/
theorem read_input_run_of_same
    (hInput : files.input = some input)
    (hOutput : files.output = some output)
    (hRead :
      host.tree.read (Path.ofText input) = .ok data)
    (hDone : ∃ stats, (files.run host).result = .ok stats)
    (hPlace :
      host.tree.destination (Path.ofText input) =
        host.tree.destination (Path.ofText output)) :
    (files.run host).state.tree.read (Path.ofText input) =
      .ok (AmendedHeader.ofHeader data).toBytes := by
  rw [exists_result_run_eq_ok_iff hInput hOutput hRead]
    at hDone
  rw [read_input_run_eq_ok_iff_entry hInput hOutput hRead,
    hPlace]
  exact FileTree.entry?_write_of_ok hDone

end FileStore

end StreamOverloads

------------------------------------------------------------
-- Keeping The Source
------------------------------------------------------------

namespace StreamOverloads

namespace FileStore

variable {config : Config}
variable {input output : String}
variable {host : Host}
variable {data : Bytes}

/-
  With an accepted configuration, reading the source after a
  run gives what it gave before, unless the run succeeds and
  both paths name one place: then it gives the amended
  header. Paths that start alike and never go up name two
  places.
-/
theorem read_input_run_iff
    (hInput : config.input = some input)
    (hOutput : config.output = some output)
    (hAccepted : config.check = .ok ())
    (hRead :
      host.tree.read (Path.ofText input) = .ok data) :
    (((ofConfig config).run host).state.tree.read
          (Path.ofText input) =
        .ok data ↔
      ¬ ((∃ stats,
            ((ofConfig config).run host).result =
              .ok stats) ∧
          host.tree.destination (Path.ofText input) =
            host.tree.destination (Path.ofText output))) ∧
      (((ofConfig config).run host).state.tree.read
            (Path.ofText input) ≠
          .ok data →
        ((ofConfig config).run host).state.tree.read
            (Path.ofText input) =
          .ok (AmendedHeader.ofHeader data).toBytes) ∧
      ((Path.ofText input).lead =
          (Path.ofText output).lead →
        (Path.ofText input).IsDescending →
        (Path.ofText output).IsDescending →
        ((ofConfig config).run host).state.tree.read
            (Path.ofText input) =
          .ok data) := by
  have hFrom : (ofConfig config).input = some input :=
    hInput
  have hTo : (ofConfig config).output = some output :=
    hOutput
  refine ⟨⟨?_, ?_⟩, ?_, ?_⟩
  · -- A replaced source cannot look as it did before.
    rintro hKept ⟨hDone, hPlace⟩
    have hReplaced :=
      read_input_run_of_same hFrom hTo hRead hDone hPlace
    rw [hKept] at hReplaced
    exact
      AmendedHeader.toBytes_ofHeader_ne data
        (Except.ok.inj hReplaced).symm
  · intro hNot
    exact read_input_run_of_not hFrom hTo hRead hNot
  · intro hLost
    by_cases hBoth :
        (∃ stats,
            ((ofConfig config).run host).result =
              .ok stats) ∧
          host.tree.destination (Path.ofText input) =
            host.tree.destination (Path.ofText output)
    · exact
        read_input_run_of_same hFrom hTo hRead hBoth.1
          hBoth.2
    · have hKept :=
        read_input_run_of_not hFrom hTo hRead hBoth
      exact (hLost hKept).elim
  · intro hLead hInputDescends hOutputDescends
    apply read_input_run_of_not hFrom hTo hRead
    rintro ⟨_, hPlace⟩
    exact
      Config.components_ne_of_check_eq_ok hInput hOutput
        hAccepted
        (FileTree.components_eq_of_destination_eq hLead
          hInputDescends hOutputDescends hPlace)

/- Writing into a new directory keeps the source. -/
theorem read_input_run_iff_new_directory :
    Config.check ⟨some "nodes.h", some "gen/nodes.h", true⟩ =
        .ok () ∧
      sampleHost.tree.read (Path.ofText "nodes.h") =
        .ok (Bytes.ofText "int x;\n") ∧
      ((ofConfig
            ⟨some "nodes.h", some "gen/nodes.h", true⟩).run
          sampleHost).state.tree.read
          (Path.ofText "nodes.h") =
        .ok (Bytes.ofText "int x;\n") := by
  have hAccepted :
      Config.check
          ⟨some "nodes.h", some "gen/nodes.h", true⟩ =
        .ok () := by
    rfl
  have hRead :
      sampleHost.tree.read (Path.ofText "nodes.h") =
        .ok (Bytes.ofText "int x;\n") := by
    rfl
  exact
    ⟨hAccepted, hRead,
      (read_input_run_iff rfl rfl hAccepted hRead).2.2
        (by decide) (by decide) (by decide)⟩

/-
  The check accepts another spelling of the input as output,
  and the run replaces the input by its amended header.
-/
theorem input_overwritten_by_other_spelling :
    Config.check ⟨some "nodes.h", some "./nodes.h", false⟩ =
        .ok () ∧
      sampleHost.tree.read (Path.ofText "nodes.h") =
        .ok (Bytes.ofText "int x;\n") ∧
      ((ofConfig
            ⟨some "nodes.h", some "./nodes.h", false⟩).run
          sampleHost).state.tree.read
          (Path.ofText "nodes.h") ≠
        .ok (Bytes.ofText "int x;\n") := by
  have hReplaced :
      ((ofConfig
            ⟨some "nodes.h", some "./nodes.h", false⟩).run
          sampleHost).state.tree.read
          (Path.ofText "nodes.h") =
        .ok
          (Line.join
            (forwardLines ++ [Bytes.ofText "int x;"])) := by
    rfl
  refine ⟨rfl, rfl, ?_⟩
  rw [hReplaced]
  intro hSame
  exact absurd (Except.ok.inj hSame) (by decide)

end FileStore

end StreamOverloads
