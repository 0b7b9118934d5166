import StreamOverloads.Proofs.Stages.Run
import StreamOverloads.Store.Files

/-
  How a run over files and standard streams ends.

  A run takes the header from the input and delivers the
  amended header to the output. A file is read without a
  change, standard input is used up. A file is written in the
  tree and nowhere else, standard output only grows. Only
  files can fail.

  Key definitions include:
    * `FileStore.run`
    * `FileStore.header`
    * `FileStore.afterRead`
    * `FileStore.delivery`

  Main declarations:
    * `FileStore.ending_run_of_header_error`
    * `FileStore.ending_run_of_header_ok`
    * `FileStore.ending_run_of_paths`
-/

------------------------------------------------------------
-- Reading And Writing
------------------------------------------------------------

namespace StreamOverloads

namespace FileStore

/- A run over a file store. -/
def run
    (files : FileStore) : Action Host Stats :=
  (Stages.ofStore files.store).run

/- The header that is read. -/
def header
    (files : FileStore)
    (host : Host) : Except Fault Bytes :=
  match files.input with
  | some path => host.tree.read (Path.ofText path)
  | none => .ok host.stdin

/- The host once the header is read. -/
def afterRead
    (files : FileStore)
    (host : Host) : Host :=
  match files.input with
  | some _ => host
  | none => { host with stdin := [] }

/- The host once bytes are written, or writing failed. -/
def delivery
    (files : FileStore)
    (data : Bytes)
    (host : Host) : Host × Except Fault Unit :=
  match files.output with
  | some path =>
      ({ host with
          tree :=
            (host.tree.write (Path.ofText path) data).1 },
        (host.tree.write (Path.ofText path) data).2)
  | none =>
      ({ host with stdout := host.stdout ++ data }, .ok ())

variable {files : FileStore}
variable {host : Host}
variable {data : Bytes}

theorem ending_read
    (files : FileStore)
    (host : Host) :
    (files.store.read host).ending =
      ((files.header host).mapError Failure.io,
        files.afterRead host) := by
  change (files.read host).ending = _
  unfold read header afterRead
  cases files.input with
  | none => rfl
  | some path => rfl

theorem ending_write
    (files : FileStore)
    (data : Bytes)
    (host : Host) :
    (files.store.write data host).ending =
      ((files.delivery data host).2.mapError Failure.io,
        (files.delivery data host).1) := by
  change (files.write data host).ending = _
  unfold write delivery
  cases files.output with
  | none => rfl
  | some path =>
      cases hResult :
          (host.tree.write (Path.ofText path) data).2 with
      | error fault =>
          apply Action.ending_bind_of_error
          rw [Action.ending_ofChange, toFile, hResult]
          rfl
      | ok done =>
          have hChange :
              (Action.ofChange
                  (toFile path data) host).ending =
                (.ok done,
                  { host with
                    tree :=
                      (host.tree.write
                        (Path.ofText path) data).1 }) := by
            rw [Action.ending_ofChange, toFile, hResult]
            rfl
          exact Action.ending_bind_of_ok hChange _

theorem result_write_eq_ok_iff :
    (files.store.write data host).result = .ok () ↔
      (files.delivery data host).2 = .ok () := by
  rw [Outcome.result_of_ending
    (ending_write files data host)]
  cases (files.delivery data host).2 with
  | error fault =>
      constructor
      · intro hOk
        cases hOk
      · intro hOk
        cases hOk
  | ok done =>
      constructor
      · intro _
        rfl
      · intro _
        rfl

/- Only a fault of the delivery keeps bytes unwritten. -/
theorem exists_fault_of_result_write_eq_error
    {failure : Failure}
    (hFailed :
      (files.store.write data host).result =
        .error failure) :
    ∃ fault,
      (files.delivery data host).2 = .error fault := by
  rw [Outcome.result_of_ending
    (ending_write files data host)] at hFailed
  cases hDelivery : (files.delivery data host).2 with
  | error fault => exact ⟨fault, rfl⟩
  | ok done =>
      rw [hDelivery] at hFailed
      cases hFailed

/- Reading the header touches neither files nor output. -/
@[simp] theorem tree_afterRead
    (files : FileStore)
    (host : Host) :
    (files.afterRead host).tree = host.tree := by
  unfold afterRead
  cases files.input <;> rfl

@[simp] theorem stdout_afterRead
    (files : FileStore)
    (host : Host) :
    (files.afterRead host).stdout = host.stdout := by
  unfold afterRead
  cases files.input <;> rfl

/- Reading the header does not change how a delivery ends. -/
theorem delivery_afterRead
    (files : FileStore)
    (data : Bytes)
    (host : Host) :
    (files.delivery data (files.afterRead host)).2 =
      (files.delivery data host).2 := by
  unfold delivery
  cases files.output with
  | none => rfl
  | some path => simp only [tree_afterRead]

end FileStore

end StreamOverloads

------------------------------------------------------------
-- Runs
------------------------------------------------------------

namespace StreamOverloads

namespace FileStore

variable {files : FileStore}
variable {input output : String}
variable {host : Host}
variable {data : Bytes}

/- A run that cannot read its header ends with that failure. -/
theorem ending_run_of_header_error
    {fault : Fault}
    (hHeader : files.header host = .error fault) :
    (files.run host).ending =
      (.error (.io fault), files.afterRead host) := by
  apply Stages.ending_run_of_read_error
  rw [ending_read, hHeader]
  rfl

/- A run that can read its header ends as its delivery does. -/
theorem ending_run_of_header_ok
    (hHeader : files.header host = .ok data) :
    (files.run host).ending =
      (((files.delivery
            (AmendedHeader.ofHeader data).toBytes
            (files.afterRead host)).2.mapError
          Failure.io).map
          fun _ => (AmendedHeader.ofHeader data).stats,
        (files.delivery
          (AmendedHeader.ofHeader data).toBytes
          (files.afterRead host)).1) := by
  have hGiven :
      (files.store.read host).ending =
        (.ok data, files.afterRead host) := by
    rw [ending_read, hHeader]
    rfl
  have hTaken :=
    ending_write files
      (AmendedHeader.ofHeader data).toBytes
      (files.afterRead host)
  cases hResult :
      (files.delivery
        (AmendedHeader.ofHeader data).toBytes
        (files.afterRead host)).2 with
  | error fault =>
      rw [hResult] at hTaken
      exact Stages.ending_run_of_write_error hGiven hTaken
  | ok done =>
      rw [hResult] at hTaken
      exact Stages.ending_run_of_write_ok hGiven hTaken

/-
  After the source is read, the written file decides the
  result and the tree.
-/
theorem ending_run_of_paths
    (hInput : files.input = some input)
    (hOutput : files.output = some output)
    (hRead :
      host.tree.read (Path.ofText input) = .ok data) :
    (files.run host).ending =
      (((host.tree.write (Path.ofText output)
            (AmendedHeader.ofHeader
              data).toBytes).2.mapError Failure.io).map
          fun _ => (AmendedHeader.ofHeader data).stats,
        { host with
          tree :=
            (host.tree.write (Path.ofText output)
              (AmendedHeader.ofHeader
                data).toBytes).1 }) := by
  have hHeader : files.header host = .ok data := by
    unfold header
    rw [hInput]
    exact hRead
  rw [ending_run_of_header_ok hHeader]
  simp only [delivery, afterRead, hInput, hOutput]

/- A run succeeds exactly if its file can be written. -/
theorem exists_result_run_eq_ok_iff
    (hInput : files.input = some input)
    (hOutput : files.output = some output)
    (hRead :
      host.tree.read (Path.ofText input) = .ok data) :
    (∃ stats, (files.run host).result = .ok stats) ↔
      (host.tree.write (Path.ofText output)
          (AmendedHeader.ofHeader data).toBytes).2 =
        .ok () := by
  rw [Outcome.result_of_ending
    (ending_run_of_paths hInput hOutput hRead)]
  cases (host.tree.write (Path.ofText output)
      (AmendedHeader.ofHeader data).toBytes).2 with
  | error fault =>
      constructor
      · rintro ⟨stats, hOk⟩
        cases hOk
      · intro hOk
        cases hOk
  | ok done =>
      constructor
      · intro _
        rfl
      · intro _
        exact ⟨_, rfl⟩

/- A host with one header in its working directory. -/
def sampleHost : Host where
  tree :=
    { entries :=
        [(["work".toList], .directory),
          (["nodes.h".toList, "work".toList],
            .file (Bytes.ofText "int x;\n"))]
      workDir := ["work".toList] }
  stdin := []
  stdout := []

end FileStore

end StreamOverloads
