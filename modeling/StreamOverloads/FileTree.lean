import StreamOverloads.Bytes
import StreamOverloads.Fault
import StreamOverloads.Path

/-
  Trees of files and directories, without links.

  A tree is a table from locations to entries, together with
  the directory that relative paths start from. Looking up a
  path takes one step after another, and every step needs a
  directory to start in. Writing a file first makes the
  directories above it, and what was made stays even if the
  writing fails later.

  Key definitions include:
    * `StreamOverloads.FileTree`
    * `StreamOverloads.FileTree.entry?`
    * `StreamOverloads.FileTree.locate`
    * `StreamOverloads.FileTree.read`
    * `StreamOverloads.FileTree.makeDirectory`
    * `StreamOverloads.FileTree.makeDirectories`
    * `StreamOverloads.FileTree.put`
    * `StreamOverloads.FileTree.write`
-/

------------------------------------------------------------
-- Trees
------------------------------------------------------------

namespace StreamOverloads

/-
  A place in a tree: the names that lead to it from the root,
  last one first. The root is the empty list.
-/
abbrev Location : Type := List Piece

/- What a location holds. -/
inductive Entry where
  | file (data : Bytes)
  | directory
  deriving DecidableEq

/- A tree, and the directory that relative paths start from. -/
structure FileTree where
  entries : List (Location × Entry)
  workDir : Location
  deriving DecidableEq

namespace FileTree

/- The entry at a location. The root is a directory. -/
def entry?
    (tree : FileTree)
    (place : Location) : Option Entry :=
  if place = [] then
    some .directory
  else
    tree.entries.lookup place

/-
  Set the entry of a location in a table: where the location
  stands, or at the end if it is new.
-/
def setEntry
    (place : Location)
    (entry : Entry) :
    List (Location × Entry) → List (Location × Entry)
  | [] => [(place, entry)]
  | (other, held) :: rest =>
      if other = place then
        (place, entry) :: rest
      else
        (other, held) :: setEntry place entry rest

/- Set the entry at a location. -/
def set
    (tree : FileTree)
    (place : Location)
    (entry : Entry) : FileTree :=
  { tree with entries := setEntry place entry tree.entries }

end FileTree

end StreamOverloads

------------------------------------------------------------
-- Looking Up
------------------------------------------------------------

namespace StreamOverloads

namespace FileTree

/- The longest name of an entry, in bytes. -/
def nameLimit : Nat := 255

/- The longest path that is looked up, in bytes. -/
def pathLimit : Nat := 4095

/- The entry at a location, unless its name is too long. -/
def probe
    (tree : FileTree)
    (place : Location) : Except Fault (Option Entry) :=
  match place with
  | name :: _ =>
      if nameLimit < Piece.byteLength name then
        .error .nameTooLong
      else
        .ok (tree.entry? place)
  | [] => .ok (tree.entry? place)

/- Take one step from a location. -/
def advance
    (tree : FileTree)
    (place : Location)
    (step : Path.Step) : Except Fault Location :=
  match tree.entry? place with
  | none => .error .missing
  | some (.file _) => .error .notDirectory
  | some .directory =>
      match step with
      | .stay => .ok place
      | .up => .ok place.tail
      | .enter name =>
          match tree.probe (name :: place) with
          | .error fault => .error fault
          | .ok none => .error .missing
          | .ok (some _) => .ok (name :: place)

/- Take steps one after another. -/
def follow
    (tree : FileTree) :
    Location → List Path.Step → Except Fault Location
  | place, [] => .ok place
  | place, step :: rest =>
      match tree.advance place step with
      | .error fault => .error fault
      | .ok next => tree.follow next rest

/- Where the steps of a path start. -/
def origin
    (tree : FileTree)
    (path : Path) : Location :=
  match path.lead with
  | .root => []
  | _ => tree.workDir

/- Why a path cannot be looked up in any tree, if so. -/
def refusal?
    (path : Path) : Option Fault :=
  if path.holdsNul then some .nulInName
  else if path.isVoid then some .missing
  else if pathLimit < path.byteLength then some .nameTooLong
  else none

/-
  The location that a path leads to. A slash at the end asks
  for a directory, just as a step that stays does.
-/
def locate
    (tree : FileTree)
    (path : Path) : Except Fault Location :=
  match refusal? path with
  | some fault => .error fault
  | none =>
      tree.follow (tree.origin path)
        (path.steps ++
          if path.endsInSlash then [.stay] else [])

/- Whether a path leads to a directory. -/
def isDirectory
    (tree : FileTree)
    (path : Path) : Bool :=
  match tree.locate path with
  | .error _ => false
  | .ok place => tree.entry? place == some .directory

/- The bytes of the file that a path leads to. -/
def read
    (tree : FileTree)
    (path : Path) : Except Fault Bytes :=
  match tree.locate path with
  | .error fault => .error fault
  | .ok place =>
      match tree.entry? place with
      | some (.file data) => .ok data
      | some .directory => .error .isDirectory
      | none => .error .missing

end FileTree

end StreamOverloads

------------------------------------------------------------
-- Making And Writing
------------------------------------------------------------

namespace StreamOverloads

namespace FileTree

/-
  The location that a new entry at a path would get, once all
  steps but the last are taken. A path whose last step is not
  a name leads to a directory that exists, and gives none.
-/
def target
    (tree : FileTree)
    (path : Path) : Except Fault (Option Location) :=
  match refusal? path with
  | some fault => .error fault
  | none =>
      match path.steps.getLast? with
      | none => .ok none
      | some last =>
          match
            tree.follow (tree.origin path)
              (path.steps.dropLast ++ [.stay])
          with
          | .error fault => .error fault
          | .ok above =>
              match last with
              | .enter name => .ok (some (name :: above))
              | _ => .ok none

/- Make one directory, in one that exists. -/
def makeDirectory
    (tree : FileTree)
    (path : Path) : Except Fault FileTree :=
  match tree.target path with
  | .error fault => .error fault
  | .ok none => .error .occupied
  | .ok (some place) =>
      match tree.probe place with
      | .error fault => .error fault
      | .ok (some _) => .error .occupied
      | .ok none => .ok (tree.set place .directory)

/-
  Make a directory or find it made already. The tree is kept
  if that fails.
-/
def ensureDirectory
    (tree : FileTree)
    (path : Path) : FileTree × Except Fault Unit :=
  match tree.makeDirectory path with
  | .ok made => (made, .ok ())
  | .error fault =>
      if tree.isDirectory path then
        (tree, .ok ())
      else
        (tree, .error fault)

/-
  Make a directory and, where they are missing, those above
  it. Paths are given nearest first. Only a path that leads
  through something missing turns to the next one.
-/
def makeDirectories
    (tree : FileTree) :
    List Path → FileTree × Except Fault Unit
  | [] => (tree, .ok ())
  | path :: above =>
      match tree.makeDirectory path with
      | .error .missing =>
          match tree.makeDirectories above with
          | (made, .error fault) => (made, .error fault)
          | (made, .ok ()) => made.ensureDirectory path
      | _ => tree.ensureDirectory path

/-
  Give a file its bytes, in a directory that exists. The file
  may be new; a directory is never replaced, and a path that
  ends in a slash asks for one.
-/
def put
    (tree : FileTree)
    (path : Path)
    (data : Bytes) : Except Fault FileTree :=
  match tree.target path with
  | .error fault => .error fault
  | .ok none => .error .isDirectory
  | .ok (some place) =>
      if path.endsInSlash then
        .error .isDirectory
      else
        match tree.probe place with
        | .error fault => .error fault
        | .ok (some .directory) => .error .isDirectory
        | .ok _ => .ok (tree.set place (.file data))

/- Write a file, with the directories above it. -/
def write
    (tree : FileTree)
    (path : Path)
    (data : Bytes) : FileTree × Except Fault Unit :=
  match tree.makeDirectories path.ancestors with
  | (made, .error fault) => (made, .error fault)
  | (made, .ok ()) =>
      match made.put path data with
      | .error fault => (made, .error fault)
      | .ok written => (written, .ok ())

end FileTree

end StreamOverloads

------------------------------------------------------------
-- Setting Up And Listing
------------------------------------------------------------

namespace StreamOverloads

namespace FileTree

/- A location and those above it, each as a directory. -/
def directoriesTo : Location → List (Location × Entry)
  | [] => []
  | name :: above =>
      directoriesTo above ++ [(name :: above, .directory)]

/- A tree that holds nothing but its working directory. -/
def ofWorkDir
    (workDir : Location) : FileTree :=
  { entries := directoriesTo workDir
    workDir := workDir }

/-
  What a location is called from a directory that it lies in;
  the directory itself has no such name.
-/
def relative?
    (directory place : Location) : Option Location :=
  let names :=
    place.take (place.length - directory.length)
  if names ≠ [] ∧ names ++ directory = place then
    some names
  else
    none

/- All that lies in the working directory, by name there. -/
def listing
    (tree : FileTree) : List (Location × Entry) :=
  tree.entries.filterMap fun (place, entry) =>
    (relative? tree.workDir place).map fun names =>
      (names, entry)

end FileTree

/- The text of a location, its names joined by slashes. -/
def Location.text
    (place : Location) : String :=
  String.ofList (List.intercalate ['/'] place.reverse)

end StreamOverloads
