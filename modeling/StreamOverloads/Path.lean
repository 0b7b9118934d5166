/-
  Paths of files.

  A path is text that slashes cut into pieces. How it starts
  decides whether it leads from the root or from the working
  directory. Two readings of the pieces are used: components,
  by which paths are compared, and steps, by which a file is
  looked up. Empty pieces say nothing in either. A piece that
  is one dot is no component, unless the path starts with it,
  but it is a step: what it stays in must be a directory.

  Key definitions include:
    * `StreamOverloads.Path`
    * `StreamOverloads.Path.ofText`
    * `StreamOverloads.Path.components`
    * `StreamOverloads.Path.steps`
    * `StreamOverloads.Path.ancestors`
-/

------------------------------------------------------------
-- Pieces
------------------------------------------------------------

namespace StreamOverloads

/- The text between two slashes of a path. -/
abbrev Piece : Type := List Char

namespace Piece

/- The length of characters in bytes of UTF-8. -/
def byteLength : List Char → Nat
  | [] => 0
  | char :: rest => char.utf8Size + byteLength rest

/- The piece that is one dot. -/
def dot : Piece := ['.']

/- The piece that is two dots. -/
def dotDot : Piece := ['.', '.']

/- A piece that names nothing: no text, or one dot. -/
def isVacant
    (piece : Piece) : Bool :=
  piece == [] || piece == dot

variable {piece : Piece}

theorem isVacant_iff :
    piece.isVacant = true ↔ piece = [] ∨ piece = dot := by
  simp [isVacant]

theorem not_isVacant_iff :
    piece.isVacant = false ↔ piece ≠ [] ∧ piece ≠ dot := by
  simp [isVacant]

end Piece

end StreamOverloads

------------------------------------------------------------
-- Paths
------------------------------------------------------------

namespace StreamOverloads

/-
  How a path starts: with a slash, with a piece that is one
  dot, or with anything else.
-/
inductive Lead where
  | root
  | here
  | plain
  deriving DecidableEq

/-
  A path: how it starts, and the pieces after that. After a
  leading slash or dot the slash that follows it is not a
  piece of its own.
-/
structure Path where
  lead : Lead
  body : List Piece
  deriving DecidableEq

namespace Path

/- The path that pieces make up. -/
def ofPieces : List Piece → Path
  | [] :: first :: rest =>
      { lead := .root, body := first :: rest }
  | ['.'] :: rest => { lead := .here, body := rest }
  | body => { lead := .plain, body := body }

/- Read a path. -/
def ofText
    (text : String) : Path :=
  ofPieces (text.toList.splitOn '/')

/- The characters of a path. -/
def toChars
    (path : Path) : List Char :=
  match path.lead with
  | .root => '/' :: List.intercalate ['/'] path.body
  | .here => List.intercalate ['/'] (Piece.dot :: path.body)
  | .plain => List.intercalate ['/'] path.body

/- The length of a path in bytes of UTF-8. -/
def byteLength
    (path : Path) : Nat :=
  Piece.byteLength path.toChars

/- Whether a path holds the NUL character. -/
def holdsNul
    (path : Path) : Bool :=
  path.body.any fun piece => piece.contains '\x00'

/- Whether a path ends in a slash. -/
def endsInSlash
    (path : Path) : Bool :=
  path.body.getLast? == some []

end Path

end StreamOverloads

------------------------------------------------------------
-- Components
------------------------------------------------------------

namespace StreamOverloads

namespace Path

/- What a path is compared by. -/
inductive Component where
  | root
  | here
  | up
  | name (piece : Piece)
  deriving DecidableEq

/- The component that a piece stands for, if any. -/
def component?
    (piece : Piece) : Option Component :=
  if piece.isVacant then none
  else if piece = Piece.dotDot then some .up
  else some (.name piece)

/- The component that the start of a path stands for. -/
def leadComponent : Lead → List Component
  | .root => [.root]
  | .here => [.here]
  | .plain => []

/- The components of a path. -/
def components
    (path : Path) : List Component :=
  leadComponent path.lead ++
    path.body.filterMap component?

/- Two texts that are one path, component by component. -/
def SameComponents
    (left right : String) : Prop :=
  (ofText left).components = (ofText right).components

instance (left right : String) :
    Decidable (SameComponents left right) :=
  inferInstanceAs
    (Decidable
      ((ofText left).components =
        (ofText right).components))

end Path

end StreamOverloads

------------------------------------------------------------
-- Steps
------------------------------------------------------------

namespace StreamOverloads

namespace Path

/- What one piece does when a file is looked up. -/
inductive Step where
  | stay
  | up
  | enter (name : Piece)
  deriving DecidableEq

/- The step that a piece stands for; an empty one is none. -/
def step?
    (piece : Piece) : Option Step :=
  if piece = [] then none
  else if piece = Piece.dot then some .stay
  else if piece = Piece.dotDot then some .up
  else some (.enter piece)

/- The step that the start of a path stands for. -/
def leadStep : Lead → List Step
  | .here => [.stay]
  | .root => []
  | .plain => []

/- The steps of a path. -/
def steps
    (path : Path) : List Step :=
  leadStep path.lead ++ path.body.filterMap step?

/- Whether a path says nothing at all. -/
def isVoid
    (path : Path) : Bool :=
  path.lead == .plain && path.steps.isEmpty

end Path

end StreamOverloads

------------------------------------------------------------
-- Ancestors
------------------------------------------------------------

namespace StreamOverloads

namespace Path

/-
  Pieces given last one first: all that is left of them when
  they lose their last name again and again. Nothing in the
  list ends in a vacant piece.
-/
def shortened : List Piece → List (List Piece)
  | [] => []
  | piece :: rest =>
      if piece.isVacant then
        shortened rest
      else
        (piece :: rest) :: shortened rest

/-
  The paths above a path, nearest first, as far as they have
  any text. A path without a name after its start has none.
-/
def ancestors
    (path : Path) : List Path :=
  match shortened path.body.reverse with
  | [] => []
  | _ :: above =>
      let within :=
        above.map fun pieces =>
          { path with body := pieces.reverse }
      match path.lead with
      | .plain => within
      | lead => within ++ [{ lead := lead, body := [] }]

end Path

end StreamOverloads
