import StreamOverloads.Line
import StreamOverloads.Proofs.Bytes.Trimming

/-
  Dividing a header and joining lines undo each other.

  A line that holds no line feed is unbroken. Joined
  unbroken lines are divided into the same lines again, each
  with its line feed, so that joining them loses nothing.

  Key definitions include:
    * `Line.IsUnbroken`
    * `Line.terminated`

  Main declarations:
    * `Line.divide_join`
    * `Line.join_inj`
-/

------------------------------------------------------------
-- Unbroken Lines
------------------------------------------------------------

namespace StreamOverloads

namespace Line

/- A line that holds no line feed. -/
def IsUnbroken
    (line : Line) : Prop :=
  Bytes.lineFeed ∉ line

instance (line : Line) : Decidable line.IsUnbroken :=
  inferInstanceAs (Decidable (Bytes.lineFeed ∉ line))

/- A line with a line feed after it. -/
def terminated
    (line : Line) : Line :=
  line ++ [Bytes.lineFeed]

theorem terminated_injective :
    Function.Injective terminated := by
  intro left right hEq
  exact List.append_cancel_right hEq

/- A part of an unbroken line is unbroken. -/
theorem IsUnbroken.of_subset
    {part line : Line}
    (hLine : line.IsUnbroken)
    (hPart : part ⊆ line) :
    part.IsUnbroken := by
  intro hMember
  exact hLine (hPart hMember)

/- An unbroken line is unbroken byte by byte. -/
theorem isUnbroken_cons_iff
    (byte : UInt8)
    (line : Line) :
    IsUnbroken (byte :: line) ↔
      byte ≠ Bytes.lineFeed ∧ line.IsUnbroken := by
  rw [IsUnbroken, List.mem_cons, not_or]
  exact and_congr_left' ne_comm

/- A line feed does not change what trimming leaves. -/
@[simp] theorem trimEnd_terminated
    (line : Line) :
    Bytes.trimEnd line.terminated = Bytes.trimEnd line :=
  Bytes.trimEnd_append_of_isBlank line
    Bytes.isBlank_lineFeed

/- A line feed does not change what trimming leaves. -/
@[simp] theorem trim_terminated
    (line : Line) :
    Bytes.trim line.terminated = Bytes.trim line :=
  Bytes.trim_append_of_isBlank line
    Bytes.isBlank_lineFeed

end Line

end StreamOverloads

------------------------------------------------------------
-- Joining And Dividing
------------------------------------------------------------

namespace StreamOverloads

namespace Line

@[simp] theorem join_nil :
    join [] = [] := by
  rfl

@[simp] theorem join_cons
    (line : Line)
    (lines : List Line) :
    join (line :: lines) =
      line.terminated ++ join lines := by
  rfl

@[simp] theorem join_append
    (left right : List Line) :
    join (left ++ right) = join left ++ join right := by
  exact List.flatMap_append

theorem join_eq_flatten
    (lines : List Line) :
    join lines = (lines.map terminated).flatten :=
  List.flatMap_def

/- Joined lines end in a line feed. -/
theorem getLast?_join
    {lines : List Line}
    (hLines : lines ≠ []) :
    (join lines).getLast? = some Bytes.lineFeed := by
  rcases List.eq_nil_or_concat lines with
    hNil | ⟨front, line, rfl⟩
  · exact (hLines hNil).elim
  · simp [terminated, ← List.append_assoc]

theorem divide_cons
    (byte : UInt8)
    (data : Bytes) :
    divide (byte :: data) = attach byte (divide data) := by
  rfl

/- A line feed is a line of its own. -/
theorem attach_lineFeed
    (lines : List Line) :
    attach Bytes.lineFeed lines =
      [Bytes.lineFeed] :: lines := by
  rfl

/- A byte that is no line feed is a line if none follows. -/
theorem attach_nil_of_ne
    {byte : UInt8}
    (hByte : byte ≠ Bytes.lineFeed) :
    attach byte [] = [[byte]] := by
  simp [attach, hByte]

/- A byte that is no line feed opens the line after it. -/
theorem attach_of_ne
    {byte : UInt8}
    (hByte : byte ≠ Bytes.lineFeed)
    (line : Line)
    (rest : List Line) :
    attach byte (line :: rest) =
      (byte :: line) :: rest := by
  simp [attach, hByte]

/- The first line feed ends the first line. -/
theorem divide_terminated_append
    {line : Line}
    (hLine : line.IsUnbroken)
    (data : Bytes) :
    divide (line.terminated ++ data) =
      line.terminated :: divide data := by
  induction line with
  | nil => rfl
  | cons byte line ih =>
      rcases (isUnbroken_cons_iff byte line).mp hLine with
        ⟨hByte, hRest⟩
      change
        attach byte (divide (terminated line ++ data)) =
          (byte :: terminated line) :: divide data
      rw [ih hRest, attach_of_ne hByte]

/- Joined unbroken lines are divided where they were joined. -/
theorem divide_join
    {lines : List Line}
    (hLines : ∀ line ∈ lines, line.IsUnbroken) :
    divide (join lines) = lines.map terminated := by
  induction lines with
  | nil => rfl
  | cons line lines ih =>
      have hLine : line.IsUnbroken :=
        hLines line List.mem_cons_self
      have hRest : ∀ other ∈ lines, other.IsUnbroken := by
        intro other hOther
        exact
          hLines other (List.mem_cons_of_mem line hOther)
      rw [join_cons, divide_terminated_append hLine,
        ih hRest, List.map_cons]

/- Joining loses nothing of unbroken lines. -/
theorem join_inj
    {left right : List Line}
    (hLeft : ∀ line ∈ left, line.IsUnbroken)
    (hRight : ∀ line ∈ right, line.IsUnbroken) :
    join left = join right ↔ left = right := by
  constructor
  · intro hEq
    have hDivided := congrArg divide hEq
    rw [divide_join hLeft, divide_join hRight] at hDivided
    exact List.map_injective_iff.mpr terminated_injective
      hDivided
  · intro hEq
    rw [hEq]

end Line

end StreamOverloads
