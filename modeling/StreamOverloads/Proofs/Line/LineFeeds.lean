import StreamOverloads.Proofs.Line.UniqueDivision

/-
  Counting lines by their line feeds.

  Data is complete if it ends where a line ends. Dividing
  keeps every byte, and it cuts complete data off from what
  follows it. Each line feed stands for one line, and data
  that is not complete has one line more.

  Key definitions include:
    * `Bytes.IsComplete`
    * `Line.content`

  Main declarations:
    * `Line.flatten_divide`
    * `Line.divide_append`
    * `Line.length_divide`
    * `Line.length_divide_append`
    * `Line.count_lineFeed_join`
-/

------------------------------------------------------------
-- Complete Data
------------------------------------------------------------

namespace StreamOverloads

namespace Bytes

/- Data that ends where a line ends. -/
def IsComplete
    (data : Bytes) : Prop :=
  data = [] ∨ data.getLast? = some lineFeed

instance (data : Bytes) : Decidable data.IsComplete := by
  unfold IsComplete
  infer_instance

theorem isComplete_nil :
    IsComplete [] :=
  Or.inl rfl

theorem isComplete_singleton_iff
    (byte : UInt8) :
    IsComplete [byte] ↔ byte = lineFeed := by
  simp [IsComplete]

/- Only the end of data decides whether it is complete. -/
theorem isComplete_append_iff
    (front : Bytes)
    {back : Bytes}
    (hBack : back ≠ []) :
    (front ++ back).IsComplete ↔ back.IsComplete := by
  have hLast :
      (front ++ back).getLast? = back.getLast? :=
    List.getLast?_append_of_ne_nil front hBack
  simp only [IsComplete, hLast, List.append_eq_nil_iff,
    hBack, and_false]

/- A line feed in front does not change completeness. -/
theorem isComplete_lineFeed_cons_iff
    (data : Bytes) :
    IsComplete (lineFeed :: data) ↔ data.IsComplete := by
  cases data with
  | nil => decide
  | cons byte data =>
      exact
        isComplete_append_iff [lineFeed]
          (List.cons_ne_nil byte data)

end Bytes

end StreamOverloads

------------------------------------------------------------
-- Dividing Keeps Every Byte
------------------------------------------------------------

namespace StreamOverloads

namespace Line

theorem attach_ne_nil
    (byte : UInt8)
    (lines : List Line) :
    attach byte lines ≠ [] := by
  unfold attach
  split
  · exact List.cons_ne_nil _ _
  · cases lines <;> exact List.cons_ne_nil _ _

/- Only empty data has no line. -/
theorem divide_eq_nil_iff
    (data : Bytes) :
    divide data = [] ↔ data = [] := by
  cases data with
  | nil => simp [divide]
  | cons byte data =>
      simp [divide_cons, attach_ne_nil]

/- The lines of some data make up that data. -/
theorem flatten_divide
    (data : Bytes) :
    (divide data).flatten = data :=
  (isDivision_divide data).flatten_eq

/- A byte put before lines reaches no line but the first. -/
theorem attach_append
    (byte : UInt8)
    {lines : List Line}
    (hLines : lines ≠ [])
    (rest : List Line) :
    attach byte (lines ++ rest) =
      attach byte lines ++ rest := by
  unfold attach
  split
  · rfl
  · cases lines with
    | nil => exact (hLines rfl).elim
    | cons line lines => rfl

/- Complete data is cut off from what follows it. -/
theorem divide_append_of_isComplete
    {front : Bytes}
    (hFront : front.IsComplete)
    (back : Bytes) :
    divide (front ++ back) =
      divide front ++ divide back := by
  induction front with
  | nil => rfl
  | cons byte front ih =>
      rw [List.cons_append, divide_cons, divide_cons]
      by_cases hEmpty : front = []
      · -- The byte ends the data, so it is a line feed.
        subst hEmpty
        rw [(Bytes.isComplete_singleton_iff byte).mp hFront]
        rfl
      · have hRest : Bytes.IsComplete front :=
          (Bytes.isComplete_append_iff [byte] hEmpty).mp
            hFront
        have hLines : divide front ≠ [] := by
          intro hNone
          exact hEmpty ((divide_eq_nil_iff front).mp hNone)
        rw [ih hRest, attach_append byte hLines]

/-
  Data in two parts has the lines of its parts if it is not
  cut inside a line.
-/
theorem divide_append
    {front back : Bytes}
    (hCut : front.IsComplete ∨ back = []) :
    divide (front ++ back) =
      divide front ++ divide back := by
  rcases hCut with hFront | rfl
  · exact divide_append_of_isComplete hFront back
  · rw [List.append_nil]
    exact (List.append_nil (divide front)).symm

end Line

end StreamOverloads

------------------------------------------------------------
-- Counting Line Feeds
------------------------------------------------------------

namespace StreamOverloads

namespace Line

/- Each line feed of some data ends one of its lines. -/
theorem length_divide
    (data : Bytes) :
    (divide data).length =
      data.count Bytes.lineFeed +
        if data.IsComplete then 0 else 1 := by
  induction data with
  | nil => rfl
  | cons byte data ih =>
      rw [divide_cons]
      by_cases hByte : byte = Bytes.lineFeed
      · subst hByte
        rw [attach_lineFeed, List.length_cons, ih,
          List.count_cons_self]
        simp only [Bytes.isComplete_lineFeed_cons_iff]
        omega
      · rw [List.count_cons_of_ne hByte]
        cases hDivided : divide data with
        | nil =>
            have hEmpty : data = [] :=
              (divide_eq_nil_iff data).mp hDivided
            subst hEmpty
            simp [attach_nil_of_ne hByte, hByte,
              Bytes.isComplete_singleton_iff]
        | cons line rest =>
            have hData : data ≠ [] := by
              rintro rfl
              cases hDivided
            have hSame :
                Bytes.IsComplete (byte :: data) ↔
                  Bytes.IsComplete data :=
              Bytes.isComplete_append_iff [byte] hData
            rw [attach_of_ne hByte, List.length_cons]
            simp only [hSame]
            rw [← ih, hDivided, List.length_cons]

/- A cut inside a line makes two lines of it. -/
theorem length_divide_append
    (front back : Bytes) :
    (divide (front ++ back)).length +
        (if front.IsComplete ∨ back = [] then 0 else 1) =
      (divide front).length + (divide back).length := by
  by_cases hBack : back = []
  · subst hBack
    simp [divide]
  · have hEnd :
        (front ++ back).IsComplete ↔ back.IsComplete :=
      Bytes.isComplete_append_iff front hBack
    rw [length_divide, length_divide, length_divide,
      List.count_append]
    simp only [hEnd, hBack, or_false]
    omega

/- An unbroken line with its line feed has no other one. -/
theorem count_lineFeed_terminated
    {line : Line}
    (hLine : line.IsUnbroken) :
    line.terminated.count Bytes.lineFeed = 1 := by
  have hNone : line.count Bytes.lineFeed = 0 :=
    List.count_eq_zero_of_not_mem hLine
  rw [terminated, List.count_append, hNone]
  rfl

/- Joined lines are complete. -/
theorem isComplete_join
    (lines : List Line) :
    (join lines).IsComplete := by
  by_cases hNone : lines = []
  · subst hNone
    exact Bytes.isComplete_nil
  · exact Or.inr (getLast?_join hNone)

/- Joined unbroken lines have one line feed each. -/
theorem count_lineFeed_join
    {lines : List Line}
    (hLines : ∀ line ∈ lines, line.IsUnbroken) :
    (join lines).count Bytes.lineFeed = lines.length := by
  induction lines with
  | nil => rfl
  | cons line lines ih =>
      have hLine : line.IsUnbroken :=
        hLines line List.mem_cons_self
      have hRest : ∀ other ∈ lines, other.IsUnbroken := by
        intro other hOther
        exact
          hLines other (List.mem_cons_of_mem line hOther)
      rw [join_cons, List.count_append, ih hRest,
        count_lineFeed_terminated hLine, List.length_cons]
      omega

end Line

end StreamOverloads

------------------------------------------------------------
-- Contents Of Lines
------------------------------------------------------------

namespace StreamOverloads

namespace Line

/- A line without the line feed that ends it. -/
def content
    (line : Line) : Line :=
  if line.getLast? = some Bytes.lineFeed then
    line.dropLast
  else
    line

@[simp] theorem content_terminated
    (line : Line) :
    line.terminated.content = line := by
  simp [content, terminated]

end Line

end StreamOverloads
