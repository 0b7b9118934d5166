import StreamOverloads.Proofs.Line.Division

/-
  There is one way to divide a header into lines.

  A division keeps every byte in its place and has no empty
  line. It cuts after each line feed and nowhere else, so a
  line has a line feed at its end or, if it is the last one,
  none at all. Dividing data gives a division of it, because
  putting a byte in front of a division gives one again, and
  no other lines are a division of the same data.

  Key definitions include:
    * `Line.IsDivision`

  Main declarations:
    * `Line.isDivision_cons_iff`
    * `Line.IsDivision.attach`
    * `Line.isDivision_divide`
    * `Line.IsDivision.eq_divide`
    * `Line.eq_divide_iff_isDivision`
-/

------------------------------------------------------------
-- Divisions
------------------------------------------------------------

namespace StreamOverloads

namespace Line

/-
  Lines that make up some data, none of them empty. A line
  feed ends its line, and only the last line may lack one.
-/
structure IsDivision
    (data : Bytes)
    (lines : List Line) : Prop where
  flatten_eq :
    lines.flatten = data
  ne_nil :
    ∀ line ∈ lines, line ≠ []
  lineFeed_at_end :
    ∀ line ∈ lines, Bytes.lineFeed ∉ line.dropLast
  ends :
    ∀ line ∈ lines.dropLast,
      line.getLast? = some Bytes.lineFeed

/- Empty data has no line. -/
theorem isDivision_nil :
    IsDivision [] [] where
  flatten_eq := rfl
  ne_nil := by simp
  lineFeed_at_end := by simp
  ends := by simp

/-
  What holds of all lines but the last holds of the first
  one, unless it is the only one, and of all others but the
  last.
-/
theorem forall_mem_dropLast_cons
    (property : Line → Prop)
    (line : Line)
    (lines : List Line) :
    (∀ other ∈ (line :: lines).dropLast,
        property other) ↔
      (lines = [] ∨ property line) ∧
        ∀ other ∈ lines.dropLast, property other := by
  cases lines with
  | nil => simp
  | cons second rest => simp

/- A division is its first line and a division. -/
theorem isDivision_cons_iff
    (data : Bytes)
    (line : Line)
    (lines : List Line) :
    IsDivision data (line :: lines) ↔
      line ≠ [] ∧
        Bytes.lineFeed ∉ line.dropLast ∧
        (lines = [] ∨
          line.getLast? = some Bytes.lineFeed) ∧
        line ++ lines.flatten = data ∧
        IsDivision lines.flatten lines := by
  constructor
  · intro hDivision
    rcases List.forall_mem_cons.mp hDivision.ne_nil with
      ⟨hLine, hLines⟩
    rcases
        List.forall_mem_cons.mp
          hDivision.lineFeed_at_end with
      ⟨hInside, hInsides⟩
    rcases
        (forall_mem_dropLast_cons _ line lines).mp
          hDivision.ends with
      ⟨hEnd, hEnds⟩
    exact
      ⟨hLine, hInside, hEnd, hDivision.flatten_eq,
        ⟨rfl, hLines, hInsides, hEnds⟩⟩
  · rintro ⟨hLine, hInside, hEnd, hFlatten, hRest⟩
    exact
      { flatten_eq := hFlatten
        ne_nil :=
          List.forall_mem_cons.mpr ⟨hLine, hRest.ne_nil⟩
        lineFeed_at_end :=
          List.forall_mem_cons.mpr
            ⟨hInside, hRest.lineFeed_at_end⟩
        ends :=
          (forall_mem_dropLast_cons _ line lines).mpr
            ⟨hEnd, hRest.ends⟩ }

end Line

end StreamOverloads

------------------------------------------------------------
-- Dividing Gives A Division
------------------------------------------------------------

namespace StreamOverloads

namespace Line

variable {data : Bytes} {line : Line} {lines : List Line}

/- One more byte in front gives a division again. -/
theorem IsDivision.attach
    (hDivision : IsDivision data lines)
    (byte : UInt8) :
    IsDivision (byte :: data) (attach byte lines) := by
  by_cases hByte : byte = Bytes.lineFeed
  · subst hByte
    rw [attach_lineFeed, isDivision_cons_iff,
      hDivision.flatten_eq]
    exact
      ⟨List.cons_ne_nil _ _, List.not_mem_nil, Or.inr rfl,
        rfl, hDivision⟩
  · cases lines with
    | nil =>
        rw [attach_nil_of_ne hByte, isDivision_cons_iff,
          ← hDivision.flatten_eq]
        exact
          ⟨List.cons_ne_nil _ _, List.not_mem_nil,
            Or.inl rfl, rfl, isDivision_nil⟩
    | cons line lines =>
        rcases (isDivision_cons_iff _ _ _).mp hDivision with
          ⟨hLine, hInside, hEnd, hFlatten, hRest⟩
        rw [attach_of_ne hByte, isDivision_cons_iff,
          List.dropLast_cons_of_ne_nil hLine,
          List.getLast?_cons_of_ne_nil hLine, ← hFlatten]
        exact
          ⟨List.cons_ne_nil _ _,
            List.not_mem_cons_of_ne_of_not_mem
              (Ne.symm hByte) hInside,
            hEnd, rfl, hRest⟩

/- Dividing gives a division. -/
theorem isDivision_divide
    (data : Bytes) :
    IsDivision data (divide data) := by
  induction data with
  | nil => exact isDivision_nil
  | cons byte data ih => exact ih.attach byte

end Line

end StreamOverloads

------------------------------------------------------------
-- No Other Lines Are A Division
------------------------------------------------------------

namespace StreamOverloads

namespace Line

variable {data : Bytes} {line : Line} {lines : List Line}

/- A line feed stands at the end, or there is none. -/
theorem isUnbroken_of_getLast?_ne
    (hInside : Bytes.lineFeed ∉ line.dropLast)
    (hEnd : line.getLast? ≠ some Bytes.lineFeed) :
    line.IsUnbroken := by
  rcases List.eq_nil_or_concat' line with
    rfl | ⟨front, byte, rfl⟩
  · exact List.not_mem_nil
  · rw [List.dropLast_concat] at hInside
    rw [List.getLast?_concat] at hEnd
    intro hMember
    rcases List.mem_append.mp hMember with hFront | hByte
    · exact hInside hFront
    · rw [List.mem_singleton.mp hByte] at hEnd
      exact hEnd rfl

/- A line that ends in a line feed is cut off there. -/
theorem divide_append_of_getLast?
    (hInside : Bytes.lineFeed ∉ line.dropLast)
    (hEnd : line.getLast? = some Bytes.lineFeed)
    (rest : Bytes) :
    divide (line ++ rest) = line :: divide rest := by
  have hLine : terminated line.dropLast = line :=
    List.dropLast_append_getLast? _ hEnd
  rw [← hLine]
  exact divide_terminated_append hInside rest

/- Without a line feed there is a single line. -/
theorem divide_of_isUnbroken
    (hLine : line ≠ [])
    (hUnbroken : line.IsUnbroken) :
    divide line = [line] := by
  induction line with
  | nil => exact (hLine rfl).elim
  | cons byte rest ih =>
      rcases (isUnbroken_cons_iff byte rest).mp
          hUnbroken with
        ⟨hByte, hRest⟩
      rw [divide_cons]
      by_cases hEmpty : rest = []
      · subst hEmpty
        exact attach_nil_of_ne hByte
      · rw [ih hEmpty hRest, attach_of_ne hByte]

/- A division is what dividing gives. -/
theorem IsDivision.eq_divide
    (hDivision : IsDivision data lines) :
    lines = divide data := by
  induction lines generalizing data with
  | nil =>
      rw [← hDivision.flatten_eq]
      rfl
  | cons line lines ih =>
      rcases (isDivision_cons_iff _ _ _).mp hDivision with
        ⟨hLine, hInside, hEnd, rfl, hRest⟩
      by_cases hTerminated :
          line.getLast? = some Bytes.lineFeed
      · rw [divide_append_of_getLast? hInside hTerminated,
          ← ih hRest]
      · -- Only the last line lacks its line feed.
        have hLast : lines = [] :=
          hEnd.resolve_right hTerminated
        subst hLast
        rw [List.flatten_nil, List.append_nil,
          divide_of_isUnbroken hLine
            (isUnbroken_of_getLast?_ne hInside hTerminated)]

/-
  Lines are those that some data is divided into exactly if
  they make up that data, none of them is empty, a line feed
  is only ever the last byte of a line, and each line but
  the last one ends in one.
-/
theorem eq_divide_iff_isDivision
    (data : Bytes)
    (lines : List Line) :
    lines = divide data ↔ IsDivision data lines := by
  constructor
  · intro hLines
    rw [hLines]
    exact isDivision_divide data
  · exact IsDivision.eq_divide

end Line

end StreamOverloads
