import StreamOverloads.Proofs.AmendedHeader.Repetition
import StreamOverloads.Proofs.Line.LineFeeds

/-
  What amending counts, read off the bytes.

  The counts are kept line by line, but each of them can be
  found again in the bytes that went in and came out: lines
  as line feeds, and expansions as lines that consist of a
  signature. No line of an amended header is a signature
  unless it heads an expansion.

  Key definitions include:
    * `Declaration.IsSignature`

  Main declarations:
    * `AmendedHeader.isSignature_iff_of_mem_lines_ofHeader`
    * `AmendedHeader.stats_ofHeader_eq_byte_counts`
-/

------------------------------------------------------------
-- Signatures In Amended Headers
------------------------------------------------------------

namespace StreamOverloads

namespace Declaration

/- A line that is the signature of some declaration. -/
def IsSignature
    (line : Line) : Prop :=
  ∃ decl : Declaration, line = decl.signatureLine

theorem isSignature_iff_exists_mem_all
    {line : Line} :
    IsSignature line ↔
      ∃ decl ∈ all, line = decl.signatureLine := by
  constructor
  · rintro ⟨decl, hLine⟩
    exact ⟨decl, mem_all decl, hLine⟩
  · rintro ⟨decl, _, hLine⟩
    exact ⟨decl, hLine⟩

instance (line : Line) : Decidable (IsSignature line) :=
  decidable_of_iff _ isSignature_iff_exists_mem_all.symm

theorem isSignature_signatureLine
    (decl : Declaration) :
    IsSignature decl.signatureLine :=
  ⟨decl, rfl⟩

/- A signature is recognised. -/
theorem IsSignature.isSome_recognise?
    {line : Line}
    (hSignature : IsSignature line) :
    (recognise? line).isSome := by
  rcases hSignature with ⟨decl, rfl⟩
  rw [recognise?_signatureLine]
  rfl

/- A plain line is no signature. -/
theorem not_isSignature_of_isPlain
    {line : Line}
    (hPlain : line.IsPlain) :
    ¬ IsSignature line := by
  intro hSignature
  have hFound := hSignature.isSome_recognise?
  rw [hPlain.1] at hFound
  cases hFound

end Declaration

namespace Line

/- A line becomes signatures and plain lines. -/
theorem isSignature_or_isPlain_of_mem_amended
    {line output : Line}
    (hMember : output ∈ line.amended) :
    Declaration.IsSignature output ∨ output.IsPlain := by
  unfold amended at hMember
  cases hFound : Declaration.recognise? line with
  | some decl =>
      rw [hFound] at hMember
      rcases List.mem_cons.mp hMember with
        rfl | hOverload
      · exact
          Or.inl (Declaration.isSignature_signatureLine decl)
      · exact
          Or.inr
            (Declaration.isPlain_of_mem_overloadLines
              hOverload)
  | none =>
      rw [hFound] at hMember
      rw [List.mem_singleton.mp hMember]
      exact Or.inr (isPlain_trimEnd hFound)

end Line

namespace AmendedHeader

theorem isSignature_or_isPlain_of_mem_lines_ofHeader
    {data : Bytes}
    {line : Line}
    (hMember : line ∈ (ofHeader data).lines) :
    Declaration.IsSignature line ∨ line.IsPlain := by
  rw [lines_ofHeader, List.mem_append] at hMember
  rcases hMember with hForward | hBody
  · exact
      Or.inr
        (Declaration.isPlain_of_mem_forwardLines hForward)
  · rcases List.mem_flatMap.mp hBody with
      ⟨given, _, hAmended⟩
    exact Line.isSignature_or_isPlain_of_mem_amended hAmended

/-
  In an amended header no line is recognised that is not a
  signature as it stands.
-/
theorem isSignature_iff_of_mem_lines_ofHeader
    {data : Bytes}
    {line : Line}
    (hMember : line ∈ (ofHeader data).lines) :
    Declaration.IsSignature line ↔
      (Declaration.recognise? line).isSome := by
  rcases isSignature_or_isPlain_of_mem_lines_ofHeader
      hMember with hSignature | hPlain
  · simp [hSignature, hSignature.isSome_recognise?]
  · simp [Declaration.not_isSignature_of_isPlain hPlain,
      hPlain.1]

end AmendedHeader

end StreamOverloads

------------------------------------------------------------
-- Counts And Bytes
------------------------------------------------------------

namespace StreamOverloads

namespace AmendedHeader

/-
  An amended header has as many recognised lines as the
  given header.
-/
theorem recognisedCount_lines_ofHeader
    (data : Bytes) :
    Line.recognisedCount (ofHeader data).lines =
      Line.recognisedCount (Line.divide data) := by
  rw [lines_ofHeader_eq_linesAfter_one,
    recognisedCount_linesAfter]

/-
  An amended header has one signature for each recognised
  line of the given header.
-/
theorem countP_isSignature_lines_ofHeader
    (data : Bytes) :
    ((ofHeader data).lines.countP fun line =>
        decide (Declaration.IsSignature line)) =
      Line.recognisedCount (Line.divide data) := by
  rw [← recognisedCount_lines_ofHeader,
    Line.recognisedCount]
  apply List.countP_congr
  intro line hLine
  rw [decide_eq_true_iff]
  exact isSignature_iff_of_mem_lines_ofHeader hLine

/-
  The lines that amending writes are those that its bytes
  are divided into, one for each line feed. The lines that
  it reads are the line feeds of the given bytes, with one
  more for a last line that has none. And it expands as many
  declarations as there are lines in its bytes that consist
  of a signature.
-/
theorem stats_ofHeader_eq_byte_counts
    (data : Bytes) :
    Line.divide (ofHeader data).toBytes =
        (ofHeader data).lines.map
          (fun line => line ++ [Bytes.lineFeed]) ∧
      (ofHeader data).stats.linesWritten =
        (ofHeader data).toBytes.count Bytes.lineFeed ∧
      (ofHeader data).stats.linesRead =
        data.count Bytes.lineFeed +
          (if
            data ≠ [] ∧
              data.getLast? ≠ some Bytes.lineFeed
          then 1 else 0) ∧
      (ofHeader data).stats.declarationsExpanded =
        (Line.divide (ofHeader data).toBytes).countP
          fun line =>
            decide
              (Declaration.IsSignature line.content) := by
  rw [stats_ofHeader]
  refine ⟨divide_toBytes_ofHeader data, ?_, ?_, ?_⟩
  · exact
      (Line.count_lineFeed_join
        (fun _ => isUnbroken_of_mem_lines_ofHeader)).symm
  · have hEnd :
        (data ≠ [] ∧
            data.getLast? ≠ some Bytes.lineFeed) ↔
          ¬ data.IsComplete :=
      not_or.symm
    simp only [hEnd, Line.length_divide, ite_not]
  · rw [divide_toBytes_ofHeader, List.countP_map]
    simp only [Function.comp_def, Line.content_terminated]
    exact (countP_isSignature_lines_ofHeader data).symm

end AmendedHeader

end StreamOverloads
