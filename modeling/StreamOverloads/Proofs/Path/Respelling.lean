import Mathlib.Logic.Relation
import StreamOverloads.Proofs.Path.Destination

/-
  When two texts spell one path.

  Four rules shorten a text by what does not change the path
  it spells: a slash beside another one, a dot between two
  slashes, a dot after the last slash, and a last slash that
  is not the only character. Two texts are respellings of one
  another if such steps, forwards and backwards, lead from one
  to the other. They are exactly those whose components are
  the same.

  No rule adds or removes a component. For the converse, each
  text can be shortened to its first piece and the names that
  follow, and these are what the components tell.

  Key definitions include:
    * `Path.Shortens`
    * `Path.Respelled`

  Main declarations:
    * `Path.components_ofPieces`
    * `Path.Shortens.sameComponents`
    * `Path.respelled_shortest`
    * `Path.respelled_iff_sameComponents`
-/

------------------------------------------------------------
-- Respellings
------------------------------------------------------------

namespace StreamOverloads

namespace Path

/- The rules by which a text is shortened. -/
inductive Shortens : String → String → Prop where
  | doubleSlash (before after : String) :
      Shortens (before ++ "//" ++ after)
        (before ++ "/" ++ after)
  | innerDot (before after : String) :
      Shortens (before ++ "/./" ++ after)
        (before ++ "/" ++ after)
  | lastDot (before : String) :
      Shortens (before ++ "/.") (before ++ "/")
  | lastSlash
      (before : String)
      (hBefore : before ≠ "") :
      Shortens (before ++ "/") before

/- The least equivalence that holds along the rules. -/
def Respelled
    (left right : String) : Prop :=
  Relation.EqvGen Shortens left right

end Path

end StreamOverloads

------------------------------------------------------------
-- Components Of Pieces
------------------------------------------------------------

namespace StreamOverloads

namespace Path

variable {piece : Piece}
variable {rest front : List Piece}

/-
  The component that the first piece of a path stands for,
  where another piece or some text follows.
-/
def firstComponent
    (piece : Piece) : Component :=
  if piece = [] then .root
  else if piece = Piece.dot then .here
  else if piece = Piece.dotDot then .up
  else .name piece

theorem firstComponent_injective :
    Function.Injective firstComponent := by
  intro left right hSame
  unfold firstComponent at hSame
  grind

/- A name stands for the same component wherever it is. -/
theorem component?_of_not_isVacant
    (hPiece : piece.isVacant = false) :
    component? piece = some (firstComponent piece) := by
  rcases Piece.not_isVacant_iff.mp hPiece with ⟨hEmpty, hDot⟩
  rw [component?, hPiece, if_neg Bool.false_ne_true,
    firstComponent, if_neg hEmpty, if_neg hDot,
    apply_ite some]

theorem component?_of_isVacant
    (hPiece : piece.isVacant = true) :
    component? piece = none := by
  rw [component?, if_pos hPiece]

theorem names_cons_of_isVacant
    (rest : List Piece)
    (hPiece : piece.isVacant = true) :
    names (piece :: rest) = names rest :=
  List.filter_cons_of_neg (by simp [hPiece])

theorem names_cons_of_not_isVacant
    (rest : List Piece)
    (hPiece : piece.isVacant = false) :
    names (piece :: rest) = piece :: names rest :=
  List.filter_cons_of_pos (by simp [hPiece])

/- After the first piece only names are components. -/
theorem filterMap_component?_eq_map_names
    (body : List Piece) :
    body.filterMap component? =
      (names body).map firstComponent := by
  induction body with
  | nil => rfl
  | cons piece body ih =>
      cases hPiece : piece.isVacant with
      | true =>
          rw [List.filterMap_cons_none
              (component?_of_isVacant hPiece),
            names_cons_of_isVacant _ hPiece, ih]
      | false =>
          rw [List.filterMap_cons_some
              (component?_of_not_isVacant hPiece),
            names_cons_of_not_isVacant _ hPiece, ih,
            List.map_cons]

theorem exists_splitOn_eq_cons
    (text : String) :
    ∃ piece rest, text.toList.splitOn '/' = piece :: rest :=
  List.exists_cons_of_ne_nil
    (List.splitOn_ne_nil '/' text.toList)

theorem splitOn_ne_singleton_nil
    {text : String}
    (hText : text ≠ "") :
    text.toList.splitOn '/' ≠ [[]] := by
  intro hPieces
  have hChars :
      ['/'].intercalate (text.toList.splitOn '/') =
        text.toList :=
    List.intercalate_splitOn '/'
  rw [hPieces, List.intercalate_singleton] at hChars
  exact hText (String.toList_eq_nil_iff.mp hChars.symm)

/- The first piece is a component unless it is all there is. -/
theorem components_ofPieces
    (hPieces : piece :: rest ≠ [[]]) :
    (ofPieces (piece :: rest)).components =
      firstComponent piece ::
        (names rest).map firstComponent := by
  rw [← filterMap_component?_eq_map_names]
  by_cases hEmpty : piece = []
  · subst hEmpty
    cases rest with
    | nil => exact absurd rfl hPieces
    | cons next rest => rfl
  · by_cases hDot : piece = Piece.dot
    · subst hDot
      rfl
    · have hPlain :
          ofPieces (piece :: rest) =
            { lead := .plain, body := piece :: rest } := by
        unfold ofPieces
        split
        · rename_i hSame
          exact absurd (List.cons.inj hSame).1 hEmpty
        · rename_i hSame
          exact absurd (List.cons.inj hSame).1 hDot
        · rfl
      have hName :=
        component?_of_not_isVacant
          (Piece.not_isVacant_iff.mpr ⟨hEmpty, hDot⟩)
      rw [hPlain, components, leadComponent, List.nil_append,
        List.filterMap_cons_some hName]

end Path

end StreamOverloads

------------------------------------------------------------
-- No Rule Changes The Components
------------------------------------------------------------

namespace StreamOverloads

namespace Path

variable {left right : String}
variable {front back other : List Piece}

/-
  Two texts that begin with the same pieces and then have the
  same names.
-/
theorem sameComponents_of_splitOn
    (back other : List Piece)
    (hFront : front ≠ [])
    (hLeft : left.toList.splitOn '/' = front ++ back)
    (hRight : right.toList.splitOn '/' = front ++ other)
    (hLeftText : left ≠ "")
    (hRightText : right ≠ "")
    (hNames : names back = names other) :
    SameComponents left right := by
  cases front with
  | nil => exact absurd rfl hFront
  | cons piece rest =>
      have hLeftPieces := splitOn_ne_singleton_nil hLeftText
      have hRightPieces := splitOn_ne_singleton_nil hRightText
      rw [hLeft, List.cons_append] at hLeftPieces
      rw [hRight, List.cons_append] at hRightPieces
      unfold SameComponents ofText
      rw [hLeft, hRight, List.cons_append, List.cons_append,
        components_ofPieces hLeftPieces,
        components_ofPieces hRightPieces]
      unfold names at hNames ⊢
      rw [List.filter_append, List.filter_append, hNames]

/- Each rule leaves out vacant pieces, never the first. -/
theorem Shortens.sameComponents
    (hShortens : Shortens left right) :
    SameComponents left right := by
  have hFront := fun text : String =>
    List.splitOn_ne_nil '/' text.toList
  cases hShortens with
  | doubleSlash before after =>
      apply sameComponents_of_splitOn
        ([] :: after.toList.splitOn '/')
        (after.toList.splitOn '/') (hFront before)
      · have hSlash :
            ('/' :: after.toList).splitOn '/' =
              [] :: after.toList.splitOn '/' :=
          List.splitOn_append_cons_self [] after.toList
        simp [List.splitOn_append_cons_self, hSlash]
      · simp [List.splitOn_append_cons_self]
      · simp
      · simp
      · rfl
  | innerDot before after =>
      have hDot :
          ('.' :: '/' :: after.toList).splitOn '/' =
            ['.'] :: after.toList.splitOn '/' :=
        List.splitOn_append_cons_self ['.'] after.toList
      apply sameComponents_of_splitOn
        (['.'] :: after.toList.splitOn '/')
        (after.toList.splitOn '/') (hFront before)
      · simp [List.splitOn_append_cons_self, hDot]
      · simp [List.splitOn_append_cons_self]
      · simp
      · simp
      · rfl
  | lastDot before =>
      apply sameComponents_of_splitOn [['.']] [[]]
        (hFront before)
      · have hDot : ['.'].splitOn '/' = [['.']] := by
          rfl
        simp [List.splitOn_append_cons_self, hDot]
      · simp [List.splitOn_append_cons_self]
      · simp
      · simp
      · rfl
  | lastSlash _ hRight =>
      apply sameComponents_of_splitOn [[]] [] (hFront right)
      · simp [List.splitOn_append_cons_self]
      · simp
      · simp
      · exact hRight
      · rfl

/- Respellings have the same components. -/
theorem Respelled.sameComponents
    (hRespelled : Respelled left right) :
    SameComponents left right := by
  induction hRespelled with
  | rel left right hShortens =>
      exact hShortens.sameComponents
  | refl text => rfl
  | symm left right _ ih => exact ih.symm
  | trans left middle right _ _ ihLeft ihRight =>
      exact ihLeft.trans ihRight

end Path

end StreamOverloads

------------------------------------------------------------
-- Shortest Texts
------------------------------------------------------------

namespace StreamOverloads

namespace Path

variable {piece : Piece}
variable {rest : List Piece}
variable {front : List Char}

/- Two lists of characters as respellings of one another. -/
def RespelledChars
    (left right : List Char) : Prop :=
  Respelled (String.ofList left) (String.ofList right)

namespace RespelledChars

variable {left middle right : List Char}

theorem refl
    (chars : List Char) :
    RespelledChars chars chars :=
  Relation.EqvGen.refl _

theorem trans
    (hLeft : RespelledChars left middle)
    (hRight : RespelledChars middle right) :
    RespelledChars left right :=
  Relation.EqvGen.trans _ _ _ hLeft hRight

/- A vacant piece between two slashes can be left out. -/
theorem of_vacant_slash
    (before after : List Char)
    (hPiece : piece.isVacant = true) :
    RespelledChars (before ++ '/' :: (piece ++ '/' :: after))
      (before ++ '/' :: after) := by
  have hShort :
      String.ofList (before ++ '/' :: after) =
        String.ofList before ++ "/" ++
          String.ofList after := by
    apply String.toList_injective
    simp
  unfold RespelledChars
  apply Relation.EqvGen.rel
  rw [hShort]
  rcases Piece.isVacant_iff.mp hPiece with rfl | rfl
  · have hLong :
        String.ofList (before ++ '/' :: ([] ++ '/' :: after)) =
          String.ofList before ++ "//" ++
            String.ofList after := by
      apply String.toList_injective
      simp
    rw [hLong]
    exact Shortens.doubleSlash _ _
  · have hLong :
        String.ofList
            (before ++ '/' :: (Piece.dot ++ '/' :: after)) =
          String.ofList before ++ "/./" ++
            String.ofList after := by
      apply String.toList_injective
      simp [Piece.dot]
    rw [hLong]
    exact Shortens.innerDot _ _

/- A vacant piece after the last slash can be left out. -/
theorem of_vacant_end
    (before : List Char)
    (hPiece : piece.isVacant = true) :
    RespelledChars (before ++ '/' :: piece)
      (before ++ ['/']) := by
  rcases Piece.isVacant_iff.mp hPiece with rfl | rfl
  · exact refl _
  · have hLong :
        String.ofList (before ++ '/' :: Piece.dot) =
          String.ofList before ++ "/." := by
      apply String.toList_injective
      simp [Piece.dot]
    have hShort :
        String.ofList (before ++ ['/']) =
          String.ofList before ++ "/" := by
      apply String.toList_injective
      simp
    unfold RespelledChars
    rw [hLong, hShort]
    exact Relation.EqvGen.rel _ _ (Shortens.lastDot _)

/- A last slash can be left out if something is before it. -/
theorem of_last_slash
    {before : List Char}
    (hBefore : before ≠ []) :
    RespelledChars (before ++ ['/']) before := by
  have hLong :
      String.ofList (before ++ ['/']) =
        String.ofList before ++ "/" := by
    apply String.toList_injective
    simp
  unfold RespelledChars
  rw [hLong]
  exact
    Relation.EqvGen.rel _ _
      (Shortens.lastSlash _ (by simpa using hBefore))

/- Text in front belongs to the first piece. -/
theorem intercalate_append_cons
    (front back : List Char)
    (rest : List Piece) :
    ['/'].intercalate ((front ++ back) :: rest) =
      front ++ ['/'].intercalate (back :: rest) := by
  induction front with
  | nil => rfl
  | cons char front ih =>
      rw [List.cons_append,
        List.intercalate_cons_cons_left, ih]
      rfl

/- A vacant piece can be left out wherever it is. -/
theorem of_vacant
    (front : List Char)
    (hPiece : piece.isVacant = true)
    (hText : front ≠ [] ∨ rest ≠ []) :
    RespelledChars
      (['/'].intercalate (front :: piece :: rest))
      (['/'].intercalate (front :: rest)) := by
  cases rest with
  | nil =>
      have hFront : front ≠ [] :=
        hText.resolve_right fun hRest => hRest rfl
      have hEnd :=
        (of_vacant_end front hPiece).trans
          (of_last_slash hFront)
      simpa using hEnd
  | cons next more =>
      have hInner :=
        of_vacant_slash front
          (['/'].intercalate (next :: more)) hPiece
      simpa using hInner

/- Behind any text only the names have to be kept. -/
theorem of_names
    (hFront : front ≠ [])
    (rest : List Piece) :
    RespelledChars (['/'].intercalate (front :: rest))
      (['/'].intercalate (front :: names rest)) := by
  induction rest generalizing front with
  | nil => exact refl _
  | cons piece rest ih =>
      cases hPiece : piece.isVacant with
      | true =>
          rw [names_cons_of_isVacant _ hPiece]
          exact (of_vacant front hPiece (.inl hFront)).trans
              (ih hFront)
      | false =>
          -- The name now belongs to what is in front.
          have hName : front ++ ['/'] ++ piece ≠ [] := by simp
          have hRest := ih hName
          rw [intercalate_append_cons,
            intercalate_append_cons] at hRest
          rw [names_cons_of_not_isVacant _ hPiece,
            List.intercalate_cons_cons,
            List.intercalate_cons_cons]
          exact hRest

end RespelledChars

/- The shortest text for a path, given its pieces. -/
def shortest
    (piece : Piece)
    (rest : List Piece) : List Char :=
  if piece = [] ∧ names rest = [] then
    ['/']
  else
    ['/'].intercalate (piece :: names rest)

/-
  A text that starts with a slash can be shortened to the
  shortest text for its path.
-/
theorem respelledChars_shortest_nil
    (hRest : rest ≠ []) :
    RespelledChars (['/'].intercalate ([] :: rest))
      (shortest [] rest) := by
  induction rest with
  | nil => exact absurd rfl hRest
  | cons piece rest ih =>
      cases hPiece : piece.isVacant with
      | false =>
          have hNames :=
            names_cons_of_not_isVacant rest hPiece
          have hStart : '/' :: piece ≠ [] := by simp
          have hKept :=
            RespelledChars.of_names hStart rest
          rw [shortest, hNames, if_neg (by simp)]
          simpa [List.intercalate_cons_cons_left] using hKept
      | true =>
          have hNames := names_cons_of_isVacant rest hPiece
          cases rest with
          | nil =>
              rw [shortest, hNames, if_pos ⟨rfl, rfl⟩]
              simpa using
                RespelledChars.of_vacant_end [] hPiece
          | cons next more =>
              have hMore : next :: more ≠ [] :=
                List.cons_ne_nil next more
              rw [shortest, hNames]
              exact
                (RespelledChars.of_vacant [] hPiece
                  (.inr hMore)).trans (ih hMore)

/-
  Every text but the empty one can be shortened to the
  shortest text for its path.
-/
theorem respelled_shortest
    {text : String}
    (hPieces : text.toList.splitOn '/' = piece :: rest)
    (hText : text ≠ "") :
    Respelled text (String.ofList (shortest piece rest)) := by
  have hChars :
      ['/'].intercalate (piece :: rest) = text.toList := by
    rw [← hPieces, List.intercalate_splitOn]
  have hShort :
      RespelledChars (['/'].intercalate (piece :: rest))
        (shortest piece rest) := by
    by_cases hEmpty : piece = []
    · subst hEmpty
      apply respelledChars_shortest_nil
      rintro rfl
      exact splitOn_ne_singleton_nil hText hPieces
    · rw [shortest, if_neg fun hBoth => hEmpty hBoth.1]
      exact RespelledChars.of_names hEmpty rest
  rw [hChars] at hShort
  unfold RespelledChars at hShort
  rwa [String.ofList_toList] at hShort

/- Components tell the first piece and the names after it. -/
theorem shortest_eq_of_components_eq
    {other : Piece}
    {others : List Piece}
    (hPieces : piece :: rest ≠ [[]])
    (hOthers : other :: others ≠ [[]])
    (hSame :
      (ofPieces (piece :: rest)).components =
        (ofPieces (other :: others)).components) :
    shortest piece rest = shortest other others := by
  rw [components_ofPieces hPieces,
    components_ofPieces hOthers] at hSame
  rcases List.cons.inj hSame with ⟨hFirst, hNames⟩
  have hPiece := firstComponent_injective hFirst
  have hRest :=
    (List.map_inj_right fun _ _ hName =>
      firstComponent_injective hName).mp hNames
  rw [shortest, shortest, hPiece, hRest]

/- Only the empty text has no components. -/
theorem components_ofText_eq_nil_iff
    {text : String} :
    (ofText text).components = [] ↔ text = "" := by
  constructor
  · intro hNone
    by_contra hText
    rcases exists_splitOn_eq_cons text with
      ⟨piece, rest, hSplit⟩
    have hPieces := splitOn_ne_singleton_nil hText
    rw [ofText, hSplit] at hNone
    rw [hSplit] at hPieces
    rw [components_ofPieces hPieces] at hNone
    cases hNone
  · intro hText
    subst hText
    rfl

/-
  Two texts are respellings of one another exactly if they
  have the same components.
-/
theorem respelled_iff_sameComponents
    {left right : String} :
    Respelled left right ↔ SameComponents left right := by
  refine ⟨Respelled.sameComponents, ?_⟩
  intro hSame
  unfold SameComponents at hSame
  by_cases hLeft : left = ""
  · rw [components_ofText_eq_nil_iff.mpr hLeft] at hSame
    rw [hLeft, components_ofText_eq_nil_iff.mp hSame.symm]
    exact Relation.EqvGen.refl ""
  · have hRight : right ≠ "" := by
      intro hNone
      rw [components_ofText_eq_nil_iff.mpr hNone,
        components_ofText_eq_nil_iff] at hSame
      exact hLeft hSame
    rcases exists_splitOn_eq_cons left with
      ⟨piece, rest, hLeftPieces⟩
    rcases exists_splitOn_eq_cons right with
      ⟨other, others, hRightPieces⟩
    have hPieces := splitOn_ne_singleton_nil hLeft
    have hOthers := splitOn_ne_singleton_nil hRight
    unfold ofText at hSame
    rw [hLeftPieces] at hSame hPieces
    rw [hRightPieces] at hSame hOthers
    have hShort :=
      shortest_eq_of_components_eq hPieces hOthers hSame
    have hFromLeft := respelled_shortest hLeftPieces hLeft
    have hFromRight := respelled_shortest hRightPieces hRight
    rw [← hShort] at hFromRight
    exact
      Relation.EqvGen.trans _ _ _ hFromLeft
        (Relation.EqvGen.symm _ _ hFromRight)

instance (left right : String) :
    Decidable (Respelled left right) :=
  decidable_of_iff (SameComponents left right)
    respelled_iff_sameComponents.symm

/- A dot counts at the start of a path only. -/
example :
    Respelled "gen/.//nodes.h/." "gen/nodes.h" ∧
      ¬ Respelled "./nodes.h" "nodes.h" := by
  decide

end Path

end StreamOverloads
