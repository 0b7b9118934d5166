import StreamOverloads.Proofs.Bytes.Trimming

/-
  The core of a byte string: all from its first to its last
  byte that is not white space.

  There is one way to separate the core from the white space
  before and after it. Trimming both ends answers the core,
  and trimming the end answers the core with what is before
  it. So trimming a second time, at the same ends or fewer,
  finds nothing left to take off.

  Key definitions include:
    * `Bytes.Parts`
    * `Bytes.Parts.Separate`
    * `Bytes.EndsFull`

  Main declarations:
    * `Bytes.Parts.Separate.trim_eq`
    * `Bytes.Parts.Separate.trimEnd_eq`
    * `Bytes.exists_parts_separate`
    * `Bytes.prefix_trimEnd_of_endsFull`
    * `Bytes.trim_and_trimEnd_by_parts`
-/

------------------------------------------------------------
-- Full Ends
------------------------------------------------------------

namespace StreamOverloads

namespace Bytes

variable {bytes front : Bytes}

/-
  A byte string that is empty or ends in a byte that is not
  white space.
-/
def EndsFull
    (bytes : Bytes) : Prop :=
  ∀ byte ∈ bytes.getLast?, ¬ WhiteSpace byte

instance (bytes : Bytes) : Decidable (EndsFull bytes) :=
  Option.decidableForallMem bytes.getLast?

/- Trimming the end leaves a full end. -/
theorem endsFull_trimEnd
    (bytes : Bytes) :
    EndsFull (trimEnd bytes) := by
  intro byte hLast hSpace
  rw [← isBlank_iff_whiteSpace,
    isBlank_of_mem_getLast?_trimEnd hLast] at hSpace
  cases hSpace

/- A full end has nothing to be trimmed off. -/
theorem trimEnd_of_endsFull
    (hFull : EndsFull bytes) :
    trimEnd bytes = bytes := by
  rw [trimEnd_eq_rdropWhile, List.rdropWhile_eq_self_iff]
  intro hSome hBlank
  rw [isBlank_iff_whiteSpace] at hBlank
  exact
    hFull _ (List.getLast_mem_getLast? hSome) hBlank

/- No prefix with a full end reaches beyond what is left. -/
theorem prefix_trimEnd_of_endsFull
    (hPrefix : front <+: bytes)
    (hFull : EndsFull front) :
    front <+: trimEnd bytes := by
  rcases hPrefix with ⟨rest, rfl⟩
  rw [trimEnd_append]
  split
  · simp only [trimEnd_of_endsFull hFull, List.prefix_refl]
  · exact List.prefix_append front (trimEnd rest)

end Bytes

end StreamOverloads

------------------------------------------------------------
-- Parts
------------------------------------------------------------

namespace StreamOverloads

namespace Bytes

/- Three byte strings that stand one after the other. -/
structure Parts where
  before : Bytes
  core : Bytes
  after : Bytes
  deriving DecidableEq

namespace Parts

/-
  Parts that separate the white space at both ends of a byte
  string from what is between, where the first and the last
  byte are not white space.
-/
structure Separate
    (parts : Parts)
    (bytes : Bytes) : Prop where
  append_eq :
    bytes = parts.before ++ parts.core ++ parts.after
  before_whiteSpace :
    ∀ byte ∈ parts.before, WhiteSpace byte
  after_whiteSpace :
    ∀ byte ∈ parts.after, WhiteSpace byte
  first_not_whiteSpace :
    ∃ byte ∈ parts.core.head?, ¬ WhiteSpace byte
  last_not_whiteSpace :
    ∃ byte ∈ parts.core.getLast?, ¬ WhiteSpace byte

variable {parts other : Parts}
variable {bytes : Bytes}

namespace Separate

theorem core_ne_nil
    (hParts : parts.Separate bytes) :
    parts.core ≠ [] := by
  intro hNil
  rcases hParts.first_not_whiteSpace with ⟨byte, hFirst, _⟩
  rw [hNil] at hFirst
  cases hFirst

theorem endsFull_core
    (hParts : parts.Separate bytes) :
    EndsFull parts.core := by
  rcases hParts.last_not_whiteSpace with
    ⟨last, hLast, hFull⟩
  intro byte hByte
  rw [Option.mem_unique hByte hLast]
  exact hFull

/- The core is what trimming both ends leaves. -/
theorem trim_eq
    (hParts : parts.Separate bytes) :
    trim bytes = parts.core := by
  rw [hParts.append_eq,
    trim_whiteSpace_ends hParts.before_whiteSpace _
      hParts.after_whiteSpace,
    trim, trimEnd_of_endsFull hParts.endsFull_core]
  rcases hParts.first_not_whiteSpace with
    ⟨first, hFirst, hFull⟩
  rcases List.head?_eq_some_iff.mp hFirst with
    ⟨rest, hCore⟩
  rw [← isBlank_iff_whiteSpace] at hFull
  rw [hCore, List.dropWhile_cons_of_neg hFull]

/- Trimming the end leaves the core and what is before it. -/
theorem trimEnd_eq
    (hParts : parts.Separate bytes) :
    trimEnd bytes = parts.before ++ parts.core := by
  have hAfter := hParts.after_whiteSpace
  rw [← isBlank_iff_forall_whiteSpace] at hAfter
  rw [hParts.append_eq, trimEnd_append_of_isBlank _ hAfter,
    trimEnd_append, trimEnd_of_endsFull hParts.endsFull_core,
    if_neg hParts.core_ne_nil]

/- Trimming decides all three parts. -/
theorem unique
    (hParts : parts.Separate bytes)
    (hOther : other.Separate bytes) :
    other = parts := by
  rcases parts with ⟨before, core, after⟩
  rcases other with ⟨before', core', after'⟩
  have hCore : core' = core :=
    hOther.trim_eq.symm.trans hParts.trim_eq
  subst hCore
  have hBefore : before' = before :=
    List.append_cancel_right
      (hOther.trimEnd_eq.symm.trans hParts.trimEnd_eq)
  subst hBefore
  have hAfter : after' = after :=
    List.append_cancel_left
      (hOther.append_eq.symm.trans hParts.append_eq)
  rw [hAfter]

/- The core of the core is the core itself. -/
theorem core_separate
    (hParts : parts.Separate bytes) :
    Separate ⟨[], parts.core, []⟩ parts.core where
  append_eq := (List.append_nil parts.core).symm
  before_whiteSpace := List.forall_mem_nil _
  after_whiteSpace := List.forall_mem_nil _
  first_not_whiteSpace := hParts.first_not_whiteSpace
  last_not_whiteSpace := hParts.last_not_whiteSpace

end Separate

end Parts

end Bytes

end StreamOverloads

------------------------------------------------------------
-- Trimming By Parts
------------------------------------------------------------

namespace StreamOverloads

namespace Bytes

variable {bytes : Bytes}

/- White space alone is trimmed off altogether. -/
theorem trimEnd_of_whiteSpace
    (hSpace : ∀ byte ∈ bytes, WhiteSpace byte) :
    trimEnd bytes = [] := by
  rw [trimEnd_eq_nil_iff, isBlank_iff_forall_whiteSpace]
  exact hSpace

theorem trim_of_whiteSpace
    (hSpace : ∀ byte ∈ bytes, WhiteSpace byte) :
    trim bytes = [] := by
  rw [trim, trimEnd_of_whiteSpace hSpace, List.dropWhile_nil]

/- A byte string that is not all white space has parts. -/
theorem exists_parts_separate
    (hFull : ∃ byte ∈ bytes, ¬ WhiteSpace byte) :
    ∃ parts : Parts, parts.Separate bytes := by
  rcases exists_whiteSpace_ends bytes with
    ⟨before, after, hBefore, hAfter, hBytes⟩
  have hCore : trim bytes ≠ [] := by
    intro hNil
    rcases hFull with ⟨byte, hByte, hNot⟩
    rw [hBytes, hNil, List.append_nil] at hByte
    rcases List.mem_append.mp hByte with hIn | hIn
    · exact hNot (hBefore byte hIn)
    · exact hNot (hAfter byte hIn)
  refine
    ⟨⟨before, trim bytes, after⟩, hBytes, hBefore, hAfter,
      ⟨(trim bytes).head hCore, List.head_mem_head? hCore,
        ?_⟩,
      ⟨(trim bytes).getLast hCore,
        List.getLast_mem_getLast? hCore, ?_⟩⟩
  · rw [← isBlank_iff_whiteSpace]
    exact
      Bool.not_eq_true _ ▸
        List.head_dropWhile_not isBlank hCore
  · -- Dropping from the front keeps the last byte.
    have hSuffix : trim bytes <:+ trimEnd bytes :=
      List.dropWhile_suffix isBlank
    apply endsFull_trimEnd bytes
    rw [hSuffix.getLast hCore]
    exact List.getLast_mem_getLast? _

/- What trimming both ends leaves is trimmed at both. -/
theorem trim_trim
    (bytes : Bytes) :
    trim (trim bytes) = trim bytes ∧
      trimEnd (trim bytes) = trim bytes := by
  by_cases hFull : ∃ byte ∈ bytes, ¬ WhiteSpace byte
  · rcases exists_parts_separate hFull with ⟨parts, hParts⟩
    have hCore := hParts.core_separate
    rw [hParts.trim_eq, hCore.trim_eq, hCore.trimEnd_eq]
    exact ⟨rfl, rfl⟩
  · push Not at hFull
    rw [trim_of_whiteSpace hFull]
    exact ⟨rfl, rfl⟩

/-
  A byte string with a byte that is not white space has its
  parts in one way only, and trimming answers them; of any
  other nothing is left. What trimming the end leaves is the
  longest prefix with a full end. Trimming again changes
  nothing, in whichever order the two ways are combined.
-/
theorem trim_and_trimEnd_by_parts
    (bytes : Bytes) :
    ((∃ byte ∈ bytes, ¬ WhiteSpace byte) →
        ∃ parts : Parts,
          parts.Separate bytes ∧
            (∀ other : Parts,
              other.Separate bytes → other = parts) ∧
            trim bytes = parts.core ∧
            trimEnd bytes = parts.before ++ parts.core) ∧
      ((¬ ∃ byte ∈ bytes, ¬ WhiteSpace byte) →
        trim bytes = [] ∧ trimEnd bytes = []) ∧
      (trimEnd bytes <+: bytes ∧
        EndsFull (trimEnd bytes) ∧
        ∀ front : Bytes,
          front <+: bytes →
            EndsFull front →
              front.length ≤ (trimEnd bytes).length) ∧
      trim (trim bytes) = trim bytes ∧
      trimEnd (trimEnd bytes) = trimEnd bytes ∧
      trim (trimEnd bytes) = trim bytes ∧
      trimEnd (trim bytes) = trim bytes := by
  refine
    ⟨?_, ?_, ⟨?_, endsFull_trimEnd bytes, ?_⟩,
      (trim_trim bytes).1, trimEnd_trimEnd bytes,
      trim_trimEnd bytes, (trim_trim bytes).2⟩
  · intro hFull
    rcases exists_parts_separate hFull with ⟨parts, hParts⟩
    exact
      ⟨parts, hParts, fun _ hOther => hParts.unique hOther,
        hParts.trim_eq, hParts.trimEnd_eq⟩
  · intro hSpace
    push Not at hSpace
    exact
      ⟨trim_of_whiteSpace hSpace,
        trimEnd_of_whiteSpace hSpace⟩
  · exact trimEnd_prefix bytes
  · intro front hPrefix hFull
    exact (prefix_trimEnd_of_endsFull hPrefix hFull).length_le

/- A space within the core is no end of it. -/
theorem trim_and_trimEnd_by_parts_of_inner_space :
    let bytes := ofText "\t a b \n"
    (∃ byte ∈ bytes, ¬ WhiteSpace byte) ∧
      (∃ parts : Parts,
        parts.Separate bytes ∧
          (∀ other : Parts,
            other.Separate bytes → other = parts) ∧
          trim bytes = parts.core ∧
          trimEnd bytes = parts.before ++ parts.core) ∧
      trim bytes = ofText "a b" ∧
      trimEnd bytes = ofText "\t a b" ∧
      (ofText "\t a").length ≤ (trimEnd bytes).length := by
  intro bytes
  have hFull : ∃ byte ∈ bytes, ¬ WhiteSpace byte := by
    decide
  have hParts := trim_and_trimEnd_by_parts bytes
  exact
    ⟨hFull, hParts.1 hFull, rfl, rfl,
      hParts.2.2.1.2.2 (ofText "\t a") (by decide)
        (by decide)⟩

end Bytes

end StreamOverloads
