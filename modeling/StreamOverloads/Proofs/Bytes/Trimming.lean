import Mathlib.Data.List.DropRight
import StreamOverloads.Bytes

/-
  Trimming takes off blank bytes, and only those at an end.

  Trimming the end is stable, does not see blank bytes that
  are added there, and answers a prefix of what it is given.
  Trimming both ends sees no blank bytes at either end. What
  is trimmed off is blank, so that each byte string is what
  trimming leaves of it with blank bytes around it.

  Key definitions include:
    * `Bytes.WhiteSpace`

  Main declarations:
    * `Bytes.isBlank_iff_whiteSpace`
    * `Bytes.trimEnd_append`
    * `Bytes.trimEnd_append_congr`
    * `Bytes.trimEnd_prefix`
    * `Bytes.exists_isBlank_append_trimEnd`
    * `Bytes.isBlank_of_mem_getLast?_trimEnd`
    * `Bytes.trimEnd_append_of_isBlank`
    * `Bytes.trimEnd_trimEnd`
    * `Bytes.trim_append_of_isBlank`
    * `Bytes.trim_trimEnd`
    * `Bytes.trim_whiteSpace_ends`
    * `Bytes.exists_whiteSpace_ends`
-/

------------------------------------------------------------
-- Blank Bytes By Name
------------------------------------------------------------

namespace StreamOverloads

namespace Bytes

/- The bytes that are white space. -/
inductive WhiteSpace : UInt8 → Prop where
  | tab : WhiteSpace 9
  | lineFeed : WhiteSpace 10
  | verticalTab : WhiteSpace 11
  | formFeed : WhiteSpace 12
  | carriageReturn : WhiteSpace 13
  | space : WhiteSpace 32

/- A byte is blank exactly if it is white space. -/
theorem isBlank_iff_whiteSpace
    (byte : UInt8) :
    isBlank byte = true ↔ WhiteSpace byte := by
  constructor
  · intro hBlank
    have hListed : byte ∈ blanks :=
      List.contains_iff_mem.mp hBlank
    simp only [blanks, List.mem_cons, List.not_mem_nil,
      or_false] at hListed
    rcases hListed with
      rfl | rfl | rfl | rfl | rfl | rfl <;> constructor
  · intro hSpace
    cases hSpace <;> decide

instance (byte : UInt8) : Decidable (WhiteSpace byte) :=
  decidable_of_iff _ (isBlank_iff_whiteSpace byte)

theorem isBlank_iff_forall_whiteSpace
    (bytes : Bytes) :
    IsBlank bytes ↔ ∀ byte ∈ bytes, WhiteSpace byte := by
  simp only [IsBlank, isBlank_iff_whiteSpace]

end Bytes

end StreamOverloads

------------------------------------------------------------
-- Trimming
------------------------------------------------------------

namespace StreamOverloads

namespace Bytes

@[simp] theorem isBlank_lineFeed :
    IsBlank [lineFeed] := by
  decide

/- Trimming the end drops bytes from the right. -/
theorem trimEnd_eq_rdropWhile
    (bytes : Bytes) :
    trimEnd bytes = bytes.rdropWhile isBlank := by
  rfl

/- Only blank bytes are trimmed off altogether. -/
theorem trimEnd_eq_nil_iff
    (bytes : Bytes) :
    trimEnd bytes = [] ↔ IsBlank bytes := by
  rw [trimEnd_eq_rdropWhile]
  exact List.rdropWhile_eq_nil_iff

/- Trimming stops before it reaches the front. -/
theorem trimEnd_append
    (front back : Bytes) :
    trimEnd (front ++ back) =
      if trimEnd back = [] then
        trimEnd front
      else
        front ++ trimEnd back := by
  unfold trimEnd
  rw [List.reverse_append, List.dropWhile_append]
  simp only [List.isEmpty_iff, List.reverse_eq_nil_iff]
  split
  · rfl
  · rw [List.reverse_append, List.reverse_reverse]

/-
  What is left of two byte strings, one after the other,
  depends only on what is left of the second one.
-/
theorem trimEnd_append_congr
    (front : Bytes)
    {left right : Bytes}
    (hTrimmed : trimEnd left = trimEnd right) :
    trimEnd (front ++ left) = trimEnd (front ++ right) := by
  rw [trimEnd_append, trimEnd_append, hTrimmed]

/- What trimming the end leaves begins what was given. -/
theorem trimEnd_prefix
    (bytes : Bytes) :
    trimEnd bytes <+: bytes := by
  rw [trimEnd_eq_rdropWhile]
  exact List.rdropWhile_prefix isBlank bytes

/- Only blank bytes are trimmed off the end. -/
theorem exists_isBlank_append_trimEnd
    (bytes : Bytes) :
    ∃ after : Bytes,
      IsBlank after ∧ bytes = trimEnd bytes ++ after := by
  refine ⟨bytes.rtakeWhile isBlank, ?_, ?_⟩
  · intro byte hByte
    exact List.mem_rtakeWhile_imp hByte
  · rw [trimEnd_eq_rdropWhile]
    exact List.rdropWhile_append_rtakeWhile.symm

/- Trimming the end leaves no blank byte at the end. -/
theorem isBlank_of_mem_getLast?_trimEnd
    {bytes : Bytes}
    {byte : UInt8}
    (hLast : byte ∈ (trimEnd bytes).getLast?) :
    isBlank byte = false := by
  rw [trimEnd_eq_rdropWhile] at hLast
  rcases List.mem_getLast?_eq_getLast hLast with
    ⟨hSome, rfl⟩
  have hNot :=
    List.rdropWhile_last_not isBlank bytes hSome
  exact Bool.not_eq_true _ ▸ hNot

/- Blank bytes at the end do not change what is left. -/
theorem trimEnd_append_of_isBlank
    (bytes : Bytes)
    {tail : Bytes}
    (hTail : IsBlank tail) :
    trimEnd (bytes ++ tail) = trimEnd bytes := by
  rw [trimEnd_append,
    if_pos ((trimEnd_eq_nil_iff tail).mpr hTail)]

/- Trimming the end a second time changes nothing. -/
@[simp] theorem trimEnd_trimEnd
    (bytes : Bytes) :
    trimEnd (trimEnd bytes) = trimEnd bytes := by
  simp only [trimEnd_eq_rdropWhile]
  exact List.rdropWhile_idempotent isBlank bytes

/- Trimming both ends does not see a trimmed end. -/
@[simp] theorem trim_trimEnd
    (bytes : Bytes) :
    trim (trimEnd bytes) = trim bytes := by
  unfold trim
  rw [trimEnd_trimEnd]

/- Blank bytes at the end do not change what is left. -/
theorem trim_append_of_isBlank
    (bytes : Bytes)
    {tail : Bytes}
    (hTail : IsBlank tail) :
    trim (bytes ++ tail) = trim bytes := by
  unfold trim
  rw [trimEnd_append_of_isBlank bytes hTail]

/- Blank bytes at the beginning do not change what is left. -/
theorem trim_isBlank_append
    {before : Bytes}
    (hBefore : IsBlank before)
    (bytes : Bytes) :
    trim (before ++ bytes) = trim bytes := by
  unfold trim
  rw [trimEnd_append]
  split
  · -- Everything is blank, and nothing is left either way.
    rename_i hNone
    rw [hNone, (trimEnd_eq_nil_iff before).mpr hBefore]
  · exact List.dropWhile_append_of_pos hBefore

/- White space at both ends does not change what is left. -/
theorem trim_whiteSpace_ends
    {before after : Bytes}
    (hBefore : ∀ byte ∈ before, WhiteSpace byte)
    (bytes : Bytes)
    (hAfter : ∀ byte ∈ after, WhiteSpace byte) :
    trim (before ++ bytes ++ after) = trim bytes := by
  rw [← isBlank_iff_forall_whiteSpace] at hBefore hAfter
  rw [trim_append_of_isBlank _ hAfter,
    trim_isBlank_append hBefore]

/- Trimming takes nothing but white space off both ends. -/
theorem exists_whiteSpace_ends
    (bytes : Bytes) :
    ∃ before after : Bytes,
      (∀ byte ∈ before, WhiteSpace byte) ∧
        (∀ byte ∈ after, WhiteSpace byte) ∧
          bytes = before ++ trim bytes ++ after := by
  rcases exists_isBlank_append_trimEnd bytes with
    ⟨after, hAfter, hEnd⟩
  have hBefore :
      IsBlank ((trimEnd bytes).takeWhile isBlank) :=
    fun _ => List.mem_takeWhile_imp
  rw [isBlank_iff_forall_whiteSpace] at hBefore hAfter
  refine ⟨_, after, hBefore, hAfter, ?_⟩
  rw [trim, List.takeWhile_append_dropWhile]
  exact hEnd

end Bytes

end StreamOverloads
