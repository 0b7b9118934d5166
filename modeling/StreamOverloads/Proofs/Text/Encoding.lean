import StreamOverloads.Text.Utf8

/-
  The bytes that encode a text.

  A text is encoded character by character, so the bytes of
  one text after another are those of the two in turn. The
  byte of an ASCII character begins the encoding of no other
  character; it tells how a text starts.

  Main declarations:
    * `Bytes.ofText_append`
    * `Bytes.ofText_injective`
    * `Bytes.head?_ofText_eq_iff`
-/

------------------------------------------------------------
-- Encoded Texts
------------------------------------------------------------

namespace StreamOverloads

namespace Bytes

variable {text other : String}
variable {ascii char : Char}

/- A text is encoded character by character. -/
theorem ofText_eq_flatMap
    (text : String) :
    ofText text =
      text.toList.flatMap String.utf8EncodeChar := by
  have hBytes : text.toUTF8 = text.toList.utf8Encode := by
    rw [String.utf8Encode_toList, String.toUTF8_eq_toByteArray]
  rw [ofText, hBytes, List.utf8Encode]
  simp

@[simp] theorem ofText_append
    (text other : String) :
    ofText (text ++ other) = ofText text ++ ofText other := by
  simp only [ofText_eq_flatMap, String.toList_append,
    List.flatMap_append]

theorem ofText_injective :
    Function.Injective ofText := by
  intro text other hSame
  have hDecoded :=
    (Text.Utf8.decode?_eq_some_iff (ofText text) text).mpr rfl
  rw [hSame] at hDecoded
  rw [(Text.Utf8.decode?_eq_some_iff _ _).mpr rfl] at hDecoded
  exact (Option.some.inj hDecoded).symm

theorem ofText_eq_nil_iff :
    ofText text = [] ↔ text = "" := by
  constructor
  · intro hNil
    exact ofText_injective hNil
  · intro hText
    subst hText
    rfl

end Bytes

end StreamOverloads

------------------------------------------------------------
-- First Bytes
------------------------------------------------------------

namespace StreamOverloads

namespace Bytes

variable {text : String}
variable {ascii char : Char}

/- A character beyond ASCII starts with a byte beyond it. -/
theorem exists_head?_utf8EncodeChar
    (hChar : 127 < char.toNat) :
    ∃ byte,
      (String.utf8EncodeChar char).head? = some byte ∧
        192 ≤ byte.toNat := by
  have hNot : ¬ char.val.toNat ≤ 127 := Nat.not_le.mpr hChar
  unfold String.utf8EncodeChar
  simp only [if_neg hNot]
  split
  · refine ⟨_, rfl, ?_⟩
    rw [UInt8.toNat_ofNat']
    omega
  · split
    · refine ⟨_, rfl, ?_⟩
      rw [UInt8.toNat_ofNat']
      omega
    · refine ⟨_, rfl, ?_⟩
      rw [UInt8.toNat_ofNat']
      omega

theorem toNat_toUInt8
    (hAscii : ascii.toNat < 128) :
    ascii.toUInt8.toNat = ascii.toNat :=
  Nat.mod_eq_of_lt (Nat.lt_trans hAscii (by decide))

theorem utf8EncodeChar_of_ascii
    (hAscii : ascii.toNat < 128) :
    String.utf8EncodeChar ascii = [ascii.toUInt8] := by
  apply String.utf8EncodeChar_eq_singleton
  rw [Char.utf8Size_eq_one_iff, UInt32.le_iff_toNat_le]
  exact Nat.le_of_lt_succ hAscii

/- The byte of an ASCII character starts no other one. -/
theorem head?_utf8EncodeChar_eq_iff
    (hAscii : ascii.toNat < 128) :
    (String.utf8EncodeChar char).head? =
        some ascii.toUInt8 ↔
      char = ascii := by
  constructor
  · intro hHead
    by_cases hChar : char.toNat < 128
    · rw [utf8EncodeChar_of_ascii hChar, List.head?_cons,
        Option.some.injEq] at hHead
      have hCode : char.toNat = ascii.toNat := by
        rw [← toNat_toUInt8 hChar, hHead,
          toNat_toUInt8 hAscii]
      exact Char.ext (UInt32.toNat_inj.mp hCode)
    · rcases exists_head?_utf8EncodeChar
          (Nat.le_of_not_lt hChar) with
        ⟨byte, hFirst, hLarge⟩
      rw [hHead, Option.some.injEq] at hFirst
      rw [← hFirst, toNat_toUInt8 hAscii] at hLarge
      omega
  · intro hChar
    rw [hChar, utf8EncodeChar_of_ascii hAscii,
      List.head?_cons]

/- The first byte tells whether a text starts with ASCII. -/
theorem head?_ofText_eq_iff
    (hAscii : ascii.toNat < 128) :
    (ofText text).head? = some ascii.toUInt8 ↔
      text.toList.head? = some ascii := by
  rw [ofText_eq_flatMap]
  cases text.toList with
  | nil => simp
  | cons char rest =>
      have hChar : String.utf8EncodeChar char ≠ [] :=
        String.utf8EncodeChar_ne_nil
      rw [List.flatMap_cons, List.head?_append,
        List.head?_cons, Option.some.injEq,
        ← head?_utf8EncodeChar_eq_iff hAscii,
        Option.or_of_isSome (List.isSome_head?.mpr hChar)]

end Bytes

end StreamOverloads
