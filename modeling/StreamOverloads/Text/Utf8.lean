import StreamOverloads.Bytes

/-
  Reading text from bytes.

  Decoding is strict: bytes that are not well-formed UTF-8 are
  no text. To show such bytes all the same, each ill-formed
  piece, taken as long as it could still have become a
  character, is shown as U+FFFD.

  Key definitions include:
    * `StreamOverloads.Text.Utf8.decode?`
    * `StreamOverloads.Text.Utf8.pieceTail`
    * `StreamOverloads.Text.Utf8.firstChar?`
    * `StreamOverloads.Text.Utf8.render`
-/

------------------------------------------------------------
-- Strict Decoding
------------------------------------------------------------

namespace StreamOverloads

namespace Text

namespace Utf8

/- The text that bytes encode, if they encode one. -/
def decode?
    (bytes : Bytes) : Option String :=
  String.fromUTF8? ⟨bytes.toArray⟩

/- Decoding accepts exactly what encoding produces. -/
theorem decode?_eq_some_iff
    (bytes : Bytes)
    (text : String) :
    decode? bytes = some text ↔
      bytes = Bytes.ofText text := by
  unfold decode? String.fromUTF8?
  constructor
  · intro hDecode
    split at hDecode
    · cases hDecode
      rfl
    · cases hDecode
  · intro hBytes
    subst hBytes
    have hSame :
        (⟨(Bytes.ofText text).toArray⟩ : ByteArray) =
          text.toUTF8 := by
      simp [Bytes.ofText]
    rw [hSame]
    simp
    exact ⟨text.isValidUTF8, rfl⟩

end Utf8

end Text

end StreamOverloads

------------------------------------------------------------
-- Showing Arbitrary Bytes
------------------------------------------------------------

namespace StreamOverloads

namespace Text

namespace Utf8

/-
  The bytes that may follow the first byte of a character, a
  range for each. A byte that starts no longer character has
  none.
-/
def followers
    (lead : UInt8) : List (UInt8 × UInt8) :=
  let tail : UInt8 × UInt8 := (0x80, 0xbf)
  if lead < 0xc2 then []
  else if lead < 0xe0 then [tail]
  else if lead = 0xe0 then [(0xa0, 0xbf), tail]
  else if lead = 0xed then [(0x80, 0x9f), tail]
  else if lead < 0xf0 then [tail, tail]
  else if lead = 0xf0 then [(0x90, 0xbf), tail, tail]
  else if lead < 0xf4 then [tail, tail, tail]
  else if lead = 0xf4 then [(0x80, 0x8f), tail, tail]
  else []

/- How many of the next bytes fit into the ranges in turn. -/
def countFitting :
    List (UInt8 × UInt8) → Bytes → Nat
  | range :: ranges, byte :: rest =>
      if range.1 ≤ byte ∧ byte ≤ range.2 then
        countFitting ranges rest + 1
      else
        0
  | _, _ => 0

/-
  How many bytes after the first one belong to the first
  piece: a character, or as much of one as is there.
-/
def pieceTail
    (lead : UInt8)
    (rest : Bytes) : Nat :=
  countFitting (followers lead) rest

/- The character that bytes start with, if any. -/
def firstChar? : Bytes → Option Char
  | [] => none
  | lead :: rest =>
      match decode? (lead :: rest.take (pieceTail lead rest)) with
      | some text => text.toList.head?
      | none => none

/- Bytes as text, U+FFFD for each ill-formed piece. -/
def render : Bytes → List Char
  | [] => []
  | lead :: rest =>
      let count := pieceTail lead rest
      let piece :=
        match decode? (lead :: rest.take count) with
        | some text => text.toList
        | none => ['\uFFFD']
      piece ++ render (rest.drop count)
termination_by bytes => bytes.length
decreasing_by
  simp only [List.length_drop, List.length_cons]
  omega

end Utf8

end Text

end StreamOverloads
