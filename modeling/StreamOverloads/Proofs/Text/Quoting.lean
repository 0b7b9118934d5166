import StreamOverloads.Text.Quoted

/-
  Quoted text tells its text, and where it ends.

  A reader takes quoted text apart again without knowing which
  characters stood for themselves. It is in one of two places:
  between two characters, or among the digits of a code. The
  first quote without a backslash closes the text, so whatever
  follows it cannot be mistaken for a part of it.

  Key definitions include:
    * `Text.Quoted.readText?`
    * `Text.HoldsNoControl`
    * `Text.PlainSet`

  Main declarations:
    * `Text.Quoted.readText?_encode_append`
    * `Text.PlainSet.quote_append_inj`
    * `Text.PlainSet.holdsNoControl_quote`
-/

------------------------------------------------------------
-- Hexadecimal Codes
------------------------------------------------------------

namespace StreamOverloads

namespace Text

namespace Quoted

/- What a hexadecimal digit is worth. -/
def digitValue
    (digit : Char) : Nat :=
  if digit.toNat < 0x3a then
    digit.toNat - 0x30
  else
    digit.toNat - 0x57

/- The code that digits so far and one more of them write. -/
def extendCode
    (code : Nat)
    (digit : Char) : Nat :=
  16 * code + digitValue digit

theorem digitValue_digitChar :
    ∀ value < 16,
      digitValue (Nat.digitChar value) = value := by
  decide

/- What holds of sixteen digits holds in every code. -/
theorem forall_mem_toDigits
    {accepts : Char → Prop}
    (hDigits :
      ∀ value < 16, accepts (Nat.digitChar value))
    (code : Nat) :
    ∀ digit ∈ Nat.toDigits 16 code, accepts digit := by
  intro digit hDigit
  induction code using Nat.strongRecOn with
  | ind code ih =>
      rw [Nat.toDigits_eq_if (by decide)] at hDigit
      split at hDigit
      · rename_i hSmall
        rw [List.mem_singleton] at hDigit
        rw [hDigit]
        exact hDigits code hSmall
      · rename_i hLarge
        rw [List.mem_append, List.mem_singleton] at hDigit
        rcases hDigit with hFront | hLast
        · exact ih (code / 16) (by omega) hFront
        · rw [hLast]
          exact hDigits _ (Nat.mod_lt code (by decide))

/- Read from the front, the digits of a code give it back. -/
theorem foldl_extendCode_toDigits
    (code : Nat) :
    (Nat.toDigits 16 code).foldl extendCode 0 = code := by
  induction code using Nat.strongRecOn with
  | ind code ih =>
      rw [Nat.toDigits_eq_if (by decide)]
      split
      · rename_i hSmall
        rw [List.foldl_cons, List.foldl_nil, extendCode,
          digitValue_digitChar code hSmall, Nat.mul_zero,
          Nat.zero_add]
      · rename_i hLarge
        rw [List.foldl_append, ih (code / 16) (by omega),
          List.foldl_cons, List.foldl_nil, extendCode,
          digitValue_digitChar _
            (Nat.mod_lt code (by decide)),
          Nat.div_add_mod]

end Quoted

end Text

end StreamOverloads

------------------------------------------------------------
-- Reading Quoted Text
------------------------------------------------------------

namespace StreamOverloads

namespace Text

namespace Quoted

/- The letters behind a backslash, and what they stand for. -/
def letters : List (Char × Char) :=
  [
    ('"', '"'), ('\\', '\\'), ('0', '\x00'), ('t', '\t'),
    ('n', '\n'), ('r', '\r')
  ]

theorem lookup_letters :
    ∀ entry ∈ letters,
      letters.lookup entry.1 = some entry.2 := by
  decide

/- The letter that introduces a code stands for nothing. -/
theorem ne_u_of_mem_letters :
    ∀ entry ∈ letters, entry.1 ≠ 'u' := by
  decide

/- What is read, with one more character before the text. -/
def putFirst
    (char : Char)
    (reading : Option (List Char × List Char)) :
    Option (List Char × List Char) :=
  reading.map fun (text, rest) => (char :: text, rest)

mutual

/-
  Read quoted text that was opened before. The answer is the
  text and what follows the quote that closes it.
-/
def readText? : List Char → Option (List Char × List Char)
  | [] => none
  | ['\\'] => none
  | '"' :: rest => some ([], rest)
  | '\\' :: 'u' :: '\x7b' :: rest => readCode? 0 rest
  | '\\' :: letter :: rest =>
      match letters.lookup letter with
      | some char => putFirst char (readText? rest)
      | none => none
  | char :: rest => putFirst char (readText? rest)

/-
  Read quoted text that goes on inside a code, after some of
  its digits.
-/
def readCode?
    (code : Nat) :
    List Char → Option (List Char × List Char)
  | [] => none
  | '\x7d' :: rest =>
      putFirst (Char.ofNat code) (readText? rest)
  | digit :: rest => readCode? (extendCode code digit) rest

end

end Quoted

end Text

end StreamOverloads

------------------------------------------------------------
-- Reading What Was Written
------------------------------------------------------------

namespace StreamOverloads

namespace Text

namespace Quoted

variable {char letter : Char}
variable {digits : List Char}

/-
  A character is written in one of three ways: as a letter
  behind a backslash, as itself, or as its code.
-/
theorem escape_cases
    (plain : Char → Bool)
    (char : Char) :
    (∃ letter,
      (letter, char) ∈ letters ∧
        escape plain char = ['\\', letter]) ∨
      (plain char = true ∧ char ≠ '"' ∧ char ≠ '\\' ∧
        escape plain char = [char]) ∨
      escape plain char = codeEscape char := by
  unfold escape
  split
  · exact .inl ⟨'"', by decide, rfl⟩
  · exact .inl ⟨'\\', by decide, rfl⟩
  · exact .inl ⟨'0', by decide, rfl⟩
  · exact .inl ⟨'t', by decide, rfl⟩
  · exact .inl ⟨'n', by decide, rfl⟩
  · exact .inl ⟨'r', by decide, rfl⟩
  · rename_i hQuote hBackslash _ _ _ _
    split
    · rename_i hPlain
      exact .inr (.inl ⟨hPlain, hQuote, hBackslash, rfl⟩)
    · exact .inr (.inr rfl)

/- Digits are read up to the brace that closes them. -/
theorem readCode?_digits_append
    (hDigits : ∀ digit ∈ digits, digit ≠ '\x7d')
    (code : Nat)
    (rest : List Char) :
    readCode? code (digits ++ '\x7d' :: rest) =
      putFirst (Char.ofNat (digits.foldl extendCode code))
        (readText? rest) := by
  induction digits generalizing code with
  | nil => rfl
  | cons digit digits ih =>
      rw [List.forall_mem_cons] at hDigits
      rcases hDigits with ⟨hDigit, hDigits⟩
      have hStep :
          readCode? code
              (digit :: (digits ++ '\x7d' :: rest)) =
            readCode? (extendCode code digit)
              (digits ++ '\x7d' :: rest) := by
        rw [readCode?]
        exact hDigit
      rw [List.cons_append, hStep, ih hDigits,
        List.foldl_cons]

theorem digitChar_ne_brace :
    ∀ value < 16, Nat.digitChar value ≠ '\x7d' := by
  decide

/- A code is read as the character that it is the code of. -/
theorem readText?_codeEscape_append
    (char : Char)
    (rest : List Char) :
    readText? (codeEscape char ++ rest) =
      putFirst char (readText? rest) := by
  have hDigits :
      ∀ digit ∈ Nat.toDigits 16 char.toNat,
        digit ≠ '\x7d' :=
    forall_mem_toDigits digitChar_ne_brace char.toNat
  have hOpen :
      readText? (codeEscape char ++ rest) =
        readCode? 0
          (Nat.toDigits 16 char.toNat ++ '\x7d' :: rest) := by
    simp [codeEscape, readText?]
  rw [hOpen, readCode?_digits_append hDigits,
    foldl_extendCode_toDigits, Char.ofNat_toNat]

/- A letter is read as the character that it stands for. -/
theorem readText?_lettered
    (hLetter : (letter, char) ∈ letters)
    (rest : List Char) :
    readText? ('\\' :: letter :: rest) =
      putFirst char (readText? rest) := by
  rw [readText?, lookup_letters _ hLetter]
  intro _ hCode _
  exact ne_u_of_mem_letters _ hLetter hCode

/- Nothing but a quote and a backslash needs an escape. -/
theorem readText?_plain
    (hQuote : char ≠ '"')
    (hBackslash : char ≠ '\\')
    (rest : List Char) :
    readText? (char :: rest) =
      putFirst char (readText? rest) := by
  -- What is left to show is that no earlier row fits.
  rw [readText?]
  · exact fun hSame _ => hBackslash hSame
  · exact hQuote
  · exact fun _ hSame _ => hBackslash hSame
  · exact fun _ _ hSame _ => hBackslash hSame

/- However a character is written, it is what is read. -/
theorem readText?_escape_append
    (plain : Char → Bool)
    (char : Char)
    (rest : List Char) :
    readText? (escape plain char ++ rest) =
      putFirst char (readText? rest) := by
  rcases escape_cases plain char with
    ⟨letter, hLetter, hEscape⟩ |
      ⟨_, hQuote, hBackslash, hEscape⟩ | hEscape
  · rw [hEscape]
    exact readText?_lettered hLetter rest
  · rw [hEscape]
    exact readText?_plain hQuote hBackslash rest
  · rw [hEscape]
    exact readText?_codeEscape_append char rest

/-
  A text is read up to the quote that closes it, whatever was
  written after that.
-/
theorem readText?_encode_append
    (plain : Char → Bool)
    (text rest : List Char) :
    readText? (encode plain text ++ '"' :: rest) =
      some (text, rest) := by
  induction text with
  | nil => rfl
  | cons char text ih =>
      rw [encode, List.flatMap_cons, List.append_assoc,
        readText?_escape_append, ← encode, ih]
      rfl

/- An escape in the text is not one of the quoted text. -/
example :
    readText? "a\\\\n\\u\x7b1b\x7d\\n\" b\"".toList =
      some ("a\\n\x1b\n".toList, " b\"".toList) := by
  decide

end Quoted

end Text

end StreamOverloads

------------------------------------------------------------
-- Controls
------------------------------------------------------------

namespace StreamOverloads

namespace Text

/- Characters none of which is a control. -/
def HoldsNoControl
    (chars : List Char) : Prop :=
  ∀ char ∈ chars, isControl char = false

instance (chars : List Char) :
    Decidable (HoldsNoControl chars) :=
  List.decidableBAll (fun char => isControl char = false) chars

variable {front back : List Char}

theorem holdsNoControl_append_iff :
    HoldsNoControl (front ++ back) ↔
      HoldsNoControl front ∧ HoldsNoControl back :=
  List.forall_mem_append

namespace Quoted

theorem isControl_of_mem_letters :
    ∀ entry ∈ letters, isControl entry.1 = false := by
  decide

theorem isControl_digitChar :
    ∀ value < 16,
      isControl (Nat.digitChar value) = false := by
  decide

theorem holdsNoControl_codeEscape
    (char : Char) :
    HoldsNoControl (codeEscape char) := by
  have hDigits :
      HoldsNoControl (Nat.toDigits 16 char.toNat) :=
    forall_mem_toDigits isControl_digitChar char.toNat
  unfold codeEscape
  rw [holdsNoControl_append_iff, holdsNoControl_append_iff]
  exact ⟨by decide, hDigits, by decide⟩

end Quoted

end Text

end StreamOverloads

------------------------------------------------------------
-- Sets Of Plain Characters
------------------------------------------------------------

namespace StreamOverloads

namespace Text

/-
  A choice of the characters that stand for themselves. Which
  they are depends on the character data; a control is none.
-/
structure PlainSet where
  holds : Char → Bool
  isControl_of_holds :
    ∀ char, holds char = true → isControl char = false

namespace PlainSet

/- The characters that stand for themselves in messages. -/
def standard : PlainSet where
  holds := isPlain
  isControl_of_holds := by
    intro char hPlain
    rw [isPlain, Bool.and_eq_true, Bool.not_eq_true'] at hPlain
    exact hPlain.1

/- A text between double quotes. -/
def quote
    (plain : PlainSet)
    (text : String) : String :=
  "\"" ++
    String.ofList (Quoted.encode plain.holds text.toList) ++
    "\""

variable {plain other : PlainSet}
variable {left right after following : String}

theorem toList_quote
    (plain : PlainSet)
    (text : String) :
    (plain.quote text).toList =
      '"' ::
        (Quoted.encode plain.holds text.toList ++ ['"']) := by
  simp [quote]

/-
  Quoted text at the front of a longer one is read as the text
  and the rest. This holds even if the two sides do not agree
  on the plain characters.
-/
theorem quote_append_inj
    (hSame :
      plain.quote left ++ after =
        other.quote right ++ following) :
    left = right ∧ after = following := by
  have hChars := congrArg String.toList hSame
  simp only [String.toList_append, toList_quote,
    List.cons_append, List.append_assoc, List.nil_append]
    at hChars
  have hRead :=
    congrArg Quoted.readText? (List.cons.inj hChars).2
  rw [Quoted.readText?_encode_append,
    Quoted.readText?_encode_append, Option.some.injEq,
    Prod.mk.injEq] at hRead
  exact
    ⟨String.toList_inj.mp hRead.1,
      String.toList_inj.mp hRead.2⟩

/- No way of writing a character needs a control. -/
theorem holdsNoControl_escape
    (plain : PlainSet)
    (char : Char) :
    HoldsNoControl (Quoted.escape plain.holds char) := by
  rcases Quoted.escape_cases plain.holds char with
    ⟨letter, hLetter, hEscape⟩ | ⟨hPlain, _, _, hEscape⟩ |
      hEscape
  · have hSound :=
      Quoted.isControl_of_mem_letters _ hLetter
    rw [hEscape]
    exact
      List.forall_mem_cons.mpr
        ⟨by decide, List.forall_mem_singleton.mpr hSound⟩
  · rw [hEscape]
    exact List.forall_mem_singleton.mpr
      (plain.isControl_of_holds char hPlain)
  · rw [hEscape]
    exact Quoted.holdsNoControl_codeEscape char

/- Quoted text holds no control, whatever its text holds. -/
theorem holdsNoControl_quote
    (plain : PlainSet)
    (text : String) :
    HoldsNoControl (plain.quote text).toList := by
  have hInner :
      HoldsNoControl
        (Quoted.encode plain.holds text.toList) := by
    intro char hChar
    rcases List.mem_flatMap.mp hChar with
      ⟨source, _, hChar⟩
    exact plain.holdsNoControl_escape source char hChar
  rw [toList_quote, ← List.singleton_append,
    holdsNoControl_append_iff, holdsNoControl_append_iff]
  exact ⟨by decide, hInner, by decide⟩

end PlainSet

end Text

end StreamOverloads
