import StreamOverloads.Failure
import StreamOverloads.Proofs.Text.Quoting

/-
  What the message about a bad value tells.

  The value stands in the message as quoted text between two
  parts that hold the field and the reason. The field and the
  reason are written as they are; only of the value is it sure
  that it stays on its line and can be read back.

  Key definitions include:
    * `Failure.invalidValueMessage`

  Main declarations:
    * `Failure.invalidValueMessage_inj`
    * `Failure.invalidValueMessage_tells_value_without_controls`
-/

------------------------------------------------------------
-- Messages About Bad Values
------------------------------------------------------------

namespace StreamOverloads

namespace Failure

variable {plain : Text.PlainSet}
variable {field value other reason otherReason : String}

/- The message about a bad value, for any plain characters. -/
def invalidValueMessage
    (plain : Text.PlainSet)
    (field value reason : String) : String :=
  "Invalid value for '" ++ field ++ "' (" ++
    plain.quote value ++ "): " ++ reason

theorem message_invalidValue
    (field value reason : String) :
    (invalidValue field value reason).message =
      invalidValueMessage .standard field value reason := by
  rfl

/-
  For one field, the message tells the value and the reason. A
  value cannot be made to look like the end of the message.
-/
theorem invalidValueMessage_inj
    (hSame :
      invalidValueMessage plain field value reason =
        invalidValueMessage plain field other otherReason) :
    value = other ∧ reason = otherReason := by
  unfold invalidValueMessage at hSame
  simp only [String.append_assoc, String.append_right_inj]
    at hSame
  rcases Text.PlainSet.quote_append_inj hSame with
    ⟨hValue, hRest⟩
  exact ⟨hValue, (String.append_right_inj "): ").mp hRest⟩

/-
  With the field and the reason fixed, messages are the same
  only for the same value, and the part of them that shows the
  value holds no control. This is so for every choice of plain
  characters, and messages are written with one of them.
-/
theorem invalidValueMessage_tells_value_without_controls
    (plain : Text.PlainSet)
    (field reason : String) :
    (∀ value other,
      invalidValueMessage plain field value reason =
          invalidValueMessage plain field other reason ↔
        value = other) ∧
      (∀ value,
        Text.HoldsNoControl (plain.quote value).toList) ∧
      ∀ value,
        (invalidValue field value reason).message =
          invalidValueMessage .standard field value
            reason := by
  refine ⟨?_, plain.holdsNoControl_quote, ?_⟩
  · intro value other
    constructor
    · intro hSame
      exact (invalidValueMessage_inj hSame).1
    · intro hValue
      rw [hValue]
  · intro value
    exact message_invalidValue field value reason

end Failure

end StreamOverloads
