import NumericBytes.OutOfBounds
import NumericBytes.Proofs.Text.Literals

/-!
# The texts of a refusal

The sentence for a refusal and its literal tell each the buffer that the request does not fit, the
cause, and the two numbers of a range that exceeds the buffer.  The words for the sides and for the
causes tell which they are, and the words between the two numbers tell where the first one ends.
The main statement is `OutOfBounds.texts_tell_refusals`.
-/

namespace NumericBytes

open Text

namespace Side

theorem selfDelimited_name :
  SelfDelimited name
  := by
  apply selfDelimited_of_isPrefix
  intro side side'
  cases side <;> cases side' <;> decide

theorem selfDelimited_literal :
  SelfDelimited literal
  := by
  apply selfDelimited_of_isPrefix
  intro side side'
  cases side <;> cases side' <;> decide

end Side

namespace Cause

/-- Texts of causes are delimited if the texts of the three kinds begin differently, and the texts
of ranges that exceed a buffer tell their numbers. -/
theorem delimited_of_begins {more : Char → Prop} {text : Cause → String} {n o e : Char}
    (hn : Begins n (text negative)) (ho : Begins o (text overflow))
    (he : ∀ stop capacity, Begins e (text (exceeds stop capacity)))
    (hno : n ≠ o) (hne : n ≠ e) (hoe : o ≠ e)
    (numbers : Delimited more fun pair : Nat × Nat => text (exceeds pair.1 pair.2)) :
  Delimited more text
  := by
  intro cause cause' rest rest' ends ends' equal
  cases cause with
  | negative =>
    cases cause' with
    | negative => use rfl, (String.append_right_inj _).mp equal
    | overflow => cases (hn.append _).ne (ho.append _) hno equal
    | exceeds stop capacity => cases (hn.append _).ne ((he stop capacity).append _) hne equal
  | overflow =>
    cases cause' with
    | negative => cases (ho.append _).ne (hn.append _) hno.symm equal
    | overflow => use rfl, (String.append_right_inj _).mp equal
    | exceeds stop capacity => cases (ho.append _).ne ((he stop capacity).append _) hoe equal
  | exceeds stop capacity =>
    cases cause' with
    | negative => cases ((he stop capacity).append _).ne (hn.append _) hne.symm equal
    | overflow => cases ((he stop capacity).append _).ne (ho.append _) hoe.symm equal
    | exceeds stop' capacity' =>
      obtain ⟨same, after⟩ := @numbers (stop, capacity) (stop', capacity') _ _ ends ends' equal
      obtain ⟨rfl, rfl⟩ := Prod.mk.inj same
      use rfl

/-- The clause for a cause tells the cause, unless it is followed by a numeral. -/
theorem delimited_message :
  Delimited IsNumeral message
  := by
  have n : Begins 'n' (message negative) := rfl
  have o : Begins 'o' (message overflow) := rfl
  have first : Begins 'r' "range ends at " := rfl
  have e (stop capacity : Nat) : Begins 'r' (message (exceeds stop capacity)) :=
    ((first.append _).append _).append _
  apply delimited_of_begins n o e (by decide) (by decide) (by decide)
  have between : Begins ' ' " but the buffer holds " := rfl
  have capacity := delimited_repr.prepend " but the buffer holds "
  have numbers := delimited_repr.append capacity <| by
    intro b rest
    rw [String.append_assoc]
    apply (between.append _).stops (by decide)
  have all := numbers.prepend "range ends at "
  simp only [← String.append_assoc] at all
  exact all

/-- The literal of a cause tells the cause. -/
theorem selfDelimited_literal :
  SelfDelimited literal
  := by
  have n : Begins 'N' (literal negative) := rfl
  have o : Begins 'O' (literal overflow) := rfl
  have name : Begins 'E' "Exceeds" := rfl
  have e (stop capacity : Nat) : Begins 'E' (literal (exceeds stop capacity)) := name.labelled _
  apply delimited_of_begins n o e (by decide) (by decide) (by decide)
  apply delimited_repr.labelled delimited_repr (by decide) (by decide)

end Cause

namespace OutOfBounds

/-- A refusal is its side and its cause. -/
def parts (error : OutOfBounds) : Side × Cause := (error.side, error.cause)

theorem parts_injective :
  Function.Injective parts
  := by
  rintro ⟨side, cause⟩ ⟨side', cause'⟩ ⟨⟩
  rfl

/-- The sentence for a refusal tells the refusal, unless it is followed by a numeral. -/
theorem delimited_message :
  Delimited IsNumeral message
  := by
  have clause := Cause.delimited_message.prepend " range out of bounds: "
  have both := Side.selfDelimited_name.append clause fun _ _ => stops_false _
  apply both.comp parts_injective
  intro error
  apply String.append_assoc

/-- The literal of a refusal tells the refusal. -/
theorem selfDelimited_literal :
  SelfDelimited literal
  := by
  have both := Side.selfDelimited_literal.labelled Cause.selfDelimited_literal not_false not_false
    "OutOfBoundsError" "side" "cause"
  apply both.comp parts_injective
  intro error
  rfl

/-- Two refusals have the same sentence exactly if they are equal, and the same literal exactly if
they are equal: either text tells the side, the kind of the cause and both numbers. -/
theorem texts_tell_refusals (error error' : OutOfBounds) :
  (error.message = error'.message ↔ error = error')
  ∧ (error.literal = error'.literal ↔ error = error')
  := by
  constructor
  · apply delimited_message.injective.eq_iff
  · apply selfDelimited_literal.injective.eq_iff

end OutOfBounds

end NumericBytes
