import NumericBytes.Proofs.Codec.Acceptance
import NumericBytes.Proofs.Transfer.Copy
import NumericBytes.Proofs.Window.Agreement

/-!
# Edits that touch windows only

An edit is local if it depends on what is in a window of its source, and changes what is in a
window of the buffer, and nothing more.  This is said of two runs of the edit, on buffers of
the same lengths, which end `Edited.Alike`: both are refused for the same reason, or both
succeed, leave everything outside the window that they write, and write the same if they have
read the same.  `Conversion.alike_copy` and `NumericType.alike_swapWindow` are the main
statements.
-/

namespace NumericBytes

open Window

namespace Edited

variable {α β : Type}

/-- Two runs of an edit, on `before` and `before'` and with the sources `units` and `units'`,
which read the first of the given windows and write the second if they succeed. -/
inductive Alike (windows? : Option (Window × Window)) (units units' : List α)
    (before before' : List β) : Edited (List β) → Edited (List β) → Prop
  | refused (error : OutOfBounds) :
    Alike windows? units units' before before' (.error (.outOfBounds error) before)
      (.error (.outOfBounds error) before')
  | done {read written : Window} {after after' : List β} (touched : windows? = some (read, written))
      (inside : written.stop ≤ before.length) (length : after.length = before.length)
      (length' : after'.length = before'.length) (outside : written.SameOutside before after)
      (outside' : written.SameOutside before' after')
      (agree : read.SameIn units units' → written.SameIn after after') :
    Alike windows? units units' before before' (.ok () after) (.ok () after')

variable {windows? : Option (Window × Window)} {units units' : List α} {before before' : List β}
  {edited edited' : Edited (List β)}

/-- Runs that fail for the same reason, if they fail, end alike if they do when they succeed. -/
theorem Alike.ofConserves (failures : edited'.failure? = edited.failure?)
    (conserves : Conserves List.length before edited)
    (conserves' : Conserves List.length before' edited')
    (succeeded : ∀ after after', edited = .ok () after → edited' = .ok () after' →
      Alike windows? units units' before before' (.ok () after) (.ok () after')) :
  Alike windows? units units' before before' edited edited'
  := by
  cases edited with
  | error failure after =>
    cases edited' with
    | error failure' after' =>
      obtain ⟨rfl, error, rfl⟩ := conserves.refused rfl
      obtain ⟨rfl, -⟩ := conserves'.refused rfl
      obtain rfl := Option.some_inj.mp failures
      apply refused
    | ok _ after' => contradiction
  | ok _ after =>
    cases edited' with
    | error failure' after' => contradiction
    | ok _ after' => apply succeeded _ _ rfl rfl

/-- Edits of the first units of two buffers of one length end alike as edits of the whole
buffers. -/
theorem Alike.append {n : Nat} (same : before'.length = before.length) (hn : n ≤ before.length)
    (h : Alike windows? units units' (before.take n) (before'.take n) edited edited') :
  Alike windows? units units' before before' (edited.map (· ++ before.drop n))
    (edited'.map (· ++ before'.drop n))
  := by
  have front := List.take_append_drop n before
  have front' := List.take_append_drop n before'
  cases h with
  | refused error =>
    rw [map, map, front, front']
    apply refused
  | done touched inside length length' outside outside' agree =>
    have whole := outside.append length (before.drop n)
    have whole' := outside'.append length' (before'.drop n)
    rw [front] at whole
    rw [front'] at whole'
    simp only [List.length_take] at inside length length'
    rw [map, map]
    apply done touched _ _ _ whole whole'
    · intro seen
      apply (agree seen).append
      · omega
      · omega
    · omega
    · rw [List.length_append, List.length_drop]
      omega
    · rw [List.length_append, List.length_drop]
      omega

/-- Edits that read the first units of a source only are alike as edits that read the source. -/
theorem Alike.ofTake {n : Nat}
    (h : Alike windows? (units.take n) (units'.take n) before before' edited edited') :
  Alike windows? units units' before before' edited edited'
  := by
  cases h with
  | refused error => apply refused
  | done touched inside length length' outside outside' agree =>
    apply done touched inside length length' outside outside'
    intro seen
    apply agree (seen.take n)

end Edited

open Edited

namespace Conversion

variable {α β : Type} {conversion : Conversion α β} {source source' : List α} {request : Request}
  {destination destination' result : List β}

theorem sameOutside_copy (h : conversion.copy source request destination = .ok () result) :
  (conversion.written request).SameOutside destination result
  := by
  obtain ⟨inside, inside', rfl⟩ := copy_eq_ok_iff.mp h
  apply sameOutside_splice (span_ordered ..) inside'.stop_le (length_converted inside)

/-- Copies with sources of one length to buffers of one length end alike. -/
theorem alike_copy (request : Request) (length : source'.length = source.length)
    (length' : destination'.length = destination.length) :
  Alike (some (conversion.read request, conversion.written request)) source source' destination
    destination' (conversion.copy source request destination)
    (conversion.copy source' request destination')
  := by
  have failures : Edited.failure? (conversion.copy source' request destination')
      = Edited.failure? (conversion.copy source request destination) := by
    rw [failure?_copy, failure?_copy, length, length']
  apply Alike.ofConserves failures (conserves_copy ..) (conserves_copy ..)
  intro after after' h h'
  obtain ⟨inside, inside', -⟩ := copy_eq_ok_iff.mp h
  apply Alike.done rfl inside'.stop_le (length_copy h) (length_copy h') (sameOutside_copy h)
    (sameOutside_copy h')
  intro seen
  have same : (conversion.read request).part source' = (conversion.read request).part source :=
    part_eq_of_sameIn (span_ordered ..) seen
  apply sameIn_of_part_eq
  rw [part_copy h, part_copy h', same]

/-- Copies that begin with the check of a signed request end alike if they are refused by it,
and as the copies that it asks for if not. -/
theorem alike_signed (request : SignedRequest) (length : source'.length = source.length)
    (length' : destination'.length = destination.length) :
  Alike (request.toRequest.toOption.map fun accepted =>
      (conversion.read accepted, conversion.written accepted))
    source source' destination destination'
    (Edit.signed (conversion.copy source) request destination)
    (Edit.signed (conversion.copy source') request destination')
  := by
  rw [Edit.signed, Edit.signed, Edit.check_bind, Edit.check_bind]
  cases h : request.toRequest with
  | ok accepted => apply alike_copy accepted length length'
  | error failure =>
    obtain ⟨error, rfl⟩ := request.onlyRefuses_toRequest _ h
    apply Alike.refused

end Conversion

namespace NumericType

variable {t : NumericType} {values values' : List t.Value}

/-- A swap leaves its window with what was there before, swapped, and the rest as it was. -/
theorem touched_swapWindow {offset count : UInt64} {result : List t.Value}
    (h : t.swapWindow offset count values = .ok () result) :
  (span offset count 1).part result = ((span offset count 1).part values).map t.swapped
    ∧ (span offset count 1).SameOutside values result
  := by
  obtain ⟨inside, rfl⟩ := swapWindow_eq_ok_iff.mp h
  have same : (((span offset count 1).part values).map t.swapped).length
      = (span offset count 1).stop - (span offset count 1).start := by
    rw [List.length_map, length_part inside.stop_le]
  use part_splice (span_ordered ..) inside.stop_le same
  apply sameOutside_splice (span_ordered ..) inside.stop_le same

/-- Swaps of buffers of one length end alike. -/
theorem alike_swapWindow (offset count : UInt64) (length : values'.length = values.length) :
  Alike (some (span offset count 1, span offset count 1)) values values' values values'
    (t.swapWindow offset count values) (t.swapWindow offset count values')
  := by
  have failures : Edited.failure? (t.swapWindow offset count values')
      = Edited.failure? (t.swapWindow offset count values) := by
    rw [failure?_swapWindow, failure?_swapWindow, length]
  have conserves := t.conserves_swapWindow offset count values
  have conserves' := t.conserves_swapWindow offset count values'
  apply Alike.ofConserves failures conserves conserves'
  intro after after' h h'
  obtain ⟨inside, -⟩ := swapWindow_eq_ok_iff.mp h
  obtain ⟨part, outside⟩ := touched_swapWindow h
  obtain ⟨part', outside'⟩ := touched_swapWindow h'
  apply Alike.done rfl inside.stop_le (conserves.kept h) (conserves'.kept h') outside outside'
  intro seen
  apply sameIn_of_part_eq
  rw [part, part', part_eq_of_sameIn (span_ordered ..) seen]

/-- Swaps of whole buffers of one length end alike. -/
theorem alike_swapAll (length : values'.length = values.length) :
  Alike (some (⟨0, values.length⟩, ⟨0, values.length⟩)) values values' values values'
    (t.swapAll values) (t.swapAll values')
  := by
  have outside {units : List t.Value} (h : units.length = values.length) :
      SameOutside ⟨0, values.length⟩ units (units.map t.swapped) := by
    intro k hk
    have beyond : units.length ≤ k := by
      apply Nat.le_of_not_lt
      intro inside
      apply hk
      exact ⟨Nat.zero_le k, h ▸ inside⟩
    rw [List.getElem?_map, List.getElem?_eq_none beyond]
    rfl
  apply Alike.done rfl (Nat.le_refl _) (List.length_map ..) (List.length_map ..) (outside rfl)
    (outside length)
  intro seen
  apply seen.map

end NumericType

end NumericBytes
