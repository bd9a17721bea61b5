import NumericBytes.Proofs.Codec.Locality
import NumericBytes.Proofs.Store.Failures

/-!
# Footprints of steps

A step that edits a buffer and succeeds touches two regions of the store, each a window of one
buffer: it reads one and writes the other (`Step.footprint?`).  A region is judged by the
patterns of the units in it, so that regions of bytes and of numbers of any type can be compared
(`Region.Same`), and a buffer is determined by its type and its patterns
(`Buffer.eq_of_patterns`).  `Footprint.Independent` says of two footprints that neither writes
where the other reads or writes, and `Answer.outcome` is what an answer says apart from the
contents of buffers.
-/

namespace NumericBytes

/-! ### Patterns of buffers -/

namespace Buffer

/-- The patterns of the units of a buffer. -/
def patterns : Buffer → List Nat
  | bytes units => units.map UInt8.toNat
  | numeric array => array.elements.map array.elementType.pattern

/-- Buffers of one type with the same patterns are equal. -/
theorem eq_of_patterns {buffer buffer' : Buffer}
    (sameType : buffer.elementType? = buffer'.elementType?)
    (h : buffer.patterns = buffer'.patterns) :
  buffer = buffer'
  := by
  cases buffer with
  | bytes units =>
    cases buffer' with
    | bytes units' =>
      rw [(List.map_inj_right fun _ _ => UInt8.toNat_inj.mp).mp h]
    | numeric array' => contradiction
  | numeric array =>
    cases buffer' with
    | bytes units' => contradiction
    | numeric array' =>
      obtain ⟨t, elements⟩ := array
      obtain ⟨t', elements'⟩ := array'
      obtain rfl : t = t' := Option.some_inj.mp sameType
      obtain rfl : elements = elements' :=
        (List.map_inj_right fun _ _ => t.pattern_injective).mp h
      rfl

end Buffer

/-! ### Regions -/

/-- A window of the buffer of a name. -/
structure Region where
  name : String
  window : Window

/-- No unit is in both regions. -/
def Region.Apart (region region' : Region) : Prop :=
  region.name = region'.name → region.window.Disjoint region'.window

/-- The pattern at a position of the buffer of a name. -/
def Store.pattern? (store : Store) (name : String) (k : Nat) : Option Nat :=
  (store.get? name).bind fun buffer => buffer.patterns[k]?

/-- The two stores hold the same in a region. -/
def Region.Same (region : Region) (store store' : Store) : Prop :=
  ∀ k ∈ region.window, store'.pattern? region.name k = store.pattern? region.name k

/-! ### Footprints -/

/-- The region that a step reads and the one that it writes. -/
structure Footprint where
  read : Region
  written : Region

namespace Footprint

/-- Neither footprint writes where the other reads or writes. -/
structure Independent (footprint footprint' : Footprint) : Prop where
  written_written : footprint.written.Apart footprint'.written
  written_read : footprint.written.Apart footprint'.read
  read_written : footprint.read.Apart footprint'.written

theorem Independent.symm {footprint footprint' : Footprint} (h : footprint.Independent footprint') :
  footprint'.Independent footprint
  := by
  constructor
  · intro name
    apply (h.written_written name.symm).symm
  · intro name
    apply (h.read_written name.symm).symm
  · intro name
    apply (h.written_read name.symm).symm

/-- The footprint of a copy from one window to another. -/
def between (source destination : String) (windows : Window × Window) : Footprint :=
  ⟨⟨source, windows.1⟩, ⟨destination, windows.2⟩⟩

/-- The footprint of a copy between a buffer of bytes and one of numbers, in which a value is
`width` bytes of the one and one unit of the other. -/
def ofCopy? (store : Store) (source destination : String) (request : Request) : Option Footprint :=
  match store.get? source, store.get? destination with
  | some (.bytes _), some (.numeric array) =>
    some <| between source destination
      (.span request.sourceOffset request.count array.elementType.width,
        .span request.destinationOffset request.count 1)
  | some (.numeric array), some (.bytes _) =>
    some <| between source destination
      (.span request.sourceOffset request.count 1,
        .span request.destinationOffset request.count array.elementType.width)
  | _, _ => none

/-- The footprint of a swap, which reads and writes one window. -/
def ofSwap (name : String) (window : Window) : Footprint := between name name (window, window)

end Footprint

namespace Step

/-- The regions that the request of a step names, if it edits a buffer. -/
def named? (store : Store) : Step → Option Footprint
  | decode _ source destination request | encode _ source destination request =>
    Footprint.ofCopy? store source destination request
  | copy source destination request | copyLent source destination _ _ request =>
    request.toRequest.toOption.bind (Footprint.ofCopy? store source destination)
  | swapWindow destination offset count => some (.ofSwap destination (.span offset count 1))
  | swapAll destination =>
    (store.get? destination).map fun buffer => .ofSwap destination ⟨0, buffer.length⟩
  | decodeFresh .. | encodeFresh .. => none

/-- What a step touches: the regions that its request names, if it succeeds, and none if it
fails. -/
def footprint? (store : Store) (step : Step) : Option Footprint :=
  match step.effect? store with
  | some (answer, _) => if answer.succeeded then step.named? store else none
  | none => none

/-- In each buffer that both steps touch, neither writes where the other reads or writes. -/
def Independent (store : Store) (first second : Step) : Prop :=
  ∀ footprint ∈ first.footprint? store, ∀ footprint' ∈ second.footprint? store,
    footprint.Independent footprint'

end Step

/-! ### Outcomes -/

/-- How a step ends, apart from what is in its buffers. -/
inductive Outcome where
  | edited (failure? : Option Failure)
  | copied (direction : Direction) (elementType : NumericType) (failure? : Option Failure)
  | returned (status : Status)
  | made (failure? : Option Failure)

/-- What an answer says of how the step ended. -/
def Answer.outcome : Answer → Outcome
  | edited failure? _ => .edited failure?
  | copied direction elementType failure? _ => .copied direction elementType failure?
  | returned status _ => .returned status
  | made outcome => .made (Failure.of? outcome)

end NumericBytes
