import NumericBytes.Proofs.Codec.Elements
import NumericBytes.Proofs.CopyCall.Basic

/-!
# The last covering call

Calls that overwrite windows of one buffer may cover a position several times.  Carried out in turn
(`CopyCall.inTurn?`), they leave at each position what the last successful one that covers it
(`CopyCall.lastCovering?`) has written there, and what was there at first if there is none.  This
holds of calls that each leave in their window what depends on the call alone, and the rest as it
was (`CopyCall.Overwrites`, `exists_inTurn?`).  `last_covering_call_wins` says so of decoding calls
on a buffer of numbers, in any orders, and of encoding calls on a buffer of bytes, of any types and
in any orders.
-/

namespace NumericBytes

namespace CopyCall

/-! ### Calls in turn -/

section Turns

variable {κ β : Type}

/-- Carries out calls in turn: which of them succeeded, and the buffer at the end. -/
def inTurn? (perform? : κ → List β → Option (Bool × List β)) :
    List κ → List β → Option (List Bool × List β)
  | [], buffer => some ([], buffer)
  | call :: calls, buffer => do
    let (succeeded, buffer) ← perform? call buffer
    let (successes, buffer) ← inTurn? perform? calls buffer
    return (succeeded :: successes, buffer)

/-- The last of the calls that succeeded and have a position in their window. -/
def lastCovering? (window : κ → Window) (i : Nat) (calls : List κ) (successes : List Bool) :
    Option κ :=
  let covering := (calls.zip successes).filter fun run => run.2 && decide (i ∈ window run.1)
  covering.getLast?.map Prod.fst

theorem lastCovering?_cons (window : κ → Window) (i : Nat) (call : κ) (calls : List κ)
    (succeeded : Bool) (successes : List Bool) :
  lastCovering? window i (call :: calls) (succeeded :: successes)
    = (lastCovering? window i calls successes).or
        (if succeeded ∧ i ∈ window call then some call else none)
  := by
  rw [lastCovering?, lastCovering?, List.zip_cons_cons, List.filter_cons]
  dsimp only
  by_cases covers : succeeded ∧ i ∈ window call
  · rw [if_pos covers, if_pos (by rwa [Bool.and_eq_true, decide_eq_true_eq]), List.getLast?_cons]
    cases (List.getLast? _ : Option (κ × Bool)) with
    | some run => rfl
    | none => rfl
  · rw [if_neg covers, if_neg (by rwa [Bool.and_eq_true, decide_eq_true_eq]), Option.or_none]

/-- The call can be carried out on buffers of the given length, and keeps the length.  If it
succeeds, it is sound, and it leaves the given units in its window; all others are as before. -/
def Overwrites (perform? : κ → List β → Option (Bool × List β)) (length : Nat)
    (window : κ → Window) (value : κ → Nat → Option β) (sound : κ → Prop) (call : κ) : Prop :=
  ∀ before : List β, before.length = length → ∃ succeeded after,
    perform? call before = some (succeeded, after)
      ∧ after.length = length
      ∧ (succeeded = true → sound call)
      ∧ ∀ i, after[i]? = if succeeded ∧ i ∈ window call then value call i else before[i]?

variable {perform? : κ → List β → Option (Bool × List β)} {length : Nat} {window : κ → Window}
  {value : κ → Nat → Option β} {sound : κ → Prop}

/-- Calls that overwrite their windows can be carried out in turn.  At each position the last
successful one that covers it decides, or the buffer at the beginning if there is none. -/
theorem exists_inTurn? {calls : List κ}
    (overwrites : ∀ call ∈ calls, Overwrites perform? length window value sound call)
    {initial : List β} (hlength : initial.length = length) :
  ∃ successes final, inTurn? perform? calls initial = some (successes, final)
    ∧ final.length = length
    ∧ ∀ i, (∀ call, lastCovering? window i calls successes = some call →
        sound call ∧ i ∈ window call ∧ final[i]? = value call i)
      ∧ (lastCovering? window i calls successes = none → final[i]? = initial[i]?)
  := by
  induction calls generalizing initial with
  | nil =>
    use [], initial, rfl, hlength
    intro i
    constructor
    · intro call h
      contradiction
    · intro _
      rfl
  | cons call calls ih =>
    obtain ⟨first, rest⟩ := List.forall_mem_cons.mp overwrites
    obtain ⟨succeeded, after, hcall, hafter, hsound, cells⟩ := first initial hlength
    obtain ⟨successes, final, hcalls, hfinal, last⟩ := ih rest hafter
    use succeeded :: successes, final
    constructor
    · rw [inTurn?, hcall, Option.bind_eq_bind, Option.bind_some]
      dsimp only
      rw [hcalls]
      rfl
    · use hfinal
      intro i
      obtain ⟨covered, uncovered⟩ := last i
      rw [lastCovering?_cons]
      -- A later call that covers the position hides what the first call has left there.
      cases hlast : lastCovering? window i calls successes with
      | some later =>
        constructor
        · rintro _ ⟨⟩
          apply covered later hlast
        · intro h
          contradiction
      | none =>
        rw [Option.none_or, uncovered hlast, cells i]
        by_cases covers : succeeded ∧ i ∈ window call
        · rw [if_pos covers, if_pos covers]
          constructor
          · rintro _ ⟨⟩
            use hsound covers.1, covers.2
          · intro h
            contradiction
        · rw [if_neg covers, if_neg covers]
          constructor
          · intro _ h
            contradiction
          · intro _
            rfl

/-- A call overwrites its window if it ends as the copy of a conversion does. -/
theorem Overwrites.ofEnds {α : Type} {conversion : Conversion α β} {source : List α}
    {request : Request} {call : κ}
    (ends : ∀ before : List β, before.length = length → ∃ succeeded after,
      perform? call before = some (succeeded, after)
        ∧ conversion.Ends source request before succeeded after)
    (hwindow : window call = conversion.written request)
    (hvalue : ∀ i ∈ conversion.written request, value call i
      = (conversion.convert request.count.toNat
          ((conversion.read request).part source))[i - request.destinationOffset.toNat]?)
    (hsound : (conversion.read request).stop ≤ source.length →
      (conversion.written request).stop ≤ length → sound call) :
  Overwrites perform? length window value sound call
  := by
  rintro before rfl
  obtain ⟨succeeded, after, hcall, h⟩ := ends before rfl
  use succeeded, after, hcall, h.length_eq
  constructor
  · rintro rfl
    apply hsound h.inside.1 h.inside.2
  · intro i
    rw [h.getElem?_eq i, hwindow]
    split
    · rename_i covers
      symm
      apply hvalue i covers.2
    · rfl

end Turns

end CopyCall

/-! ### What calls write -/

namespace CopyCall

/-- The bytes from which a decoding call makes the value at a position of its window. -/
def bytesAt (t : NumericType) (call : CopyCall UInt8) (i : Nat) : List UInt8 :=
  let passed := i - call.request.destinationOffset.toNat
  (call.source.drop (call.request.sourceOffset.toNat + passed * t.width)).take t.width

/-- The bytes that an encoding call writes into its window. -/
def encoded {t : NumericType} (call : CopyCall t.Value) : List UInt8 :=
  let values := call.source.drop call.request.sourceOffset.toNat
  t.encode call.order (values.take call.request.count.toNat)

/-- Carries out decoding calls in turn. -/
def decodeInTurn? (t : NumericType) :
    List (CopyCall UInt8) → List t.Value → Option (List Bool × List t.Value) :=
  inTurn? fun call => call.decode? t

/-- Carries out encoding calls in turn, of any types. -/
def encodeInTurn? :
    List ((t : NumericType) × CopyCall t.Value) → List UInt8 → Option (List Bool × List UInt8) :=
  inTurn? fun call => call.2.encode?

/-- The last successful decoding call that covers a position. -/
def lastDecoding? : Nat → List (CopyCall UInt8) → List Bool → Option (CopyCall UInt8) :=
  lastCovering? (window 1)

/-- The last successful encoding call that covers a position. -/
def lastEncoding? :
    Nat → List ((t : NumericType) × CopyCall t.Value) → List Bool →
      Option ((t : NumericType) × CopyCall t.Value) :=
  lastCovering? fun call => call.2.window call.1.width

/-- The bytes of a value in the window of a call lie in the window that is read. -/
theorem passed_lt (t : NumericType) {call : CopyCall UInt8} {i : Nat} (h : i ∈ call.window 1) :
  i - call.request.destinationOffset.toNat < call.request.count.toNat
    ∧ call.request.sourceOffset.toNat
        + (i - call.request.destinationOffset.toNat) * t.width + t.width
      ≤ ((t.decoding call.order).read call.request).stop
  := by
  obtain ⟨first, last⟩ := Window.mem_iff.mp h
  change _ < _ + _ * 1 at last
  have passed : i - call.request.destinationOffset.toNat < call.request.count.toNat := by
    change call.request.destinationOffset.toNat ≤ i at first
    omega
  use passed
  rw [Nat.add_assoc]
  apply Nat.add_le_add_left (t.width_room passed)

/-- The bytes of a value in the window of a call are all there, if the window that is read lies in
the source. -/
theorem length_bytesAt {t : NumericType} {call : CopyCall UInt8} {i : Nat}
    (covers : i ∈ call.window 1)
    (inside : ((t.decoding call.order).read call.request).stop ≤ call.source.length) :
  (call.bytesAt t i).length = t.width
  := by
  have room := Nat.le_trans (passed_lt t covers).2 inside
  rw [bytesAt, List.length_take, List.length_drop]
  omega

theorem overwrites_decode {t : NumericType} {length : Nat} {call : CopyCall UInt8}
    (fits : call.Fits length) :
  Overwrites (fun call => call.decode? t) length (window 1)
    (fun call i => some (t.ofBytes call.order (call.bytesAt t i)))
    (fun call => ((t.decoding call.order).read call.request).stop ≤ call.source.length) call
  := by
  apply Overwrites.ofEnds
  · rintro before rfl
    apply decode?_ends fits
  · rfl
  · intro i covered
    obtain ⟨passed, inside⟩ := passed_lt t covered
    symm
    apply Eq.trans (t.getElem?_decode call.order passed _)
    rw [Window.take_drop_part inside]
    rfl
  · intro inside _
    apply inside

theorem overwrites_encode {length : Nat} {call : (t : NumericType) × CopyCall t.Value}
    (fits : call.2.Fits length) :
  Overwrites (fun call => call.2.encode?) length (fun call => call.2.window call.1.width)
    (fun call p => call.2.encoded[p - call.2.request.destinationOffset.toNat]?)
    (fun call => (call.2.window call.1.width).stop ≤ length) call
  := by
  obtain ⟨t, call⟩ := call
  apply Overwrites.ofEnds
  · rintro before rfl
    apply encode?_ends fits
  · rfl
  · intro p _
    have part : ((t.encoding call.order).read call.request).part call.source
        = (call.source.drop call.request.sourceOffset.toNat).take call.request.count.toNat := by
      rw [Window.part, List.drop_take, Conversion.read, Window.size_span]
      congr 1
      apply Nat.mul_one
    rw [part]
    rfl
  · intro _ inside
    apply inside

end CopyCall

open CopyCall

/-- Decoding calls leave in a buffer of numbers, at each position, the value that the bytes for it
spell in the source of the last successful call that covers it, read in the order of this call;
and encoding calls leave in a buffer of bytes, at each position, the byte there of what the last
successful call that covers it writes.  A position that no successful call covers is as it was.
The length never changes. -/
theorem last_covering_call_wins :
  (∀ (t : NumericType) (calls : List (CopyCall UInt8)) (initial : List t.Value),
    (∀ call ∈ calls, call.Fits initial.length) →
    ∃ successes final,
      decodeInTurn? t calls initial = some (successes, final)
        ∧ final.length = initial.length
        ∧ ∀ i, (∀ call, lastDecoding? i calls successes = some call →
            (call.bytesAt t i).length = t.width
              ∧ final[i]? = some (t.ofBytes call.order (call.bytesAt t i)))
          ∧ (lastDecoding? i calls successes = none → final[i]? = initial[i]?))
  ∧ ∀ (calls : List ((t : NumericType) × CopyCall t.Value)) (initial : List UInt8),
    (∀ call ∈ calls, call.2.Fits initial.length) →
    ∃ successes final,
      encodeInTurn? calls initial = some (successes, final)
        ∧ final.length = initial.length
        ∧ ∀ p, (∀ call, lastEncoding? p calls successes = some call → ∃ byte,
            call.2.encoded[p - call.2.request.destinationOffset.toNat]? = some byte
              ∧ final[p]? = some byte)
          ∧ (lastEncoding? p calls successes = none → final[p]? = initial[p]?)
  := by
  constructor
  · intro t calls initial fits
    obtain ⟨successes, final, hcalls, hlength, last⟩ := exists_inTurn?
      (fun call member => overwrites_decode (fits call member)) rfl
    use successes, final, hcalls, hlength
    intro i
    obtain ⟨covered, uncovered⟩ := last i
    constructor
    · intro call hcall
      obtain ⟨sound, covers, cell⟩ := covered call hcall
      use length_bytesAt covers sound, cell
    · apply uncovered
  · intro calls initial fits
    obtain ⟨successes, final, hcalls, hlength, last⟩ := exists_inTurn?
      (fun call member => overwrites_encode (fits call member)) rfl
    use successes, final, hcalls, hlength
    intro p
    obtain ⟨covered, uncovered⟩ := last p
    constructor
    · intro call hcall
      obtain ⟨sound, covers, cell⟩ := covered call hcall
      have inside : p < final.length := by
        rw [hlength]
        apply Nat.lt_of_lt_of_le covers.2 sound
      rw [← cell]
      use final[p], List.getElem?_eq_getElem inside
      apply List.getElem?_eq_getElem inside
    · apply uncovered

/-- The second of these decoding calls overwrites what the first has left at one position, and the
third fails.  Of the encoding calls the second cuts through the value that the first has written. -/
theorem last_covering_call_wins_overlapping :
  (∃ successes final,
    decodeInTurn? .int16
        [.checked .big [1, 2, 3, 4] ⟨0, 0, 2⟩, .lent (.whole [9, 5, 6]) 2 ⟨1, 1, 1⟩,
          .along [7] ⟨0, 0, 1⟩]
        [0, 0, 8]
      = some (successes, final)
    ∧ final[0]? = some (0x0102 : Int16)
    ∧ final[1]? = some (0x0605 : Int16)
    ∧ final[2]? = some (8 : Int16))
  ∧ ∃ successes final,
    encodeInTurn?
        [⟨.int32, .checked .big [(0x01020304 : Int32)] ⟨0, 0, 1⟩⟩,
          ⟨.int16, .along [(0x0506 : Int16)] ⟨0, 1, 1⟩⟩]
        [0, 0, 0, 0, 9]
      = some (successes, final)
    ∧ final[0]? = some 1
    ∧ final[1]? = some 6
    ∧ final[3]? = some 4
    ∧ final[4]? = some 9
  := by
  constructor
  · obtain ⟨successes, final, run, -, last⟩ := last_covering_call_wins.1 .int16
      [.checked .big [1, 2, 3, 4] ⟨0, 0, 2⟩, .lent (.whole [9, 5, 6]) 2 ⟨1, 1, 1⟩,
        .along [7] ⟨0, 0, 1⟩]
      [(0 : Int16), 0, 8] (by simp [Fits])
    use successes, final, run
    obtain ⟨rfl, rfl⟩ := Prod.mk.inj (Option.some_inj.mp run)
    use ((last 0).1 _ rfl).2, ((last 1).1 _ rfl).2
    apply (last 2).2 rfl
  · obtain ⟨successes, final, run, -, last⟩ := last_covering_call_wins.2
      [⟨.int32, .checked .big [(0x01020304 : Int32)] ⟨0, 0, 1⟩⟩,
        ⟨.int16, .along [(0x0506 : Int16)] ⟨0, 1, 1⟩⟩]
      [0, 0, 0, 0, 9] (by simp [Fits])
    use successes, final, run
    obtain ⟨rfl, rfl⟩ := Prod.mk.inj (Option.some_inj.mp run)
    obtain ⟨first, hfirst, cell₀⟩ := (last 0).1 _ rfl
    obtain ⟨second, hsecond, cell₁⟩ := (last 1).1 _ rfl
    obtain ⟨fourth, hfourth, cell₃⟩ := (last 3).1 _ rfl
    obtain rfl : 1 = first := Option.some_inj.mp hfirst
    obtain rfl : 6 = second := Option.some_inj.mp hsecond
    obtain rfl : 4 = fourth := Option.some_inj.mp hfourth
    use cell₀, cell₁, cell₃
    apply (last 4).2 rfl

end NumericBytes
