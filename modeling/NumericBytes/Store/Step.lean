import NumericBytes.Codec.Fresh
import NumericBytes.Foreign.Copy
import NumericBytes.Store.Basic
import NumericBytes.Transfer

/-!
# Steps on a store

A `Step` is one operation on the buffers of a store, which it names.  `Step.run?` carries it
out: the result is the answer of the operation and the store with the destination as the
operation leaves it.  There is none for a step that does not fit the store, which names a
buffer that does not exist or holds units of the wrong kind, or lends more of a buffer than
there is.  `Store.run?` carries out a list
of steps.
-/

namespace NumericBytes

/-- One operation on named buffers. -/
inductive Step where
  | decode (order : ByteOrder) (source destination : String) (request : Request)
  | encode (order : ByteOrder) (source destination : String) (request : Request)
  | copy (source destination : String) (request : SignedRequest)
  | copyLent (source destination : String) (sourceLoan destinationLoan : Loan)
      (request : SignedRequest)
  | swapWindow (destination : String) (offset count : UInt64)
  | swapAll (destination : String)
  | decodeFresh (elementType : NumericType) (source destination : String) (offset count : UInt64)
  | encodeFresh (source destination : String) (offset count : UInt64)
  deriving DecidableEq

/-- What a step answers. -/
inductive Answer where
  /-- A buffer was edited: how that failed, if it did, and what the buffer holds afterwards. -/
  | edited (failure? : Option Failure) (contents : Buffer)
  /-- As `edited`, for a copy along a transfer of this direction and type. -/
  | copied (direction : Direction) (elementType : NumericType) (failure? : Option Failure)
      (contents : Buffer)
  /-- Lent buffers were copied: the status, and what the destination holds afterwards. -/
  | returned (status : Status) (contents : Option Buffer)
  /-- A fresh buffer was made, or not. -/
  | made (outcome : Except Failure Buffer)

/-- Whether the step succeeded. -/
def Answer.succeeded : Answer → Bool
  | edited failure? _ => failure?.isNone
  | copied _ _ failure? _ => failure?.isNone
  | returned status _ => status == .ok
  | made outcome => outcome.isOk

namespace Step

/-- The name of the buffer that a step writes. -/
def destination : Step → String
  | decode _ _ destination _ => destination
  | encode _ _ destination _ => destination
  | copy _ destination _ => destination
  | copyLent _ destination _ _ _ => destination
  | swapWindow destination _ _ => destination
  | swapAll destination => destination
  | decodeFresh _ _ destination _ _ => destination
  | encodeFresh _ destination _ _ => destination

/-! ### Answers -/

/-- The answer of an edit, and the buffer afterwards. -/
def ofEdited {σ : Type} (edited : Edited σ) (buffer : σ → Buffer) : Answer × Option Buffer :=
  (.edited edited.failure? (buffer edited.state), some (buffer edited.state))

/-- The answer of a copy along a transfer, and the destination afterwards. -/
def ofTransfer (edited : Edited Transfer) : Answer × Option Buffer :=
  let transfer := edited.state
  (.copied transfer.direction transfer.elementType edited.failure? transfer.destination,
    some transfer.destination)

/-- The answer of a copy between lent buffers, and the destination afterwards, which is as it was
before if null was given instead of it. -/
def ofReturned {σ : Type} (returned : Status × Option σ) (before : σ) (buffer : σ → Buffer) :
    Answer × Option Buffer :=
  (.returned returned.1 (returned.2.map buffer), some (buffer (returned.2.getD before)))

/-- The answer of a copy into a fresh buffer, and the buffer if it was made. -/
def ofMade {σ : Type} (outcome : Except Failure σ) (buffer : σ → Buffer) :
    Answer × Option Buffer :=
  (.made (outcome.map buffer), (outcome.map buffer).toOption)

/-! ### Running steps -/

/-- The answer of a step, and what its destination holds afterwards. -/
def effect? (store : Store) : Step → Option (Answer × Option Buffer)
  | decode order source destination request =>
    match store.get? source, store.get? destination with
    | some (.bytes units), some (.numeric ⟨t, elements⟩) =>
      some (ofEdited (t.decodeInto order units request elements) fun elements =>
        .numeric ⟨t, elements⟩)
    | _, _ => none
  | encode order source destination request =>
    match store.get? source, store.get? destination with
    | some (.numeric ⟨t, elements⟩), some (.bytes units) =>
      some (ofEdited (t.encodeInto order elements request units) .bytes)
    | _, _ => none
  | copy source destination request => do
    let transfer ← Transfer.ofBuffers? (← store.get? source) (← store.get? destination)
    return ofTransfer (Transfer.copy request transfer)
  | copyLent source destination sourceLoan destinationLoan request =>
    match store.get? source, store.get? destination with
    | some (.bytes units), some (.numeric ⟨t, elements⟩) => do
      let lentSource ← sourceLoan.lend? units
      let lentDestination ← destinationLoan.lend? elements
      return ofReturned (t.decodeLent lentSource lentDestination request) elements
        fun elements => .numeric ⟨t, elements⟩
    | some (.numeric ⟨t, elements⟩), some (.bytes units) => do
      let lentSource ← sourceLoan.lend? elements
      let lentDestination ← destinationLoan.lend? units
      return ofReturned (t.encodeLent lentSource lentDestination request) units .bytes
    | _, _ => none
  | swapWindow destination offset count =>
    match store.get? destination with
    | some (.numeric ⟨t, elements⟩) =>
      some (ofEdited (t.swapWindow offset count elements) fun elements => .numeric ⟨t, elements⟩)
    | _ => none
  | swapAll destination =>
    match store.get? destination with
    | some (.numeric ⟨t, elements⟩) =>
      some (ofEdited (t.swapAll elements) fun elements => .numeric ⟨t, elements⟩)
    | _ => none
  | decodeFresh t source _ offset count =>
    match store.get? source with
    | some (.bytes units) =>
      some (ofMade (t.decodeFresh units offset count) fun elements => .numeric ⟨t, elements⟩)
    | _ => none
  | encodeFresh source _ offset count =>
    match store.get? source with
    | some (.numeric ⟨t, elements⟩) =>
      some (ofMade (t.encodeFresh elements offset count) .bytes)
    | _ => none

/-- Carries out a step: its answer, and the store with the destination as the step leaves it. -/
def run? (store : Store) (step : Step) : Option (Answer × Store) := do
  let (answer, contents) ← step.effect? store
  match contents with
  | some buffer => return (answer, store.put step.destination buffer)
  | none => return (answer, store)

end Step

/-- Carries out steps one after the other. -/
def Store.run? (store : Store) : List Step → Option (List Answer × Store)
  | [] => some ([], store)
  | step :: steps => do
    let (answer, store) ← step.run? store
    let (answers, store) ← store.run? steps
    return (answer :: answers, store)

end NumericBytes
