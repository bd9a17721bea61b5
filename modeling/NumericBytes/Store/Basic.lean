import NumericBytes.Buffer

/-!
# Stores of named buffers

A `Store` is a list of buffers under names.  `Store.put` overwrites the buffer of a name in
its place, or adds one at the end; `get?_put` says what is found afterwards, and
`put_of_get?` that putting back what is there changes nothing.  `put_put` and `put_comm` say
what becomes of two buffers that are put one after the other.
-/

namespace NumericBytes

/-- Buffers under names. -/
structure Store where
  entries : List (String × Buffer)
  deriving DecidableEq

namespace Store

/-- The buffer of a name. -/
def get? (store : Store) (name : String) : Option Buffer :=
  store.entries.lookup name

/-- The entries with the buffer of a name overwritten, or added if there is none. -/
def putEntry (name : String) (buffer : Buffer) : List (String × Buffer) → List (String × Buffer)
  | [] => [(name, buffer)]
  | entry :: entries =>
    if entry.1 = name then (name, buffer) :: entries
    else entry :: putEntry name buffer entries

/-- Puts a buffer under a name. -/
def put (store : Store) (name : String) (buffer : Buffer) : Store :=
  ⟨putEntry name buffer store.entries⟩

/-- What is found under a name after a buffer has been put under one. -/
theorem get?_put (store : Store) (name name' : String) (buffer : Buffer) :
  (store.put name buffer).get? name' = if name' = name then some buffer else store.get? name'
  := by
  obtain ⟨entries⟩ := store
  simp only [get?, put]
  induction entries with
  | nil =>
    by_cases h : name' = name
    · simp [putEntry, h]
    · simp [putEntry, List.lookup_cons, beq_false_of_ne h, h]
  | cons entry entries ih =>
    obtain ⟨found, held⟩ := entry
    by_cases hfound : found = name
    · by_cases h : name' = name
      · simp [putEntry, hfound, h]
      · simp [putEntry, hfound, List.lookup_cons, beq_false_of_ne h, h]
    · by_cases h : name' = found
      · simp [putEntry, hfound, h]
      · simp [putEntry, hfound, List.lookup_cons, beq_false_of_ne h, ih]

/-- Putting back the buffer that a name has changes nothing. -/
theorem put_of_get? {store : Store} {name : String} {buffer : Buffer}
    (h : store.get? name = some buffer) :
  store.put name buffer = store
  := by
  obtain ⟨entries⟩ := store
  simp only [get?, put, mk.injEq] at h ⊢
  induction entries with
  | nil => simp at h
  | cons entry entries ih =>
    obtain ⟨found, held⟩ := entry
    by_cases hfound : found = name
    · simp_all [putEntry]
    · rw [List.lookup_cons, beq_false_of_ne (Ne.symm hfound)] at h
      simp only [putEntry, hfound, if_false, ih h]

/-- Of two buffers put under one name the second remains. -/
theorem put_put (store : Store) (name : String) (buffer buffer' : Buffer) :
  (store.put name buffer).put name buffer' = store.put name buffer'
  := by
  obtain ⟨entries⟩ := store
  simp only [put, mk.injEq]
  induction entries with
  | nil => simp [putEntry]
  | cons entry entries ih =>
    by_cases hfound : entry.1 = name
    · simp [putEntry, hfound]
    · simp [putEntry, hfound, ih]

/-- Buffers can be put under two names in either order, if one of the names has a buffer. -/
theorem put_comm {store : Store} {name name' : String} (ne : name ≠ name') {held : Buffer}
    (h : store.get? name = some held) (buffer buffer' : Buffer) :
  (store.put name buffer).put name' buffer' = (store.put name' buffer').put name buffer
  := by
  obtain ⟨entries⟩ := store
  simp only [get?, put, mk.injEq] at h ⊢
  induction entries with
  | nil => contradiction
  | cons entry entries ih =>
    by_cases hfound : entry.1 = name
    · simp [putEntry, hfound, ne]
    · by_cases hfound' : entry.1 = name'
      · simp [putEntry, hfound', ne.symm]
      · rw [List.lookup_cons, beq_false_of_ne (Ne.symm hfound)] at h
        simp [putEntry, hfound, hfound', ih h]

end Store

end NumericBytes
