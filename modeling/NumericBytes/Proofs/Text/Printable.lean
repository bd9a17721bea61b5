import NumericBytes.Text.Quoted
import Mathlib.Tactic.IntervalCases

/-!
# Escaped text is printable

What `escape` makes of a text is printable ASCII, whatever the text is
(`isPrintable_of_mem_escape`).  The only blanks of an argument that is shown are therefore spaces
(`onlySpaces_shown`): either it has no blank, or it is escaped.  A text with no blanks but spaces is
a single line, and lines that are written one after the other are the pieces of the text between its
line feeds (`pieces_join`).
-/

namespace NumericBytes.Text

/-! ### Printable characters -/

/-- A character is printable ASCII. -/
def IsPrintable (c : Char) : Prop :=
  ' ' ≤ c ∧ c ≤ '~'

instance : DecidablePred IsPrintable :=
  fun c => inferInstanceAs (Decidable (' ' ≤ c ∧ c ≤ '~'))

/-- The characters of a text are printable if a test of each of them in turn says so. -/
theorem isPrintable_of_all {text : List Char} (all : text.all (decide <| IsPrintable ·)) :
  ∀ c ∈ text, IsPrintable c
  := by
  intro c mem
  exact of_decide_eq_true (List.all_eq_true.mp all c mem)

/-- A digit is printable. -/
theorem isPrintable_digitChar {digit : Nat} (less : digit < 16) :
  IsPrintable digit.digitChar
  := by
  interval_cases digit <;> decide

/-- The digits of a number are printable. -/
theorem isPrintable_of_mem_toDigits
    {base : Nat} (least : 1 < base) (greatest : base ≤ 16) (n : Nat) {c : Char}
    (mem : c ∈ Nat.toDigits base n) :
  IsPrintable c
  := by
  induction n using Nat.strongRecOn with
  | ind n ih =>
    rw [Nat.toDigits_eq_if least] at mem
    split at mem
    · rw [List.mem_singleton] at mem
      rw [mem]
      apply isPrintable_digitChar
      omega
    · rcases List.mem_append.mp mem with earlier | last
      · apply ih (n / base) _ earlier
        apply Nat.div_lt_self (by omega) least
      · rw [List.mem_singleton] at last
        rw [last]
        apply isPrintable_digitChar
        have := Nat.mod_lt n (by omega : base > 0)
        omega

namespace Quoted

/-- The escaped form of a character is printable. -/
theorem isPrintable_of_mem_escapeChar (original : Char) :
  ∀ c ∈ escapeChar original, IsPrintable c
  := by
  unfold escapeChar
  split_ifs with tab carriageReturn lineFeed quote plain
  · exact isPrintable_of_all rfl
  · exact isPrintable_of_all rfl
  · exact isPrintable_of_all rfl
  · rcases quote with rfl | rfl | rfl <;> exact isPrintable_of_all rfl
  · rw [List.forall_mem_singleton]
    exact plain
  · simp only [List.forall_mem_append]
    refine ⟨⟨isPrintable_of_all rfl, ?_⟩, isPrintable_of_all rfl⟩
    intro c digit
    apply isPrintable_of_mem_toDigits _ _ _ digit <;> decide

/-- The escaped form of a text is printable. -/
theorem isPrintable_of_mem_escape (text : List Char) :
  ∀ c ∈ escape text, IsPrintable c
  := by
  intro c mem
  obtain ⟨original, -, mem⟩ := List.mem_flatMap.mp mem
  exact isPrintable_of_mem_escapeChar original c mem

end Quoted

/-! ### Lines -/

/-- A text is a single line. -/
def IsLine (text : String) : Prop :=
  '\n' ∉ text.toList

instance : DecidablePred IsLine :=
  fun text => inferInstanceAs (Decidable ('\n' ∉ text.toList))

/-- The pieces into which a text is cut by its line feeds. -/
def pieces (text : String) : List String :=
  (text.toList.splitOn '\n').map String.ofList

/-- A line is the first piece of a text in which a line feed follows it. -/
theorem pieces_append {line : String} (h : IsLine line) (text : String) :
  pieces (line ++ "\n" ++ text) = line :: pieces text
  := by
  have characters : (line ++ "\n" ++ text).toList = line.toList ++ '\n' :: text.toList := by simp
  rw [pieces, characters, List.splitOn_append_cons_self_of_not_mem h, List.map_cons,
    String.ofList_toList]
  rfl

/-- Lines that each end with a line feed are the pieces of their text, and nothing follows them. -/
theorem pieces_join {lines : List String} (h : ∀ line ∈ lines, IsLine line) :
  pieces (String.join (lines.map fun line => line ++ "\n")) = lines ++ [""]
  := by
  induction lines with
  | nil => rfl
  | cons line lines ih =>
    obtain ⟨first, others⟩ := List.forall_mem_cons.mp h
    rw [List.map_cons, String.join_cons, pieces_append first, ih others, List.cons_append]

/-! ### Blanks -/

/-- The only blanks of a text are spaces. -/
def OnlySpaces (text : String) : Prop :=
  ∀ c ∈ text.toList, Quoted.isBlank c → c = ' '

instance : DecidablePred OnlySpaces :=
  fun text => List.decidableBAll (fun c => Quoted.isBlank c → c = ' ') text.toList

theorem OnlySpaces.isLine {text : String} (h : OnlySpaces text) :
  IsLine text
  := by
  intro mem
  have space : '\n' = ' ' := h '\n' mem rfl
  contradiction

theorem OnlySpaces.append {first second : String} (hfirst : OnlySpaces first)
    (hsecond : OnlySpaces second) :
  OnlySpaces (first ++ second)
  := by
  rw [OnlySpaces, String.toList_append, List.forall_mem_append]
  exact ⟨hfirst, hsecond⟩

theorem OnlySpaces.join {texts : List String} (h : ∀ text ∈ texts, OnlySpaces text) :
  OnlySpaces (String.join texts)
  := by
  intro c mem
  rw [String.toList_join, List.mem_flatMap] at mem
  obtain ⟨text, htext, mem⟩ := mem
  exact h text htext c mem

/-- The only blanks among printable characters are spaces. -/
theorem onlySpaces_ofList {text : List Char} (printable : ∀ c ∈ text, IsPrintable c) :
  OnlySpaces (String.ofList text)
  := by
  intro c mem blank
  rw [String.toList_ofList] at mem
  simp only [Quoted.isBlank, Bool.or_eq_true, beq_iff_eq] at blank
  -- The other blanks are control characters, which are not printable.
  rcases blank with (((space | rfl) | rfl) | rfl) | rfl
  · exact space
  all_goals exact absurd (printable _ mem) (by decide)

theorem onlySpaces_repr (n : Nat) :
  OnlySpaces n.repr
  := by
  rw [Nat.repr_eq_ofList_toDigits]
  apply onlySpaces_ofList
  intro c mem
  apply isPrintable_of_mem_toDigits _ _ n mem <;> decide

/-- The only blanks of an argument that is shown are spaces. -/
theorem Quoted.onlySpaces_shown (argument : String) :
  OnlySpaces (shown argument)
  := by
  unfold shown
  split_ifs with blank
  · apply onlySpaces_ofList
    simp only [List.forall_mem_append]
    use ⟨isPrintable_of_all rfl, isPrintable_of_mem_escape argument.toList⟩
    exact isPrintable_of_all rfl
  · intro c mem hc
    exfalso
    apply blank
    rw [List.any_eq_true]
    use c, mem

end NumericBytes.Text
