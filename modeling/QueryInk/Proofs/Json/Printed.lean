import QueryInk.Json.Rows
import QueryInk.Proofs.Json.Grammar

namespace QueryInk.Json
open Decimal (Literal)

/-! ## Scalars -/

theorem hexValue?_hexDigit : ∀ n < 16, hexValue? (hexDigit n) = some n := by decide

theorem escape_spells (c : Char) : SpellsChar (escape c) c := by
  unfold escape
  -- the seven short escapes, each for one character
  iterate 7
    refine iteInduction (motive := (SpellsChar · c)) (fun is => ?_) fun _ => ?_
    · rw [is]
      exact .short (by decide)
  refine iteInduction (motive := (SpellsChar · c)) (fun control => ?_) fun printable => ?_
  · have high := hexValue?_hexDigit (c.toNat / 16) (by omega)
    have low := hexValue?_hexDigit (c.toNat % 16) (by omega)
    have zero : hexValue? '0' = some 0 := rfl
    have whole : unit? ('0', '0', hexDigit (c.toNat / 16), hexDigit (c.toNat % 16)) =
        some c.toNat := by
      simp only [unit?, high, low, zero, Option.bind_eq_bind, Option.bind_some, Option.pure_def,
        Option.some.injEq]
      omega
    exact .unit whole
  · exact .plain (by omega) ‹_› ‹_›

theorem escapes_spell (t : Text) : SpellsChars (t.flatMap escape) t := by
  induction t with
  | nil => exact .nil
  | cons c t ih => exact .cons (escape_spells c) ih

/-- A count as a literal. -/
def countLiteral (n : Nat) : Literal := ⟨false, Nat.toDigits 10 n, [], none⟩

theorem countLiteral_text (n : Nat) : (countLiteral n).text = Nat.toDigits 10 n := by
  simp [Literal.text, countLiteral]

theorem digitChar_ne_zero : ∀ n < 10, 0 < n → n.digitChar ≠ '0' := by decide

theorem toDigits_head {n : Nat} (positive : 0 < n) :
    ∃ c more, Nat.toDigits 10 n = c :: more ∧ c ≠ '0' := by
  induction n using Nat.strongRecOn with
  | ind n ih =>
    by_cases small : n < 10
    · exact ⟨_, [], Nat.toDigits_of_lt_base small, digitChar_ne_zero n small positive⟩
    · obtain ⟨c, more, eq, nonzero⟩ := ih (n / 10) (by omega) (by omega)
      rw [Nat.toDigits_of_base_le (by decide) (by omega), eq]
      exact ⟨c, _, rfl, nonzero⟩

theorem countLiteral_wellFormed (n : Nat) : (countLiteral n).WellFormed where
  whole := by
    rw [Decimal.mem_wholeWords]
    by_cases zero : n = 0
    · subst zero
      exact .inl rfl
    · obtain ⟨c, more, eq, nonzero⟩ := toDigits_head (Nat.pos_of_ne_zero zero)
      have digits : ∀ d ∈ c :: more, d.isDigit = true := by
        intro d member
        rw [← eq] at member
        exact Nat.isDigit_of_mem_toDigits (by decide) (by decide) member
      rw [List.forall_mem_cons] at digits
      exact .inr ⟨c, more, eq, digits.1, nonzero, digits.2⟩
  fraction := by simp [countLiteral]
  exponent := by simp [countLiteral]

def Scalar.value : Scalar → Value
  | text t => .string t
  | count n => .number (countLiteral n)

theorem Scalar.print_spells (s : Scalar) : Spells s.print s.value := by
  cases s with
  | text t => exact .string (escapes_spell t)
  | count n =>
    have spelled := Spells.number (countLiteral_wellFormed n)
    rwa [countLiteral_text] at spelled

/-! ## Rows -/

/-- Items printed on lines of their own have commas between them and a line feed before each. -/
theorem intercalate_lines {α β : Type} {printed : α → Text} {piece : α → β} {written : β → Text}
    (line : ∀ a, written (piece a) = '\n' :: printed a) (items : List α) {gap : Text}
    (blank : Gap gap) :
    ∃ last, Gap last ∧ '\n' :: (separator.intercalate (items.map printed) ++ gap) =
      [','].intercalate ((items.map piece).map written) ++ last := by
  cases items with
  | nil => exact ⟨'\n' :: gap, List.forall_mem_cons.2 ⟨rfl, blank⟩, rfl⟩
  | cons first items =>
    refine ⟨gap, blank, ?_⟩
    rw [← List.cons_append]
    congr 1
    induction items generalizing first with
    | nil => simp [line]
    | cons second items ih =>
      have later := ih second
      simp only [List.map_cons, List.intercalate_cons_cons] at later ⊢
      rw [← later, line]
      simp [separator]

def Row.value (row : Row) : Value :=
  .object (row.map fun member => (member.1.toList, member.2.value))

def printedMember (member : String × Scalar) : Member where
  before := "\n    ".toList
  label := member.1.toList.flatMap escape
  after := []
  name := member.1.toList
  element := ⟨[' '], member.2.print, [], member.2.value, by decide, by decide⟩
  gap_before := by decide
  gap_after := by decide
  spelled := escapes_spell _

theorem printedMember_written (member : String × Scalar) :
    (printedMember member).written = '\n' :: printMember member := by
  -- in the grammar the line feed is in the gap before the name, in print it ends the line above
  change "\n    ".toList ++ (quote member.1.toList ++ (": ".toList ++ (member.2.print ++ []))) =
    '\n' :: ("    ".toList ++ quote member.1.toList ++ ": ".toList ++ member.2.print)
  rw [List.append_nil, List.append_assoc, List.append_assoc]
  rfl

/-- A row without the spaces in front. -/
def printObject (row : Row) : Text :=
  '{' :: '\n' :: (separator.intercalate (row.map printMember) ++ "\n  \x7d".toList)

theorem printObject_spells (row : Row) : Spells (printObject row) (Row.value row) := by
  obtain ⟨gap, blank, layout⟩ := intercalate_lines printedMember_written row
    (show Gap "\n  ".toList by decide)
  have entries : (row.map printedMember).map Member.entry =
      row.map fun member => (member.1.toList, member.2.value) := List.map_map
  have each : ∀ m ∈ row.map printedMember, Spells m.element.text m.element.value := by
    intro m listed
    obtain ⟨member, -, rfl⟩ := List.mem_map.1 listed
    exact member.2.print_spells
  have spelled := Spells.object blank each
  rw [entries, ← List.append_assoc, ← layout, List.cons_append, List.append_assoc] at spelled
  exact spelled

def printedElement (row : Row) : Element :=
  ⟨"\n  ".toList, printObject row, [], Row.value row, by decide, by decide⟩

theorem printedElement_written (row : Row) :
    (printedElement row).written = '\n' :: printRow row := by
  change "\n  ".toList ++ (printObject row ++ []) =
    '\n' :: ("  \x7b\n".toList ++ separator.intercalate (row.map printMember) ++ "\n  \x7d".toList)
  rw [List.append_nil, List.append_assoc]
  rfl

theorem print_spells (rows : List Row) : Spells (print rows) (.array (rows.map Row.value)) := by
  have each : ∀ e ∈ rows.map printedElement, Spells e.text e.value := by
    intro e listed
    obtain ⟨row, -, rfl⟩ := List.mem_map.1 listed
    exact printObject_spells row
  have values : (rows.map printedElement).map Element.value = rows.map Row.value := List.map_map
  by_cases empty : rows = []
  · subst empty
    exact Spells.array (show Gap [] by decide) each
  · obtain ⟨gap, blank, layout⟩ := intercalate_lines printedElement_written rows
      (show Gap ['\n'] by decide)
    have spelled := Spells.array blank each
    rw [values, ← List.append_assoc, ← layout, List.cons_append, List.append_assoc] at spelled
    rw [print, if_neg (by simpa using empty)]
    exact spelled

end QueryInk.Json
