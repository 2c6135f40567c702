import QueryInk.Proofs.Text.Halves
import QueryInk.Proofs.Token.Number

namespace QueryInk

theorem Text.width_of_narrow {t : Text} (narrow : ∀ c ∈ t, c.toNat < 128) :
    width t = t.length := by
  induction t with
  | nil => rfl
  | cons c t ih =>
    rw [List.forall_mem_cons] at narrow
    have single : c.utf8Size = 1 := by
      apply Char.utf8Size_eq_one_iff.2
      rw [UInt32.le_iff_toNat_le]
      exact Nat.le_of_lt_succ narrow.1
    rw [width_cons, ih narrow.2, single, List.length_cons, Nat.add_comm]

namespace Cursor

theorem Splits.unique {c d : Cursor} {before after : Text} (left : c.Splits before after)
    (right : d.Splits before after) : c = d := by
  have source := left.source.trans right.source.symm
  have position := left.position.trans right.position.symm
  cases c
  cases d
  cases source
  cases position
  rfl

/-- Advancing character by character skips the characters all at once. -/
theorem advanceBy_eq_skip {c : Cursor} {before t : Text} (split : c.Splits before t) (n : Nat) :
    c.advanceBy n = c.skip (t.take n) := by
  have moved := splits_advanceBy (h := ⟨before, t⟩) split n
  have skipped : (c.skip (t.take n)).Splits (before ++ t.take n) (t.drop n) := by
    apply Splits.skip
    rwa [List.take_append_drop]
  exact moved.unique skipped

end Cursor

namespace Decimal
open Text

theorem narrow_text {l : Literal} (wf : l.WellFormed) : ∀ c ∈ l.text, c.toNat < 128 := by
  intro c inside
  rcases mem_text wf inside with digit | other
  · have := isDigit_iff.1 digit
    omega
  · have five : ∀ d ∈ ['-', '.', 'e', 'E', '+'], d.toNat < 128 := by simp
    exact five c other

/-- The rule for numbers takes the longest literal, or one character where there is none. -/
theorem taken_number (t : Text) : (Cut.number t).taken = t.take ((literalLength? t).getD 1) := by
  unfold Cut.number
  split
  · next l rest read =>
    obtain ⟨length, text⟩ := Token.take_literal read
    rw [length, Option.getD_some, text]
  · next unread =>
    have none : literalLength? t = none := by simp [literalLength?, unread]
    rw [none]
    rfl

theorem cursor_take_number {s : Scanner} {before t : Text} (split : s.cursor.Splits before t) :
    (s.take Cut.number).2.cursor = s.cursor.advanceBy ((literalLength? t).getD 1) := by
  rw [Cursor.advanceBy_eq_skip split, ← taken_number, ← split.remaining]
  rfl

theorem literalLength?_eq_some_iff {t : Text} {n : Nat} :
    literalLength? t = some n ↔ ∃ w, Longest literalWords t w ∧ width w = n := by
  cases read : Literal.read? t with
  | none =>
    simp only [literalLength?, read, Option.map_none]
    refine iff_of_false (by simp) ?_
    rintro ⟨w, longest, -⟩
    exact read?_eq_none read w longest.front longest.mem
  | some found =>
    obtain ⟨l, rest⟩ := found
    have longest := read?_longest read
    rw [(Token.take_literal read).1, Option.some.injEq,
      ← width_of_narrow (narrow_text (read?_wellFormed read))]
    constructor
    · rintro rfl
      exact ⟨l.text, longest, rfl⟩
    · rintro ⟨w, other, rfl⟩
      rw [longest.unique other]

theorem literalLength?_eq_none_iff {t : Text} :
    literalLength? t = none ↔ ∀ w, w <+: t → w ∉ literalWords := by
  rw [literalLength?, Option.map_eq_none_iff]
  constructor
  · exact read?_eq_none
  · intro absent
    by_contra some_read
    obtain ⟨⟨l, rest⟩, read⟩ := Option.ne_none_iff_exists'.1 some_read
    have longest := read?_longest read
    exact absent l.text longest.front longest.mem

/-- The characters of the literal that is found are its bytes. -/
theorem literal_bytes {t : Text} {n : Nat} (found : literalLength? t = some n) :
    slice? t 0 n = some (t.take n) ∧ (∀ c ∈ t.take n, c.toNat < 128) ∧ width (t.take n) = n := by
  obtain ⟨⟨l, rest⟩, read, rfl⟩ := Option.map_eq_some_iff.1 found
  have narrow := narrow_text (read?_wellFormed read)
  have bytes := width_of_narrow narrow
  have cut := slice?_width [] l.text rest
  rw [List.nil_append, Literal.read?_append read, width_nil, Nat.zero_add, bytes] at cut
  rw [(Token.take_literal read).2]
  exact ⟨cut, narrow, bytes⟩

/-- What is found is the length in bytes of the longest literal at the front, and nothing is found
only where there is none. Such a literal is ASCII, so that a cursor which advances by as many
characters moves by as many bytes, as the rule for numbers does. -/
theorem length_is_longest (t : Text) :
    (∀ n, literalLength? t = some n ↔ ∃ w, Longest literalWords t w ∧ width w = n) ∧
      (literalLength? t = none ↔ ∀ w, w <+: t → w ∉ literalWords) ∧
      ∀ n ∈ literalLength? t,
        slice? t 0 n = some (t.take n) ∧ (∀ c ∈ t.take n, c.toNat < 128) ∧
        ∀ (s : Scanner) (before : Text), s.cursor.Splits before t →
          (s.cursor.advanceBy n).position = s.position + n ∧
            (s.take Cut.number).2.cursor = s.cursor.advanceBy n := by
  refine ⟨fun n => literalLength?_eq_some_iff, literalLength?_eq_none_iff, ?_⟩
  intro n found
  obtain ⟨cut, narrow, bytes⟩ := literal_bytes found
  refine ⟨cut, narrow, ?_⟩
  intro s before split
  constructor
  · rw [Cursor.advanceBy_eq_skip split]
    exact congrArg (s.cursor.position + ·) bytes
  · rw [cursor_take_number split, found]
    rfl

/-- The exponent is not complete, and there are wide characters on both sides. -/
theorem length_is_longest_signed :
    let s := Scanner.ofOffset "é-12.5e+é".toList 1
    literalLength? "-12.5e+é".toList = some 5 ∧
      s.cursor.Splits "é".toList "-12.5e+é".toList ∧
      (s.cursor.advanceBy 5).position = s.position + 5 ∧
      (s.take Cut.number).2.cursor = s.cursor.advanceBy 5 := by
  intro s
  have length : literalLength? "-12.5e+é".toList = some 5 := by decide
  have split : s.cursor.Splits "é".toList "-12.5e+é".toList := ⟨by decide, by decide⟩
  obtain ⟨-, -, moves⟩ := (length_is_longest "-12.5e+é".toList).2.2 5 length
  exact ⟨length, split, moves s _ split⟩

end Decimal

end QueryInk
