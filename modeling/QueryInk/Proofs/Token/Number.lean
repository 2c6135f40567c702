import QueryInk.Proofs.Decimal.Magnitude
import QueryInk.Proofs.Token.Rules
import QueryInk.Proofs.Token.Run

namespace QueryInk.Token
open Text Decimal

/-- What the kind given to the number at the front of `t` says about its value. -/
structure NumberKind (t : Text) (kind : Kind) : Prop where
  value : ∀ n ∈ literalLength? t, ∃! v, Denotes (t.take n) v
  number : kind = .number ↔
    ∃ n ∈ literalLength? t, ∃ v, Denotes (t.take n) v ∧ |v| < 2 ^ 1024 - 2 ^ 970
  badNumber : kind = .badNumber ↔ literalLength? t = none ∨
    ∃ n ∈ literalLength? t, ∃ v, Denotes (t.take n) v ∧ 2 ^ 1024 - 2 ^ 970 ≤ |v|

theorem literalKind_number {l : Literal} (wf : l.WellFormed) :
    Cut.literalKind l = .number ↔ |l.value| < 2 ^ 1024 - 2 ^ 970 := by
  rw [← isFinite_iff wf, Cut.literalKind]
  split <;> simp_all

theorem literalKind_badNumber {l : Literal} (wf : l.WellFormed) :
    Cut.literalKind l = .badNumber ↔ 2 ^ 1024 - 2 ^ 970 ≤ |l.value| := by
  rw [← not_lt, ← isFinite_iff wf, Cut.literalKind]
  split <;> simp_all

theorem take_literal {t rest : Text} {l : Literal} (h : Literal.read? t = some (l, rest)) :
    literalLength? t = some l.text.length ∧ t.take l.text.length = l.text := by
  refine ⟨by simp [literalLength?, h], ?_⟩
  rw [← Literal.read?_append h, List.take_left]

theorem numberKind_literal {t rest : Text} {l : Literal} (h : Literal.read? t = some (l, rest)) :
    NumberKind t (Cut.literalKind l) := by
  obtain ⟨length, text⟩ := take_literal h
  have wf := read?_wellFormed h
  refine ⟨?_, ?_, ?_⟩
  · rw [length]
    rintro _ ⟨⟩
    rw [text]
    exact ⟨l.value, (denotes_text wf).2 rfl, fun v => (denotes_text wf).1⟩
  · simp [length, text, denotes_text wf, literalKind_number wf]
  · simp [length, text, denotes_text wf, literalKind_badNumber wf]

theorem numberKind_none {t : Text} (h : Literal.read? t = none) : NumberKind t .badNumber := by
  have length : literalLength? t = none := by simp [literalLength?, h]
  refine ⟨?_, ?_, ?_⟩ <;> simp [length]

theorem numberKind_rule (t : Text) : NumberKind t (Cut.number t).kind := by
  unfold Cut.number
  split
  · next l rest read => exact numberKind_literal read
  · next unread => exact numberKind_none unread

/-- The rule for numbers settles exactly where rounding to a double overflows, whether it is
applied as it stands or by the scanner, which does so after blanks and at a digit. -/
theorem number_exact (s : Scanner) :
    NumberKind s.cursor.remaining (s.take Cut.number).1 ∧
      ∀ before gap c t, s.cursor.Splits before (gap ++ c :: t) → Blank gap → c.isDigit = true →
        ∃ token s', s.next = (some token, s') ∧ NumberKind (c :: t) token.kind := by
  refine ⟨numberKind_rule s.cursor.remaining, ?_⟩
  intro before gap c t splits blank digit
  have solid : isBlank c = false := by
    refine Bool.eq_false_iff.2 fun found => ?_
    have unnamed := isNameChar_of_isBlank found
    simp [isNameChar_of_isDigit digit] at unnamed
  obtain ⟨s', step, -⟩ := Scanner.next_lexeme splits blank solid
  refine ⟨_, s', step, ?_⟩
  rw [Cut.first_digit t digit]
  exact numberKind_rule (c :: t)

/-- The offset falls inside the first character, and the literal is too large. -/
theorem number_exact_large :
    let s := Scanner.ofOffset "é 1e400".toList 1
    s.cursor.Splits "é".toList ([' '] ++ '1' :: "e400".toList) ∧ Blank [' '] ∧
      (∃ s', s.next = (some ⟨.badNumber, 3, 8⟩, s')) ∧
      NumberKind ('1' :: "e400".toList) .badNumber := by
  intro s
  have splits : s.cursor.Splits "é".toList ([' '] ++ '1' :: "e400".toList) :=
    ⟨by decide, by decide⟩
  have blank : Blank [' '] := List.forall_mem_singleton.2 (by decide)
  have found : s.next.1 = some ⟨.badNumber, 3, 8⟩ := by decide +kernel
  obtain ⟨token, s', step, settled⟩ := (number_exact s).2 _ _ _ _ splits blank rfl
  rw [step] at found
  obtain rfl := Option.some.inj found
  exact ⟨splits, blank, ⟨s', step⟩, settled⟩

end QueryInk.Token
