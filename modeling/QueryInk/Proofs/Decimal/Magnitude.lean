import Mathlib.Algebra.Order.Field.Power
import Mathlib.Data.Nat.Digits.Defs
import Mathlib.Data.Rat.Lemmas
import Mathlib.Tactic.FieldSimp
import Mathlib.Tactic.NormNum
import Mathlib.Tactic.Positivity
import Mathlib.Tactic.Ring
import QueryInk.Proofs.Decimal.Grammar

namespace QueryInk.Decimal
open Text

/-- The number that digits stand for, the last of them for units. -/
def numeral (t : Text) : ℕ := Nat.ofDigits 10 (t.reverse.map fun c => c.toNat - '0'.toNat)

def Exponent.power (e : Exponent) : ℤ :=
  if e.sign = some '-' then -(numeral e.digits : ℤ) else numeral e.digits

def Literal.value (l : Literal) : ℚ :=
  (if l.negative then -1 else 1) *
    (numeral l.whole + numeral l.fraction / 10 ^ l.fraction.length) *
    10 ^ (l.exponent.map Exponent.power).getD 0

/-- `t` is a literal and `q` the number it stands for. -/
def Denotes (t : Text) (q : ℚ) : Prop := ∃ l : Literal, l.WellFormed ∧ l.text = t ∧ l.value = q

/-- The parts of a literal can be told from its text, so a text denotes one number at most. -/
theorem text_injective {l k : Literal} (hl : l.WellFormed) (hk : k.WellFormed)
    (same : l.text = k.text) : l = k := by
  have first := read?_text hl unextending_nil
  rw [same, read?_text hk unextending_nil] at first
  cases first
  rfl

theorem denotes_text {l : Literal} (h : l.WellFormed) {q : ℚ} :
    Denotes l.text q ↔ q = l.value := by
  constructor
  · rintro ⟨k, wf, same, rfl⟩
    rw [text_injective wf h same]
  · rintro rfl
    exact ⟨l, h, rfl, rfl⟩

/-! ## Digits as a whole number -/

theorem ofDigits_eq (t : Text) : ofDigits t = numeral t := by
  induction t using List.reverseRecOn with
  | nil => rfl
  | append_singleton t c ih =>
    have last : ofDigits (t ++ [c]) = 10 * ofDigits t + (c.toNat - '0'.toNat) := by
      simp [ofDigits]
    rw [last, ih]
    simp [numeral, Nat.ofDigits_cons]
    omega

theorem numeral_append (s t : Text) :
    numeral (s ++ t) = numeral s * 10 ^ t.length + numeral t := by
  simp only [numeral, List.reverse_append, List.map_append, Nat.ofDigits_append, List.length_map,
    List.length_reverse]
  ring

theorem numeral_cons (c : Char) (t : Text) :
    numeral (c :: t) = (c.toNat - '0'.toNat) * 10 ^ t.length + numeral t := by
  rw [← List.singleton_append, numeral_append]
  simp [numeral]

theorem numeral_dropZeros (t : Text) : numeral (t.dropWhile (· == '0')) = numeral t := by
  induction t with
  | nil => rfl
  | cons c t ih =>
    by_cases zero : c = '0'
    · subst zero
      simp [ih, numeral_cons]
    · simp [zero]

theorem numeral_lt {t : Text} (h : ∀ c ∈ t, c.isDigit = true) : numeral t < 10 ^ t.length := by
  have small : ∀ d ∈ t.reverse.map fun c => c.toNat - '0'.toNat, d < 10 := by
    intro d hd
    obtain ⟨c, hc, rfl⟩ := List.mem_map.1 hd
    have := isDigit_iff.1 (h c (List.mem_reverse.1 hc))
    simp
    omega
  simpa [numeral] using Nat.ofDigits_lt_base_pow_length (by norm_num) small

/-- Digits that do not start with a zero have the size that their number says. -/
theorem numeral_bounds {c : Char} {t : Text} (h : ∀ d ∈ c :: t, d.isDigit = true)
    (hz : c ≠ '0') :
    10 ^ t.length ≤ numeral (c :: t) ∧ numeral (c :: t) < 10 ^ (t.length + 1) := by
  refine ⟨?_, numeral_lt h⟩
  have one : 1 ≤ c.toNat - '0'.toNat := by
    have low := (isDigit_iff.1 (h c (by simp))).1
    have other : c.toNat ≠ 48 := fun same => hz (Char.toNat_inj.1 same)
    simp
    omega
  have scaled := Nat.mul_le_mul_right (10 ^ t.length) one
  rw [numeral_cons]
  omega

/-! ## The magnitude -/

theorem value_eq_power : Exponent.value = Exponent.power := by
  funext e
  simp only [Exponent.value, Exponent.power, ofDigits_eq]

theorem abs_value (l : Literal) :
    |l.value| = (numeral (l.whole ++ l.fraction) : ℚ) * 10 ^ l.scale := by
  have sign : |(if l.negative then -1 else 1 : ℚ)| = 1 := by split <;> simp
  have digits : (0 : ℚ) ≤ numeral l.whole + numeral l.fraction / 10 ^ l.fraction.length := by
    positivity
  have power : (0 : ℚ) < 10 ^ (l.exponent.map Exponent.power).getD 0 := by positivity
  rw [Literal.value, abs_mul, abs_mul, sign, one_mul, abs_of_nonneg digits, abs_of_pos power,
    Literal.scale, value_eq_power, zpow_sub₀ (by norm_num), zpow_natCast, numeral_append]
  push_cast
  field_simp

theorem overflowBound_eq : (overflowBound : ℚ) = 2 ^ 1024 - 2 ^ 970 := by
  have sum : overflowBound + 2 ^ 970 = 2 ^ 1024 := by decide +kernel
  have cast := congrArg (Nat.cast (R := ℚ)) sum
  rw [Nat.cast_add, Nat.cast_pow, Nat.cast_pow, Nat.cast_ofNat] at cast
  exact eq_sub_of_add_eq cast

theorem overflowBound_range : 10 ^ 308 ≤ overflowBound ∧ overflowBound ≤ 10 ^ 309 := by
  decide +kernel

theorem below_bound {q : ℚ} {m : ℤ} (h : q < 10 ^ m) (small : m ≤ 308) : q < overflowBound := by
  have step : (10 : ℚ) ^ m ≤ 10 ^ (308 : ℤ) := zpow_le_zpow_right₀ (by norm_num) small
  have bound : (10 : ℚ) ^ (308 : ℤ) ≤ overflowBound := by exact_mod_cast overflowBound_range.1
  exact h.trans_le (step.trans bound)

theorem above_bound {q : ℚ} {m : ℤ} (h : 10 ^ m ≤ q) (large : 309 ≤ m) :
    (overflowBound : ℚ) ≤ q := by
  have bound : (overflowBound : ℚ) ≤ 10 ^ (309 : ℤ) := by exact_mod_cast overflowBound_range.2
  have step : (10 : ℚ) ^ (309 : ℤ) ≤ 10 ^ m := zpow_le_zpow_right₀ (by norm_num) large
  exact bound.trans (step.trans h)

/-- The test between the two powers of ten compares whole numbers. -/
theorem exact_test (n bound : Nat) (scale : Int) :
    (if 0 ≤ scale then n * Nat.pow 10 scale.toNat < bound
      else n < bound * Nat.pow 10 (-scale).toNat) ↔ (n : ℚ) * 10 ^ scale < bound := by
  split
  · next up =>
    obtain ⟨k, rfl⟩ := Int.eq_ofNat_of_zero_le up
    rw [← Nat.cast_lt (α := ℚ)]
    simp
  · next down =>
    obtain ⟨k, rfl⟩ : ∃ k : Nat, scale = -(k : Int) := ⟨scale.natAbs, by omega⟩
    rw [← Nat.cast_lt (α := ℚ), zpow_neg, ← div_eq_mul_inv, div_lt_iff₀ (by positivity)]
    simp

/-- Digits that do not start with a zero, scaled, lie between neighbouring powers of ten. -/
theorem scaled_bounds {c : Char} {t : Text} (h : ∀ d ∈ c :: t, d.isDigit = true) (hz : c ≠ '0')
    (scale : Int) :
    (10 : ℚ) ^ (t.length + scale) ≤ numeral (c :: t) * 10 ^ scale ∧
      numeral (c :: t) * (10 : ℚ) ^ scale < 10 ^ ((t.length + 1 : Nat) + scale) := by
  obtain ⟨low, high⟩ := numeral_bounds h hz
  have power : (0 : ℚ) < 10 ^ scale := by positivity
  rw [zpow_add₀ (by norm_num), zpow_add₀ (by norm_num), zpow_natCast, zpow_natCast]
  constructor
  · gcongr
    exact_mod_cast low
  · gcongr
    exact_mod_cast high

theorem isFinite_iff {l : Literal} (h : l.WellFormed) :
    l.isFinite = true ↔ |l.value| < 2 ^ 1024 - 2 ^ 970 := by
  have all : ∀ c ∈ l.whole ++ l.fraction, c.isDigit = true := by
    intro c hc
    rcases List.mem_append.1 hc with hc | hc
    · exact digits_of_whole h.whole c hc
    · exact h.fraction c hc
  rw [abs_value, ← overflowBound_eq, ← numeral_dropZeros]
  unfold Literal.isFinite
  cases found : (l.whole ++ l.fraction).dropWhile (· == '0') with
  | nil =>
    have positive : (0 : ℚ) < overflowBound := by
      exact_mod_cast Nat.lt_of_lt_of_le (by positivity) overflowBound_range.1
    have none_left : (numeral [] : ℚ) = 0 := by simp [numeral]
    rw [none_left, zero_mul]
    simp only [List.isEmpty_nil, ↓reduceIte, true_iff]
    exact positive
  | cons c more =>
    have hz : c ≠ '0' := by simpa using eq_false_of_dropWhile found
    have sig : ∀ d ∈ c :: more, d.isDigit = true := fun d hd =>
      all d ((found ▸ List.dropWhile_suffix _).subset hd)
    obtain ⟨low, high⟩ := scaled_bounds sig hz l.scale
    simp only [List.isEmpty_cons, Bool.false_eq_true, ↓reduceIte, List.length_cons]
    split
    · next small =>
      simp only [true_iff]
      exact below_bound high small
    · split
      · next large =>
        simp only [Bool.false_eq_true, false_iff, not_lt]
        exact above_bound low (by push_cast at large; omega)
      · rw [← exact_test, ← ofDigits_eq]
        split <;> simp

end QueryInk.Decimal
