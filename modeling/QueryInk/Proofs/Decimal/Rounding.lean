import Mathlib.Data.Int.Log
import Mathlib.Data.Rat.Floor
import QueryInk.Proofs.Decimal.Magnitude

/-!
# Where rounding overflows

A double has 53 significant bits. A magnitude is rounded to the nearest of them,
and halfway between two to the even one, as if there were no largest. It is too
large if that takes it to 2 ^ 1024 or beyond, which is from the overflow bound on.
-/

namespace QueryInk.Decimal

/-- `n` is the whole number next to `q`, and the even one of two that are as near. -/
structure Nearest (q : ℚ) (n : ℤ) : Prop where
  close : |q - n| ≤ 1 / 2
  even : |q - n| = 1 / 2 → Even n

theorem exists_nearest (q : ℚ) : ∃ n, Nearest q n := by
  have low := Int.floor_le q
  have high := Int.lt_floor_add_one q
  rcases lt_trichotomy (q - ⌊q⌋) (1 / 2) with below | half | above
  · have distance : |q - ⌊q⌋| < 1 / 2 := by rwa [abs_of_nonneg (by linarith)]
    exact ⟨⌊q⌋, distance.le, fun tie => absurd tie distance.ne⟩
  · -- both neighbours are as near, and one of them is even
    by_cases even : Even ⌊q⌋
    · exact ⟨⌊q⌋, by rw [half]; norm_num, fun _ => even⟩
    · have distance : |q - (⌊q⌋ + 1 : ℤ)| = 1 / 2 := by
        have below : q - (⌊q⌋ + 1 : ℤ) = -(1 / 2) := by push_cast; linarith
        rw [below]
        norm_num
      exact ⟨⌊q⌋ + 1, distance.le, fun _ => by simpa [parity_simps] using even⟩
  · have distance : |q - (⌊q⌋ + 1 : ℤ)| < 1 / 2 := by
      push_cast
      rw [abs_of_nonpos (by linarith)]
      linarith
    exact ⟨⌊q⌋ + 1, distance.le, fun tie => absurd tie distance.ne⟩

/-- Rounding up to an even number starts half a unit below it. -/
theorem Nearest.le_iff {q : ℚ} {m n : ℤ} (near : Nearest q n) (even : Even m) :
    m ≤ n ↔ (m : ℚ) - 1 / 2 ≤ q := by
  obtain ⟨low, high⟩ := abs_le.1 near.close
  constructor
  · intro le
    have : (m : ℚ) ≤ n := by exact_mod_cast le
    linarith
  · intro le
    by_contra! lt
    have next : (n : ℚ) + 1 ≤ m := by exact_mod_cast lt
    -- then `q` is halfway between `n` and `m`, and both would be even
    have half : q - n = 1 / 2 := by linarith
    have same : m = n + 1 := by
      have : (m : ℚ) = n + 1 := by linarith
      exact_mod_cast this
    have tie := near.even (by rw [half]; norm_num)
    rw [same] at even
    exact absurd tie (by simpa [parity_simps] using even)

/-- The distance of neighbouring doubles about a magnitude. -/
def unit (q : ℚ) : ℚ := 2 ^ max (Int.log 2 q - 52) (-1074)

/-- `d` is what the magnitude `q` is rounded to. -/
def Rounds (q d : ℚ) : Prop := ∃ n : ℤ, Nearest (q / unit q) n ∧ d = n * unit q

theorem unit_pos (q : ℚ) : 0 < unit q := zpow_pos (by norm_num) _

theorem exists_rounds (q : ℚ) : ∃ d, Rounds q d := by
  obtain ⟨n, near⟩ := exists_nearest (q / unit q)
  exact ⟨n * unit q, n, near, rfl⟩

theorem Rounds.close {q d : ℚ} (rounds : Rounds q d) : |q - d| ≤ unit q / 2 := by
  obtain ⟨n, near, rfl⟩ := rounds
  have pos := unit_pos q
  have scaled : q - n * unit q = (q / unit q - n) * unit q := by
    rw [sub_mul, div_mul_cancel₀ _ pos.ne']
  calc |q - n * unit q| = |q / unit q - n| * unit q := by rw [scaled, abs_mul, abs_of_pos pos]
    _ ≤ 1 / 2 * unit q := mul_le_mul_of_nonneg_right near.close pos.le
    _ = unit q / 2 := one_div_mul_eq_div _ _

/-- A multiple of the unit by a power of two is reached from half a unit below it on. -/
theorem Rounds.le_iff {q d : ℚ} (rounds : Rounds q d) {k : ℕ} (positive : k ≠ 0) :
    2 ^ k * unit q ≤ d ↔ 2 ^ k * unit q - unit q / 2 ≤ q := by
  obtain ⟨n, near, rfl⟩ := rounds
  have even : Even ((2 : ℤ) ^ k) := even_two.pow_of_ne_zero positive
  calc 2 ^ k * unit q ≤ n * unit q
      ↔ (2 : ℚ) ^ k ≤ n := mul_le_mul_iff_left₀ (unit_pos q)
    _ ↔ (2 : ℤ) ^ k ≤ n := by exact_mod_cast Iff.rfl
    _ ↔ (2 : ℚ) ^ k - 1 / 2 ≤ q / unit q := by exact_mod_cast near.le_iff even
    _ ↔ 2 ^ k * unit q - unit q / 2 ≤ q := by
      rw [le_div_iff₀ (unit_pos q), sub_mul, one_div_mul_eq_div]

/-! ## Below, in and above the last binade -/

theorem Rounds.lt_of_log_lt {q d : ℚ} (rounds : Rounds q d) (small : Int.log 2 q < 1023) :
    q < 2 ^ 1024 - 2 ^ 970 ∧ d < 2 ^ 1024 := by
  have below : q < 2 ^ ((1023 : ℕ) : ℤ) := by
    refine (Int.lt_zpow_succ_log_self one_lt_two q).trans_le ?_
    exact zpow_le_zpow_right₀ (by norm_num) (by omega)
  have fine : unit q ≤ 2 ^ ((970 : ℕ) : ℤ) := zpow_le_zpow_right₀ (by norm_num) (by omega)
  rw [zpow_natCast] at below fine
  obtain ⟨near, -⟩ := abs_le.1 rounds.close
  -- both bounds in units of 2 ^ 970
  have last : (2 : ℚ) ^ 1023 = 2 ^ 53 * 2 ^ 970 := pow_add 2 53 970
  have whole : (2 : ℚ) ^ 1024 = 2 ^ 54 * 2 ^ 970 := pow_add 2 54 970
  have positive : (0 : ℚ) < 2 ^ 970 := by positivity
  rw [last] at below
  rw [whole]
  generalize (2 : ℚ) ^ 970 = step at below fine positive ⊢
  constructor
  · linarith only [below, positive]
  · linarith only [below, positive, near, fine]

/-- In the last binade the unit is 2 ^ 971, and its end is reached from half of that below it. -/
theorem Rounds.le_iff_of_log_eq {q d : ℚ} (rounds : Rounds q d) (last : Int.log 2 q = 1023) :
    2 ^ 1024 ≤ d ↔ 2 ^ 1024 - 2 ^ 970 ≤ q := by
  have exponent : max ((1023 : ℤ) - 52) (-1074) = (971 : ℕ) := by decide
  have here : unit q = 2 ^ 971 := by rw [unit, last, exponent, zpow_natCast]
  have half : (2 : ℚ) ^ 971 / 2 = 2 ^ 970 := by rw [pow_succ, mul_div_cancel_right₀ _ two_ne_zero]
  have reached := rounds.le_iff (k := 53) (by decide)
  rwa [here, ← pow_add, half] at reached

theorem Rounds.le_of_lt_log {q d : ℚ} (rounds : Rounds q d) (large : 1023 < Int.log 2 q) :
    2 ^ 1024 ≤ q ∧ 2 ^ 1024 ≤ d := by
  have positive : 0 < q := by
    by_contra! negative
    rw [Int.log_of_right_le_zero 2 negative] at large
    omega
  have front : 2 ^ Int.log 2 q ≤ q := Int.zpow_log_le_self one_lt_two positive
  have units : 2 ^ 52 * unit q = 2 ^ Int.log 2 q := by
    rw [unit, max_eq_left (by omega), ← zpow_natCast, ← zpow_add₀ two_ne_zero]
    congr 1
    omega
  have reached : 2 ^ Int.log 2 q ≤ d := by
    rw [← units, rounds.le_iff (by decide), units]
    linarith [unit_pos q]
  have above : (2 : ℚ) ^ 1024 ≤ 2 ^ Int.log 2 q := by
    rw [← zpow_natCast]
    exact zpow_le_zpow_right₀ (by norm_num) (by omega)
  exact ⟨above.trans front, above.trans reached⟩

/-- Rounding takes a magnitude to 2 ^ 1024 or beyond iff it is at least the overflow bound. -/
theorem Rounds.overflows_iff {q d : ℚ} (rounds : Rounds q d) :
    2 ^ 1024 ≤ d ↔ (overflowBound : ℚ) ≤ q := by
  rw [overflowBound_eq]
  rcases lt_trichotomy (Int.log 2 q) 1023 with small | last | large
  · obtain ⟨below, under⟩ := rounds.lt_of_log_lt small
    exact iff_of_false under.not_ge below.not_ge
  · exact rounds.le_iff_of_log_eq last
  · obtain ⟨above, beyond⟩ := rounds.le_of_lt_log large
    exact iff_of_true beyond ((sub_le_self _ (by positivity)).trans above)

/-- A literal counts as finite iff its magnitude is rounded to less than 2 ^ 1024. -/
theorem isFinite_iff_rounds {l : Literal} (wf : l.WellFormed) :
    l.isFinite = true ↔ ∃ d, Rounds |l.value| d ∧ d < 2 ^ 1024 := by
  rw [isFinite_iff wf, ← overflowBound_eq]
  constructor
  · intro finite
    obtain ⟨d, rounds⟩ := exists_rounds |l.value|
    refine ⟨d, rounds, ?_⟩
    rwa [← not_le, rounds.overflows_iff, not_le]
  · rintro ⟨d, rounds, below⟩
    rwa [← not_le, ← rounds.overflows_iff, not_le]

end QueryInk.Decimal
