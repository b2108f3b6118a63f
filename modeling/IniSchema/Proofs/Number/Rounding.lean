import IniSchema.Number.Shortest
import Mathlib.Algebra.Order.Field.Power
import Mathlib.Algebra.Order.Group.Unbundled.Abs
import Mathlib.Data.Rat.Cast.Order
import Mathlib.Order.Monotone.Basic
import Mathlib.Tactic.FieldSimp
import Mathlib.Tactic.Linarith
import Mathlib.Tactic.Positivity
import Mathlib.Tactic.Ring

/-!
# Correct rounding

A pattern stands for a number, and greater patterns for greater numbers.  The pattern that a
fraction or a decimal is rounded to is the one nearest to it, of two equally near ones the even one,
and no other pattern is.
-/

namespace IniSchema

namespace Binary64

/-! ## The numbers of patterns -/

/-- The number that the pattern stands for. From `infinityPattern` on, the patterns go on as though
the exponents of doubles had no bound. -/
def value (b : Nat) : ℚ := significand b * (2 : ℚ) ^ exponent b

theorem value_zero : value 0 = 0 := by simp [value, significand]

theorem value_nonneg (b : Nat) : 0 ≤ value b := by
  unfold value
  positivity

theorem neg_1074_le_exponent (b : Nat) : -1074 ≤ exponent b := by
  unfold exponent
  split <;> omega

/-- The significand counts up until it starts again under the next exponent. -/
private theorem succ_cases (b : Nat) :
    exponent (b + 1) = exponent b ∧ significand (b + 1) = significand b + 1 ∨
    exponent (b + 1) = exponent b + 1 ∧ significand b + 1 = 2 ^ 53 ∧
      significand (b + 1) = 2 ^ 52 := by
  unfold exponent significand
  split <;> split <;> omega

theorem value_strictMono : StrictMono value := by
  refine strictMono_nat_of_lt_succ fun b => ?_
  have hpos : (0 : ℚ) < 2 ^ exponent b := by positivity
  unfold value
  rcases succ_cases b with ⟨hexp, hsig⟩ | ⟨hexp, hlast, hfirst⟩
  · rw [hexp, hsig]
    push_cast
    linarith
  · have hlast' : (significand b : ℚ) + 1 = 2 ^ 53 := by exact_mod_cast hlast
    rw [hexp, hfirst, zpow_add₀ two_ne_zero, zpow_one]
    have hscaled : ((significand b : ℚ) + 1) * 2 ^ exponent b = 2 ^ 53 * 2 ^ exponent b := by
      rw [hlast']
    push_cast
    linarith

theorem value_lt (b : Nat) : value b < 2 ^ (53 + exponent b) := by
  have hsig : (significand b : ℚ) < 2 ^ 53 := by exact_mod_cast significand_lt b
  have hpos : (0 : ℚ) < 2 ^ exponent b := by positivity
  rw [zpow_add₀ two_ne_zero]
  exact mul_lt_mul_of_pos_right hsig hpos

/-- A carry out of the significand goes into the exponent. -/
theorem value_carried {m k : Nat} (hhigh : m ≤ 2 ^ 53) (hlow : k = 0 ∨ 2 ^ 52 ≤ m) :
    value (m + k * 2 ^ 52) = m * 2 ^ ((k : Int) - 1074) := by
  by_cases hcarry : m = 2 ^ 53
  · have hexp : exponent (m + k * 2 ^ 52) = (k : Int) - 1074 + 1 := by
      unfold exponent
      split <;> omega
    have hsig : significand (m + k * 2 ^ 52) = 2 ^ 52 := by
      unfold significand
      split <;> omega
    rw [value, hexp, hsig, hcarry, zpow_add₀ two_ne_zero, zpow_one]
    push_cast
    ring
  · have hexp : exponent (m + k * 2 ^ 52) = (k : Int) - 1074 := by
      unfold exponent
      split <;> omega
    have hsig : significand (m + k * 2 ^ 52) = m := by
      unfold significand
      split <;> omega
    rw [value, hexp, hsig]

/-- A number is a whole multiple of each unit that is not above its own. -/
theorem exists_value_eq {b : Nat} {q : Int} (h : q ≤ exponent b) :
    ∃ n : Nat, value b = n * (2 : ℚ) ^ q := by
  refine ⟨significand b * 2 ^ (exponent b - q).toNat, ?_⟩
  have hsplit : exponent b = ((exponent b - q).toNat : Int) + q := by omega
  rw [value, Nat.cast_mul, Nat.cast_pow, mul_assoc, Nat.cast_ofNat, ← zpow_natCast,
    ← zpow_add₀ two_ne_zero, ← hsplit]

theorem value_eq_div (b : Nat) : value b = numerator b / denominator b := by
  have hsplit : exponent b = ((exponent b).toNat : Int) - ((-exponent b).toNat : Int) := by omega
  rw [value, numerator, denominator, Nat.cast_mul, Nat.cast_pow, Nat.cast_pow, Nat.cast_ofNat,
    mul_div_assoc, ← zpow_natCast, ← zpow_natCast, ← zpow_sub₀ two_ne_zero, ← hsplit]

theorem value_eq_natCast_iff {b n : Nat} :
    value b = n ↔ numerator b % denominator b = 0 ∧ numerator b / denominator b = n := by
  have hden : 0 < denominator b := Nat.two_pow_pos _
  have hne : (denominator b : ℚ) ≠ 0 := by exact_mod_cast hden.ne'
  rw [value_eq_div, div_eq_iff hne]
  constructor
  · intro h
    have hmul : numerator b = n * denominator b := by exact_mod_cast h
    rw [hmul]
    exact ⟨Nat.mul_mod_left _ _, Nat.mul_div_cancel n hden⟩
  · rintro ⟨hrest, rfl⟩
    exact_mod_cast (Nat.div_mul_cancel (Nat.dvd_of_mod_eq_zero hrest)).symm

/-- A number below the significands of its unit is moved up to them, with a smaller unit. -/
theorem exists_value_eq_natCast {n : Nat} (h : n ≤ 2 ^ 53) :
    ∃ b, b < infinityPattern ∧ value b = n := by
  by_cases hlarge : 2 ^ 52 ≤ n
  · refine ⟨n + 1074 * 2 ^ 52, by unfold infinityPattern; omega, ?_⟩
    rw [value_carried h (.inr hlarge)]
    simp
  by_cases hzero : n = 0
  · exact ⟨0, by decide, by rw [value_zero, hzero, Nat.cast_zero]⟩
  have hlog : n.log2 ≤ 51 := Nat.lt_succ_iff.mp ((Nat.log2_lt hzero).mpr (by omega))
  obtain ⟨j, hj⟩ : ∃ j, n.log2 + j = 52 := ⟨52 - n.log2, by omega⟩
  have hlow : 2 ^ 52 ≤ n * 2 ^ j := by
    rw [← hj, Nat.pow_add]
    exact Nat.mul_le_mul_right _ (Nat.log2_self_le hzero)
  have hhigh : n * 2 ^ j ≤ 2 ^ 53 := by
    rw [show 53 = n.log2 + 1 + j by omega, Nat.pow_add]
    exact Nat.mul_le_mul_right _ Nat.lt_log2_self.le
  refine ⟨n * 2 ^ j + (1074 - j) * 2 ^ 52, by unfold infinityPattern; omega, ?_⟩
  have hunit : ((1074 - j : Nat) : Int) - 1074 = -(j : Int) := by omega
  rw [value_carried hhigh (.inr hlow), hunit, Nat.cast_mul, Nat.cast_pow, Nat.cast_ofNat, zpow_neg,
    zpow_natCast, mul_assoc, mul_inv_cancel₀ (by positivity), mul_one]

/-! ## Rounding to whole numbers -/

/-- Rounding moves by half a unit at most, and by just that only to an even number. -/
private theorem roundHalfEven_error (a : Nat) {b : Nat} (hb : 0 < b) :
    |(roundHalfEven a b : ℚ) - a / b| ≤ 1 / 2 ∧
      (|(roundHalfEven a b : ℚ) - a / b| = 1 / 2 → roundHalfEven a b % 2 = 0) := by
  have hb' : (0 : ℚ) < b := by exact_mod_cast hb
  obtain ⟨t, ht⟩ : ∃ t : ℚ, t = (a % b : Nat) / b := ⟨_, rfl⟩
  have hsplit : (a : ℚ) / b = (a / b : Nat) + t := by
    rw [ht, div_eq_iff hb'.ne', add_mul, div_mul_cancel₀ _ hb'.ne']
    exact_mod_cast (Nat.div_add_mod' a b).symm
  have hnonneg : 0 ≤ t := by
    rw [ht]
    positivity
  have hlt : t < 1 := by
    rw [ht, div_lt_one hb']
    exact_mod_cast Nat.mod_lt a hb
  rw [hsplit]
  unfold roundHalfEven
  split
  · rename_i hbelow
    have hhalf : t < 1 / 2 := by
      rw [ht, div_lt_div_iff₀ hb' two_pos]
      exact_mod_cast (by omega : a % b * 2 < 1 * b)
    rw [sub_add_cancel_left, abs_neg, abs_of_nonneg hnonneg]
    exact ⟨hhalf.le, fun h => absurd h hhalf.ne⟩
  · split
    · rename_i habove
      have hhalf : 1 / 2 < t := by
        rw [ht, div_lt_div_iff₀ two_pos hb']
        exact_mod_cast (by omega : 1 * b < a % b * 2)
      rw [Nat.cast_add, Nat.cast_one, add_sub_add_left_eq_sub, abs_of_pos (by linarith)]
      exact ⟨by linarith, fun h => by linarith⟩
    · have hhalf : t = 1 / 2 := by
        rw [ht, div_eq_div_iff hb'.ne' two_ne_zero]
        exact_mod_cast (by omega : a % b * 2 = 1 * b)
      refine ⟨?_, fun _ => by omega⟩
      rw [Nat.cast_add, add_sub_add_left_eq_sub, hhalf]
      rcases Nat.mod_two_eq_zero_or_one (a / b) with heven | hodd
      · norm_num [heven]
      · norm_num [hodd]

/-- No whole number is nearer to a fraction than the one that it is rounded to. -/
private theorem roundHalfEven_nearest (a : Nat) {b : Nat} (hb : 0 < b) (n : Nat) :
    |(roundHalfEven a b : ℚ) - a / b| ≤ |(n : ℚ) - a / b| ∧
      (n ≠ roundHalfEven a b → |(n : ℚ) - a / b| = |(roundHalfEven a b : ℚ) - a / b| →
        roundHalfEven a b % 2 = 0) := by
  obtain ⟨herror, heven⟩ := roundHalfEven_error a hb
  by_cases hn : n = roundHalfEven a b
  · exact ⟨hn ▸ le_rfl, fun h => absurd hn h⟩
  · have hapart : (1 : ℚ) ≤ |(n : ℚ) - roundHalfEven a b| := by
      have hint : (1 : Int) ≤ |(n : Int) - roundHalfEven a b| :=
        Int.one_le_abs (sub_ne_zero.mpr (by exact_mod_cast hn))
      exact_mod_cast hint
    have htriangle := abs_sub_le (n : ℚ) (a / b) (roundHalfEven a b)
    rw [abs_sub_comm (a / b : ℚ)] at htriangle
    exact ⟨by linarith, fun _ htie => heven (by linarith)⟩

/-- A nearest whole number does not go past another one. -/
private theorem le_of_closest {x : ℚ} {m n : Nat} (h : |(m : ℚ) - x| ≤ |(n : ℚ) - x|)
    (hx : x ≤ n) : m ≤ n := by
  rw [abs_of_nonneg (sub_nonneg.mpr hx)] at h
  have hle : (m : ℚ) ≤ n := by linarith [le_abs_self ((m : ℚ) - x)]
  exact_mod_cast hle

private theorem ge_of_closest {x : ℚ} {m n : Nat} (h : |(m : ℚ) - x| ≤ |(n : ℚ) - x|)
    (hx : n ≤ x) : n ≤ m := by
  rw [abs_of_nonpos (sub_nonpos.mpr hx)] at h
  have hle : (n : ℚ) ≤ m := by linarith [neg_abs_le ((m : ℚ) - x)]
  exact_mod_cast hle

/-! ## Powers of two -/

private theorem div_scaled (num : Nat) {den : Nat} (hden : 0 < den) (q : Int) :
    ((num * 2 ^ (-q).toNat : Nat) : ℚ) / (den * 2 ^ q.toNat : Nat) = num / den / 2 ^ q := by
  have hsplit : q = (q.toNat : Int) - ((-q).toNat : Int) := by omega
  nth_rewrite 3 [hsplit]
  rw [zpow_sub₀ two_ne_zero, zpow_natCast, zpow_natCast]
  push_cast
  field_simp

private theorem floorLog2_bounds {num den : Nat} (hnum : 0 < num) (hden : 0 < den) :
    (2 : ℚ) ^ floorLog2 num den ≤ num / den ∧
      (num / den : ℚ) < 2 ^ (floorLog2 num den + 1) := by
  have hnum' : (0 : ℚ) < num := by exact_mod_cast hnum
  have hden' : (0 : ℚ) < den := by exact_mod_cast hden
  unfold floorLog2
  split
  · rename_i hle
    have hquot : num / den ≠ 0 := Nat.ne_of_gt (Nat.div_pos hle hden)
    have hlow := (Nat.le_div_iff_mul_le hden).mp (Nat.log2_self_le hquot)
    have hhigh := (Nat.div_lt_iff_lt_mul hden).mp (Nat.lt_log2_self (n := num / den))
    rw [le_div_iff₀ hden', div_lt_iff₀ hden']
    exact ⟨by exact_mod_cast hlow, by exact_mod_cast hhigh⟩
  -- Below one the quotient of the inverse is taken, and its excess over a power is rounded up.
  · rename_i hlt
    have hquot : (den - 1) / num ≠ 0 := Nat.ne_of_gt (Nat.div_pos (by omega) hnum)
    have hlow := (Nat.le_div_iff_mul_le hnum).mp (Nat.log2_self_le hquot)
    have hhigh := (Nat.div_lt_iff_lt_mul hnum).mp (Nat.lt_log2_self (n := (den - 1) / num))
    generalize ((den - 1) / num).log2 = k at hlow hhigh
    have hpow : (0 : ℚ) < 2 ^ k := by positivity
    have hshift : -((k + 1 : Nat) : Int) + 1 = -(k : Int) := by omega
    rw [hshift, zpow_neg, zpow_neg, zpow_natCast, zpow_natCast, inv_le_comm₀ (by positivity)
      (by positivity), inv_div, lt_inv_comm₀ (by positivity) hpow, inv_div, div_le_iff₀ hnum',
      lt_div_iff₀ hnum']
    exact ⟨by exact_mod_cast (by omega : den ≤ 2 ^ (k + 1) * num),
      by exact_mod_cast (by omega : 2 ^ k * num < den)⟩

/-! ## Rounding to patterns -/

/-- No pattern stands for a number nearer to `x`, and the pattern is even if another one is as
near. -/
structure Nearest (x : ℚ) (b : Nat) : Prop where
  closest : ∀ c, |value b - x| ≤ |value c - x|
  even_of_tie : ∀ c, c ≠ b → |value c - x| = |value b - x| → b % 2 = 0

theorem nearest_value (b : Nat) : Nearest (value b) b where
  closest := fun c => by
    rw [sub_self, abs_zero]
    exact abs_nonneg _
  even_of_tie := fun c hc htie => by
    rw [sub_self, abs_zero, abs_eq_zero, sub_eq_zero] at htie
    exact absurd (value_strictMono.injective htie) hc

/-- Two different patterns cannot both be even and as near: the one after the smaller is nearer. -/
theorem Nearest.unique {x : ℚ} {b c : Nat} (hb : Nearest x b) (hc : Nearest x c) : b = c := by
  wlog hlt : b < c generalizing b c
  · rcases Nat.lt_trichotomy b c with h | h | h
    · exact absurd h hlt
    · exact h
    · exact (this hc hb h).symm
  have htie : |value b - x| = |value c - x| := le_antisymm (hb.closest c) (hc.closest b)
  have hbeven := hb.even_of_tie c hlt.ne' htie.symm
  have hceven := hc.even_of_tie b hlt.ne htie
  have hlow : value b < value (b + 1) := value_strictMono (Nat.lt_succ_self b)
  have hhigh : value (b + 1) < value c := value_strictMono (by omega)
  have hbetween := hb.closest (b + 1)
  rcases abs_cases (value b - x) with h₁ | h₁ <;> rcases abs_cases (value c - x) with h₂ | h₂ <;>
    rcases abs_cases (value (b + 1) - x) with h₃ | h₃ <;> linarith

/-- Rounding does not go past the number of a pattern. -/
theorem Nearest.le_of_le_value {x : ℚ} {b c : Nat} (h : Nearest x b) (hx : x ≤ value c) :
    b ≤ c := by
  by_contra hlt
  have hvalue : value c < value b := value_strictMono (Nat.lt_of_not_le hlt)
  have hclosest := h.closest c
  rw [abs_of_pos (by linarith), abs_of_nonneg (by linarith)] at hclosest
  linarith

private theorem value_lt_of_exponent_lt {c : Nat} {e : Int} (h : exponent c < e) :
    value c < 2 ^ 52 * 2 ^ e := by
  refine (value_lt c).trans_le ?_
  rw [← zpow_natCast, ← zpow_add₀ two_ne_zero]
  exact zpow_le_zpow_right₀ one_le_two (by push_cast; omega)

/-- A number is nearest to `x` if it is the nearest whole multiple of its unit, for a unit that is
the least one or not too small for `x`. -/
private theorem nearest_of_multiple {x : ℚ} {m k : Nat} {unit : ℚ}
    (hunit : unit = 2 ^ ((k : Int) - 1074)) (hhigh : m ≤ 2 ^ 53)
    (hlow : k = 0 ∨ 2 ^ 52 ≤ m ∧ 2 ^ 52 * unit ≤ x)
    (hm : ∀ n : Nat, |(m : ℚ) - x / unit| ≤ |(n : ℚ) - x / unit| ∧
      (n ≠ m → |(n : ℚ) - x / unit| = |(m : ℚ) - x / unit| → m % 2 = 0)) :
    Nearest x (m + k * 2 ^ 52) := by
  have hpos : 0 < unit := by
    rw [hunit]
    positivity
  have hvalue : value (m + k * 2 ^ 52) = m * unit := by
    rw [hunit]
    exact value_carried hhigh (hlow.imp_right And.left)
  have hdistance : ∀ n : Nat, |(n : ℚ) * unit - x| = |(n : ℚ) - x / unit| * unit := fun n => by
    rw [← abs_of_pos hpos, ← abs_mul, abs_of_pos hpos, sub_mul, div_mul_cancel₀ _ hpos.ne']
  -- A number with a smaller unit lies below all multiples that count.
  have hsmaller : ∀ c, exponent c < (k : Int) - 1074 →
      |value (m + k * 2 ^ 52) - x| < |value c - x| := by
    intro c hc
    obtain hzero | ⟨-, hx⟩ := hlow
    · have := neg_1074_le_exponent c
      omega
    · have hbound : value c < 2 ^ 52 * unit := hunit ▸ value_lt_of_exponent_lt hc
      have hleast := mul_le_mul_of_nonneg_right (hm (2 ^ 52)).1 hpos.le
      rw [← hdistance, ← hdistance, Nat.cast_pow, Nat.cast_ofNat] at hleast
      rw [abs_of_nonpos (by linarith : 2 ^ 52 * unit - x ≤ 0)] at hleast
      rw [hvalue, abs_of_neg (by linarith : value c - x < 0)]
      linarith
  have hmultiple : ∀ c, ¬ exponent c < (k : Int) - 1074 → ∃ n : Nat, value c = n * unit := by
    intro c hc
    rw [hunit]
    exact exists_value_eq (not_lt.mp hc)
  constructor
  · intro c
    by_cases hc : exponent c < (k : Int) - 1074
    · exact (hsmaller c hc).le
    · obtain ⟨n, hn⟩ := hmultiple c hc
      rw [hvalue, hn, hdistance, hdistance]
      exact mul_le_mul_of_nonneg_right (hm n).1 hpos.le
  · intro c hne htie
    by_cases hc : exponent c < (k : Int) - 1074
    · exact absurd htie (hsmaller c hc).ne'
    · obtain ⟨n, hn⟩ := hmultiple c hc
      have hnm : n ≠ m := by
        rintro rfl
        exact hne (value_strictMono.injective (hn.trans hvalue.symm))
      rw [hvalue, hn, hdistance, hdistance] at htie
      have heven := (hm n).2 hnm (mul_right_cancel₀ hpos.ne' htie)
      omega

/-- The pattern that a fraction is rounded to is the nearest one. -/
theorem nearest_nearest (num : Nat) {den : Nat} (hden : 0 < den) :
    Nearest (num / den) (nearest num den) := by
  by_cases hnum : num = 0
  · have hzero : nearest num den = 0 := by simp [nearest, hnum]
    rw [hzero, hnum, Nat.cast_zero, zero_div, ← value_zero]
    exact nearest_value 0
  obtain ⟨hlow, hhigh⟩ := floorLog2_bounds (Nat.pos_of_ne_zero hnum) hden
  simp only [nearest, hnum, if_false]
  generalize hlog : floorLog2 num den = log at hlow hhigh
  obtain ⟨k, hk⟩ : ∃ k : Nat, max (log - 52) (-1074) = (k : Int) - 1074 :=
    ⟨(max (log - 52) (-1074) + 1074).toNat, by omega⟩
  generalize hq : (k : Int) - 1074 = q at hk
  have hshift : (q + 1074).toNat = k := by omega
  have hnearest := roundHalfEven_nearest (num * 2 ^ (-q).toNat)
    (Nat.mul_pos hden (Nat.two_pow_pos q.toNat))
  simp only [div_scaled num hden] at hnearest
  rw [hk, hshift]
  generalize roundHalfEven (num * 2 ^ (-q).toNat) (den * 2 ^ q.toNat) = m at hnearest
  generalize (num / den : ℚ) = x at hlow hhigh hnearest
  have hpos : (0 : ℚ) < 2 ^ q := by positivity
  have hbelow : x / 2 ^ q < (2 ^ 53 : Nat) := by
    rw [div_lt_iff₀ hpos, Nat.cast_pow, Nat.cast_ofNat, ← zpow_natCast, ← zpow_add₀ two_ne_zero]
    exact hhigh.trans_le (zpow_le_zpow_right₀ one_le_two (by push_cast; omega))
  have hleast : k = 0 ∨ 2 ^ 52 * 2 ^ q ≤ x := by
    by_cases hzero : k = 0
    · exact .inl hzero
    · rw [← zpow_natCast, ← zpow_add₀ two_ne_zero]
      refine .inr (le_trans (le_of_eq ?_) hlow)
      congr 1
      push_cast
      omega
  refine nearest_of_multiple (by rw [hq]) (le_of_closest (hnearest _).1 hbelow.le)
    (hleast.imp_right fun h => ⟨ge_of_closest (hnearest _).1 ?_, h⟩) hnearest
  rw [le_div_iff₀ hpos, Nat.cast_pow, Nat.cast_ofNat]
  exact h

theorem nearest_eq_iff {num den b : Nat} (hden : 0 < den) :
    nearest num den = b ↔ Nearest (num / den) b :=
  ⟨fun h => h ▸ nearest_nearest num hden, (nearest_nearest num hden).unique⟩

/-! ## Decimals -/

end Binary64

/-- The number that the decimal writes. -/
def Decimal.value (d : Decimal) : ℚ := d.digits * (10 : ℚ) ^ d.exponent

theorem Decimal.value_nonneg (d : Decimal) : 0 ≤ d.value := by
  unfold value
  positivity

theorem Decimal.value_eq_div (d : Decimal) :
    d.value = (d.digits * 10 ^ d.exponent.toNat : Nat) / (10 ^ (-d.exponent).toNat : Nat) := by
  have hsplit : d.exponent = (d.exponent.toNat : Int) - ((-d.exponent).toNat : Int) := by omega
  have hten : (10 : ℚ) ≠ 0 := by norm_num
  rw [value]
  nth_rewrite 1 [hsplit]
  rw [zpow_sub₀ hten, zpow_natCast, zpow_natCast, ← mul_div_assoc]
  push_cast
  rfl

theorem Decimal.exists_nearest (d : Decimal) : ∃ b, Binary64.Nearest d.value b := by
  rw [Decimal.value_eq_div]
  exact ⟨_, Binary64.nearest_nearest _ (Nat.pow_pos (by omega))⟩

namespace Binary64

private theorem two_zpow_le_ten_zpow (n : Nat) : (2 : ℚ) ^ (3 * n : Int) ≤ 10 ^ (n : Int) := by
  rw [zpow_mul, zpow_natCast, zpow_natCast]
  exact pow_le_pow_left₀ (by norm_num) (by norm_num) n

/-- A decimal with a large exponent lies past all doubles. -/
private theorem value_infinityPattern_le {d : Decimal} (hdigits : d.digits ≠ 0)
    (hlarge : 400 < d.exponent) : value infinityPattern ≤ d.value := by
  have hexp : exponent infinityPattern = 972 := by decide
  have hone : (1 : ℚ) ≤ d.digits := by exact_mod_cast Nat.one_le_iff_ne_zero.mpr hdigits
  calc value infinityPattern ≤ 2 ^ (53 + exponent infinityPattern) := (value_lt _).le
    _ ≤ 2 ^ (3 * (401 : Nat) : Int) := zpow_le_zpow_right₀ one_le_two (by omega)
    _ ≤ 10 ^ ((401 : Nat) : Int) := two_zpow_le_ten_zpow 401
    _ ≤ 10 ^ d.exponent := zpow_le_zpow_right₀ (by norm_num) (by omega)
    _ ≤ d.value := le_mul_of_one_le_left (by positivity) hone

/-- A decimal with an exponent that is very negative for its digits lies near zero. -/
private theorem value_lt_of_small {d : Decimal}
    (hsmall : d.exponent < -(1100 + d.digits.log2 : Nat)) : d.value < 2 ^ (-1075 : Int) := by
  obtain ⟨n, hn⟩ : ∃ n : Nat, d.exponent = -(n : Int) := ⟨d.exponent.natAbs, by omega⟩
  have hdigits : (d.digits : ℚ) < 2 ^ ((d.digits.log2 + 1 : Nat) : Int) := by
    exact_mod_cast Nat.lt_log2_self (n := d.digits)
  have hscale : (10 : ℚ) ^ d.exponent ≤ 2 ^ (-(3 * n : Int)) := by
    rw [hn, zpow_neg, zpow_neg]
    exact inv_anti₀ (by positivity) (two_zpow_le_ten_zpow n)
  have hpos : (0 : ℚ) < 10 ^ d.exponent := by positivity
  calc d.value < 2 ^ ((d.digits.log2 + 1 : Nat) : Int) * (10 : ℚ) ^ d.exponent :=
        mul_lt_mul_of_pos_right hdigits hpos
    _ ≤ 2 ^ ((d.digits.log2 + 1 : Nat) : Int) * 2 ^ (-(3 * n : Int)) :=
        mul_le_mul_of_nonneg_left hscale (by positivity)
    _ ≤ 2 ^ (-1075 : Int) := by
        rw [← zpow_add₀ two_ne_zero]
        exact zpow_le_zpow_right₀ one_le_two (by omega)

private theorem nearest_zero_of_lt {x : ℚ} (hnonneg : 0 ≤ x) (hx : x < 2 ^ (-1075 : Int)) :
    Nearest x 0 := by
  have hone : value 1 = 2 * 2 ^ (-1075 : Int) := by
    have hexp : exponent 1 = 1 + -1075 := by decide
    have hsig : significand 1 = 1 := by decide
    rw [value, hexp, hsig, zpow_add₀ two_ne_zero, zpow_one, Nat.cast_one, one_mul]
  have hfarther : ∀ c, c ≠ 0 → |value 0 - x| < |value c - x| := by
    intro c hc
    have hle : value 1 ≤ value c := value_strictMono.monotone (by omega)
    rw [value_zero, zero_sub, abs_neg, abs_of_nonneg hnonneg, abs_of_pos (by linarith)]
    linarith
  constructor
  · intro c
    by_cases hc : c = 0
    · rw [hc]
    · exact (hfarther c hc).le
  · exact fun c hc htie => absurd htie (hfarther c hc).ne'

/-- What a decimal is read as is the nearest double, if it is a double at all. -/
theorem nearestDecimal_eq_iff {d : Decimal} {b : Nat} (hb : b < infinityPattern) :
    nearestDecimal d.digits d.exponent = b ↔ Nearest d.value b := by
  have hzero : Nearest d.value 0 → (0 = b ↔ Nearest d.value b) := fun h =>
    ⟨fun hb => hb ▸ h, h.unique⟩
  unfold nearestDecimal
  split
  · rename_i hdigits
    have hvalue : d.value = value 0 := by
      rw [Decimal.value, hdigits, Nat.cast_zero, zero_mul, value_zero]
    exact hzero (hvalue ▸ nearest_value 0)
  · rename_i hdigits
    split
    · rename_i hlarge
      -- The first pattern past the doubles is nearer than all of them.
      refine iff_of_false hb.ne' fun h => ?_
      have hle := value_infinityPattern_le hdigits hlarge
      have hlt := value_strictMono hb
      have hclosest := h.closest infinityPattern
      rw [abs_of_neg (by linarith), abs_of_nonpos (by linarith)] at hclosest
      linarith
    · split
      · rename_i hsmall
        exact hzero (nearest_zero_of_lt d.value_nonneg (value_lt_of_small hsmall))
      · rw [nearest_eq_iff (Nat.pow_pos (by omega)), Decimal.value_eq_div]

end Binary64

end IniSchema
