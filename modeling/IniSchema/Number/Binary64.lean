/-!
# Double-precision numbers as exact fractions

The finite non-negative doubles are numbered in ascending order by their bit patterns. Pattern `b`
stands for `significand b * 2 ^ exponent b`, and `nearest` finds the pattern closest to a fraction
by exact arithmetic on natural numbers.
-/

namespace IniSchema.Binary64

-- Powers are the core's own here, also where a library gives numbers the powers of a monoid.
attribute [instance (high), default_instance (high + 1)] instPowNat

/-! ## Patterns -/

/-- The first pattern that is no finite number. -/
def infinityPattern : Nat := 0x7FF * 2 ^ 52

def significand (b : Nat) : Nat := if b < 2 ^ 52 then b else 2 ^ 52 + b % 2 ^ 52

def exponent (b : Nat) : Int := if b < 2 ^ 52 then -1074 else (b / 2 ^ 52 : Nat) - 1075

def numerator (b : Nat) : Nat := significand b * 2 ^ (exponent b).toNat

def denominator (b : Nat) : Nat := 2 ^ (-exponent b).toNat

/-! ## Rounding -/

/-- The whole number nearest to `a / b`, of two equally near ones the even one. -/
def roundHalfEven (a b : Nat) : Nat :=
  if 2 * (a % b) < b then a / b
  else if b < 2 * (a % b) then a / b + 1
  else a / b + a / b % 2

/-- The exponent of the greatest power of two that is at most `num / den`. -/
def floorLog2 (num den : Nat) : Int :=
  if den ≤ num then (num / den).log2 else -(((den - 1) / num).log2 + 1 : Nat)

/-- The pattern of the double nearest to `num / den`, or one from `infinityPattern` on when that
lies past the greatest finite double. -/
def nearest (num den : Nat) : Nat :=
  if num = 0 then 0
  else
    let q := max (floorLog2 num den - 52) (-1074)
    roundHalfEven (num * 2 ^ (-q).toNat) (den * 2 ^ q.toNat) + (q + 1074).toNat * 2 ^ 52

/-- The pattern of the double nearest to `digits * 10 ^ e`. Exponents far out of range are answered
without computing the power. -/
def nearestDecimal (digits : Nat) (e : Int) : Nat :=
  if digits = 0 then 0
  else if 400 < e then infinityPattern
  else if e < -(1100 + digits.log2 : Nat) then 0
  else nearest (digits * 10 ^ e.toNat) (10 ^ (-e).toNat)

/-! ## Exactness -/

theorem roundHalfEven_mul {k : Nat} (hk : 0 < k) (a b : Nat) :
    roundHalfEven (k * a) (k * b) = roundHalfEven a b := by
  have hdiv : k * a / (k * b) = a / b := Nat.mul_div_mul_left a b hk
  have hmod : k * a % (k * b) = k * (a % b) := Nat.mul_mod_mul_left k a b
  have hlt : ∀ x y : Nat, 2 * (k * x) < k * y ↔ 2 * x < y := fun x y => by
    rw [Nat.mul_left_comm]
    exact Nat.mul_lt_mul_left hk
  have hgt : ∀ x y : Nat, k * y < 2 * (k * x) ↔ y < 2 * x := fun x y => by
    rw [Nat.mul_left_comm]
    exact Nat.mul_lt_mul_left hk
  simp only [roundHalfEven, hdiv, hmod, hlt, hgt]

theorem roundHalfEven_mul_self (m : Nat) {b : Nat} (hb : 0 < b) : roundHalfEven (m * b) b = m := by
  simp [roundHalfEven, Nat.mul_div_cancel m hb, hb]

theorem floorLog2_mul {k : Nat} (hk : 0 < k) (num : Nat) {den : Nat} (hden : 0 < den) :
    floorLog2 (k * num) (k * den) = floorLog2 num den := by
  have hpred : (k * den - 1) / (k * num) = (den - 1) / num := by
    rw [← Nat.div_div_eq_div_mul]
    congr 1
    have : k * den - 1 = k * (den - 1) + (k - 1) := by
      obtain ⟨d, rfl⟩ : ∃ d, den = d + 1 := ⟨den - 1, by omega⟩
      rw [Nat.add_sub_cancel, Nat.mul_add, Nat.mul_one]
      omega
    rw [this, Nat.mul_add_div hk, Nat.div_eq_of_lt (by omega), Nat.add_zero]
  simp only [floorLog2, Nat.mul_le_mul_left_iff hk, Nat.mul_div_mul_left num den hk, hpred]

theorem nearest_mul {k : Nat} (hk : 0 < k) (num : Nat) {den : Nat} (hden : 0 < den) :
    nearest (k * num) (k * den) = nearest num den := by
  by_cases hnum : num = 0
  · simp [nearest, hnum]
  · have hne : k * num ≠ 0 := Nat.mul_ne_zero (by omega) hnum
    simp only [nearest, hnum, hne, if_false, floorLog2_mul hk num hden,
      Nat.mul_assoc, roundHalfEven_mul hk]

theorem log2_eq {n k : Nat} (hlow : 2 ^ k ≤ n) (hhigh : n < 2 ^ (k + 1)) : n.log2 = k := by
  have hn : n ≠ 0 := fun h => by simp [h] at hlow
  have := (Nat.le_log2 hn).2 hlow
  have := (Nat.log2_lt hn).2 hhigh
  omega

theorem floorLog2_scaled {s : Nat} (hlow : 2 ^ 52 ≤ s) (hhigh : s < 2 ^ 53) (x : Int) :
    floorLog2 (s * 2 ^ x.toNat) (2 ^ (-x).toNat) = 52 + x := by
  have hs : 0 < s := by omega
  by_cases hx : 0 ≤ x
  · have hneg : (-x).toNat = 0 := by omega
    have hone : 1 ≤ s * 2 ^ x.toNat := Nat.mul_pos hs (Nat.two_pow_pos _)
    have hlog : (s * 2 ^ x.toNat).log2 = 52 + x.toNat := by
      apply log2_eq
      · rw [Nat.pow_add]
        exact Nat.mul_le_mul_right _ hlow
      · rw [Nat.add_right_comm, Nat.pow_add]
        exact Nat.mul_lt_mul_of_pos_right hhigh (Nat.two_pow_pos _)
    rw [floorLog2, hneg, Nat.pow_zero, if_pos hone, Nat.div_one, hlog]
    omega
  · have hpos : x.toNat = 0 := by omega
    obtain ⟨m, hm⟩ : ∃ m : Nat, x = -m := ⟨x.natAbs, by omega⟩
    have hneg : (-x).toNat = m := by omega
    rw [hpos, hneg, Nat.pow_zero, Nat.mul_one, hm]
    unfold floorLog2
    split
    · rename_i hle
      have hm52 : m ≤ 52 := Nat.le_of_not_lt fun hcon => by
        have : 2 ^ 53 ≤ 2 ^ m := Nat.pow_le_pow_right (by omega) (by omega)
        omega
      have hlog : (s / 2 ^ m).log2 = 52 - m := by
        apply log2_eq
        · rw [Nat.le_div_iff_mul_le (Nat.two_pow_pos m), ← Nat.pow_add]
          rwa [show 52 - m + m = 52 by omega]
        · rw [Nat.div_lt_iff_lt_mul (Nat.two_pow_pos m), ← Nat.pow_add]
          rwa [show 52 - m + 1 + m = 53 by omega]
      rw [hlog]
      omega
    · rename_i hlt
      have hm53 : 53 ≤ m := Nat.le_of_not_lt fun hcon => by
        have : 2 ^ m ≤ 2 ^ 52 := Nat.pow_le_pow_right (by omega) (by omega)
        omega
      have hsplit : ∀ k, k ≤ m → 2 ^ m = 2 ^ (m - k) * 2 ^ k := fun k hk => by
        rw [← Nat.pow_add, Nat.sub_add_cancel hk]
      have hp : 0 < 2 ^ (m - 53) := Nat.two_pow_pos _
      have hlog : ((2 ^ m - 1) / s).log2 = m - 53 := by
        apply log2_eq
        · rw [Nat.le_div_iff_mul_le hs]
          have : 2 ^ (m - 53) * s ≤ 2 ^ (m - 53) * (2 ^ 53 - 1) := Nat.mul_le_mul_left _ (by omega)
          have := hsplit 53 hm53
          rw [Nat.mul_sub] at *
          omega
        · rw [Nat.div_lt_iff_lt_mul hs]
          have : 2 ^ (m - 53 + 1) * 2 ^ 52 ≤ 2 ^ (m - 53 + 1) * s := Nat.mul_le_mul_left _ hlow
          have := hsplit 52 (by omega)
          rw [show m - 52 = m - 53 + 1 by omega] at this
          have := Nat.two_pow_pos m
          omega
      rw [hlog]
      omega

theorem significand_lt (b : Nat) : significand b < 2 ^ 53 := by
  unfold significand
  split <;> omega

theorem floorLog2_le_of_lt {n j k : Nat} (hn : 0 < n) (h : n < 2 ^ j) :
    floorLog2 n (2 ^ (j + k)) ≤ -(k + 1 : Nat) := by
  have hpow : 2 ^ (j + k) = 2 ^ k * 2 ^ j := by rw [Nat.pow_add, Nat.mul_comm]
  have hk : 0 < 2 ^ k := Nat.two_pow_pos k
  have hmul : 2 ^ k * (n + 1) ≤ 2 ^ k * 2 ^ j := Nat.mul_le_mul_left _ h
  rw [Nat.mul_add, Nat.mul_one] at hmul
  have hle : n ≤ 2 ^ k * n := Nat.le_mul_of_pos_left n hk
  have hquot : 2 ^ k ≤ (2 ^ (j + k) - 1) / n := by
    rw [Nat.le_div_iff_mul_le hn, hpow]
    omega
  have hlog := (Nat.le_log2 (by omega)).2 hquot
  have hlt : ¬ 2 ^ (j + k) ≤ n := by
    rw [hpow]
    omega
  simp only [floorLog2, hlt, if_false]
  omega

/-- Below the normal numbers all patterns share one exponent. -/
theorem nearest_of_floorLog2_le {n k : Nat} (hk : k = 1074)
    (hlog : floorLog2 n (2 ^ k) ≤ -1022) : nearest n (2 ^ k) = n := by
  unfold nearest
  split
  · omega
  · obtain ⟨q, hq⟩ : ∃ q, max (floorLog2 n (2 ^ k) - 52) (-1074) = q := ⟨_, rfl⟩
    have hpos : q.toNat = 0 := by omega
    have hneg : (-q).toNat = k := by omega
    have hzero : (q + 1074).toNat = 0 := by omega
    simp only [hq, hpos, hneg, hzero, Nat.pow_zero, Nat.mul_one, Nat.zero_mul, Nat.add_zero]
    exact roundHalfEven_mul_self n (Nat.two_pow_pos k)

/-- A pattern stands for a number whose nearest double it is. -/
theorem nearest_numerator_denominator (b : Nat) : nearest (numerator b) (denominator b) = b := by
  by_cases hb : b < 2 ^ 52
  · have hexp : exponent b = -1074 := if_pos hb
    have hsig : significand b = b := if_pos hb
    obtain ⟨k, hk⟩ : ∃ k, (-exponent b).toNat = 52 + k := ⟨1022, by omega⟩
    have hnum : numerator b = b := by simp [numerator, hsig, hexp]
    rw [hnum, denominator, hk]
    by_cases hpos : b = 0
    · simp [nearest, hpos]
    · apply nearest_of_floorLog2_le (by omega)
      have := floorLog2_le_of_lt (k := k) (Nat.pos_of_ne_zero hpos) hb
      omega
  · have hexp : exponent b = (b / 2 ^ 52 : Nat) - 1075 := if_neg hb
    have hsig : significand b = 2 ^ 52 + b % 2 ^ 52 := if_neg hb
    have hlow : 2 ^ 52 ≤ significand b := by omega
    have hdiv : 1 ≤ b / 2 ^ 52 := by omega
    have hlog := floorLog2_scaled hlow (significand_lt b) (exponent b)
    have hne : significand b * 2 ^ (exponent b).toNat ≠ 0 :=
      Nat.mul_ne_zero (by omega) (Nat.ne_of_gt (Nat.two_pow_pos _))
    have hq : max (52 + exponent b - 52) (-1074) = exponent b := by omega
    simp only [nearest, numerator, denominator, hne, if_false, hlog, hq]
    rw [Nat.mul_assoc, Nat.mul_comm (2 ^ (exponent b).toNat),
      roundHalfEven_mul_self _ (Nat.mul_pos (Nat.two_pow_pos _) (Nat.two_pow_pos _)), hsig, hexp]
    omega

/-! ## Floats -/

theorem exponent_field_lt {n : Nat} (hn : n % 2 ^ 63 < infinityPattern) :
    (n % 2 ^ 64) / 2 ^ 52 % 2 ^ 11 < 2 ^ 11 - 1 := by
  unfold infinityPattern at hn
  omega

theorem valid_of_lt {n : Nat} (hn : n % 2 ^ 63 < infinityPattern) :
    Float.Model.Format.binary64.Valid (UInt64.ofNat n).toBitVec := by
  refine ⟨fun h => absurd h ?_⟩
  intro h
  have h' := congrArg BitVec.toNat h
  have hf := exponent_field_lt hn
  simp [Float.Model.UnpackedFloat.unpackExponent, Nat.shiftRight_eq_div_pow] at h'
  omega

/-- The finite float with the pattern and the sign. -/
def ofPattern (negative : Bool) (b : Nat) (h : b < infinityPattern) : Float :=
  .ofModel ⟨UInt64.ofNat (b + if negative then 2 ^ 63 else 0), valid_of_lt (by
    unfold infinityPattern at *
    split <;> omega)⟩

def finite? (negative : Bool) (b : Nat) : Option Float :=
  if h : b < infinityPattern then some (ofPattern negative b h) else none

def isNegative (x : Float) : Bool := 2 ^ 63 ≤ x.toBits.toNat

def pattern (x : Float) : Nat := x.toBits.toNat % 2 ^ 63

def isFinite (x : Float) : Bool := pattern x < infinityPattern

theorem toNat_toBits_ofPattern (negative : Bool) {b : Nat} (h : b < infinityPattern) :
    (ofPattern negative b h).toBits.toNat = (b + if negative then 2 ^ 63 else 0) % 2 ^ 64 := rfl

theorem pattern_ofPattern (negative : Bool) {b : Nat} (h : b < infinityPattern) :
    pattern (ofPattern negative b h) = b := by
  rw [pattern, toNat_toBits_ofPattern]
  unfold infinityPattern at h
  cases negative <;> simp <;> omega

theorem isNegative_ofPattern (negative : Bool) {b : Nat} (h : b < infinityPattern) :
    isNegative (ofPattern negative b h) = negative := by
  rw [isNegative, toNat_toBits_ofPattern]
  unfold infinityPattern at h
  cases negative <;> simp <;> omega

theorem isFinite_ofPattern (negative : Bool) {b : Nat} (h : b < infinityPattern) :
    isFinite (ofPattern negative b h) = true := by
  simp [isFinite, pattern_ofPattern, h]

theorem eq_of_toBits_eq {x y : Float} (h : x.toBits = y.toBits) : x = y := by
  obtain ⟨⟨a, ha⟩⟩ := x
  obtain ⟨⟨b, hb⟩⟩ := y
  obtain rfl : a = b := h
  rfl

theorem ofPattern_pattern {x : Float} (h : pattern x < infinityPattern) :
    ofPattern (isNegative x) (pattern x) h = x := by
  apply eq_of_toBits_eq
  apply UInt64.toNat_inj.1
  have hlt := x.toBits.toNat_lt
  rw [toNat_toBits_ofPattern]
  simp only [pattern, isNegative, decide_eq_true_eq]
  split <;> omega

theorem finite?_pattern {x : Float} (h : isFinite x = true) :
    finite? (isNegative x) (pattern x) = some x := by
  have hlt : pattern x < infinityPattern := of_decide_eq_true h
  simp [finite?, hlt, ofPattern_pattern]

theorem isFinite_of_finite? {negative : Bool} {b : Nat} {x : Float}
    (h : finite? negative b = some x) : isFinite x = true := by
  unfold finite? at h
  split at h
  · cases h
    exact isFinite_ofPattern negative _
  · cases h

/-! ## Integers -/

theorem roundHalfEven_le (a b : Nat) : roundHalfEven a b ≤ a / b + 1 := by
  unfold roundHalfEven
  split
  · omega
  · split <;> omega

theorem div_two_pow_lt {n k : Nat} (h : n < 2 ^ (k + 53)) : n / 2 ^ k < 2 ^ 53 := by
  rw [Nat.div_lt_iff_lt_mul (Nat.two_pow_pos k), ← Nat.pow_add, Nat.add_comm 53 k]
  exact h

theorem nearest_lt_of_le {n : Nat} (h : n ≤ 2 ^ 63) : nearest n 1 < infinityPattern := by
  unfold nearest
  split
  · decide
  · rename_i hn
    have hlog : n.log2 < 64 := (Nat.log2_lt hn).2 (by omega)
    have hlt : n < 2 ^ (n.log2 + 1) := Nat.lt_log2_self
    have hfloor : floorLog2 n 1 = n.log2 := by
      simp [floorLog2, hn]
    have hround : ∀ a b, a / b < 2 ^ 53 → roundHalfEven a b ≤ 2 ^ 53 := fun a b hab =>
      Nat.le_trans (roundHalfEven_le a b) (by omega)
    rw [hfloor]
    simp only [infinityPattern]
    generalize hq : max ((n.log2 : Int) - 52) (-1074) = q
    have hquot : n * 2 ^ (-q).toNat / (1 * 2 ^ q.toNat) < 2 ^ 53 := by
      rw [Nat.one_mul]
      apply div_two_pow_lt
      calc n * 2 ^ (-q).toNat < 2 ^ (n.log2 + 1) * 2 ^ (-q).toNat :=
            Nat.mul_lt_mul_of_pos_right hlt (Nat.two_pow_pos _)
        _ = 2 ^ (n.log2 + 1 + (-q).toNat) := (Nat.pow_add ..).symm
        _ ≤ 2 ^ (q.toNat + 53) := Nat.pow_le_pow_right (by omega) (by omega)
    have := hround _ _ hquot
    have : (q + 1074).toNat ≤ 1085 := by omega
    omega

def ofInt64 (i : Int64) : Float :=
  ofPattern (i < 0) (nearest i.toInt.natAbs 1)
    (nearest_lt_of_le (by have := i.le_toInt; have := i.toInt_lt; omega))

/-- The integer that the float equals, if it is finite and has no fraction. -/
def wholePart? (x : Float) : Option Int :=
  if isFinite x ∧ numerator (pattern x) % denominator (pattern x) = 0 then
    let n := numerator (pattern x) / denominator (pattern x)
    some (if isNegative x then -n else n)
  else none

end IniSchema.Binary64
