import IniSchema.Proofs.Number.Rounding
import IniSchema.Reading

/-!
# Floats as rational numbers

Every finite float stands for a rational number, and two finite floats are equal as floats if they
stand for the same one.
-/

namespace IniSchema.Binary64

open Float.Model

/-- The number, or its negative. -/
def signed (negative : Bool) (q : ℚ) : ℚ := if negative then -q else q

/-- The number that the finite float stands for. -/
def toRat (x : Float) : ℚ := signed (isNegative x) (value (pattern x))

/-! ## Comparison -/

private theorem toNat_exponent (x : Float) :
    (@UnpackedFloat.unpackExponent Format.binary64 x.toModel.toBits.toBitVec).toNat =
      pattern x / 2 ^ 52 := by
  have hfield : x.toBits.toNat / 2 ^ 52 % 2 ^ 11 = pattern x / 2 ^ 52 := by
    unfold pattern
    omega
  rw [← hfield]
  simp only [UnpackedFloat.unpackExponent, BitVec.toNat_cast, BitVec.extractLsb_toNat,
    Nat.shiftRight_eq_div_pow]
  rfl

private theorem toNat_mantissa (x : Float) :
    (@UnpackedFloat.unpackMantissa Format.binary64 x.toModel.toBits.toBitVec).toNat =
      pattern x % 2 ^ 52 := by
  have hfield : x.toBits.toNat % 2 ^ 52 = pattern x % 2 ^ 52 := by
    unfold pattern
    omega
  rw [← hfield]
  simp only [UnpackedFloat.unpackMantissa, BitVec.toNat_cast, BitVec.extractLsb_toNat,
    Nat.shiftRight_zero]
  rfl

private def sign (negative : Bool) : UnpackedFloat.Sign := if negative then .negative else .positive

private theorem unpack_sign (x : Float) :
    UnpackedFloat.Sign.ofBitVec
      (@UnpackedFloat.unpackSign Format.binary64 x.toModel.toBits.toBitVec) =
      sign (isNegative x) := by
  have hbit : (@UnpackedFloat.unpackSign Format.binary64 x.toModel.toBits.toBitVec).toNat =
      x.toBits.toNat / 2 ^ 63 % 2 ^ 1 := by
    change (BitVec.cast _ (BitVec.extractLsb _ _ _)).toNat = _
    rw [BitVec.toNat_cast, BitVec.extractLsb_toNat, Nat.shiftRight_eq_div_pow]
    rfl
  have hlt := x.toBits.toNat_lt
  unfold UnpackedFloat.Sign.ofBitVec sign isNegative
  simp only [← BitVec.toNat_inj, hbit]
  by_cases hnegative : 2 ^ 63 ≤ x.toBits.toNat
  · rw [if_neg (by simp; omega), if_pos (by simpa using hnegative)]
  · rw [if_pos (by simp; omega), if_neg (by simpa using hnegative)]

private theorem exists_finite_eq {s : UnpackedFloat.Sign} {m m' : Nat} {e e' : Int} (hpos : 0 < m)
    (hm : m = m') (he : e = e') :
    ∃ hpos', UnpackedFloat.finite s m e hpos = .finite s m' e' hpos' := by
  subst hm he
  exact ⟨hpos, rfl⟩

/-- A finite float is taken apart into its sign and what its pattern stands for. -/
private theorem unpack_cases {x : Float} (h : isFinite x = true) :
    pattern x = 0 ∧ x.toModel.unpack = .zero (sign (isNegative x)) ∨
    pattern x ≠ 0 ∧ ∃ hpos, x.toModel.unpack =
      .finite (sign (isNegative x)) (significand (pattern x)) (exponent (pattern x)) hpos := by
  have hlt : pattern x < 0x7FF * 2 ^ 52 := of_decide_eq_true h
  have hexponent := toNat_exponent x
  have hmantissa := toNat_mantissa x
  have hones : (-1#_ : BitVec Format.binary64.exponentBits).toNat = 0x7FF := rfl
  have hbias : (Format.binary64.exponentBias : Int) = 1023 := rfl
  have hfinite : @UnpackedFloat.unpackExponent Format.binary64 x.toModel.toBits.toBitVec ≠
      -1#_ := by
    rw [ne_eq, ← BitVec.toNat_inj, hexponent, hones]
    omega
  have hsubnormal : @UnpackedFloat.unpackExponent Format.binary64 x.toModel.toBits.toBitVec = 0#_ ↔
      pattern x < 2 ^ 52 := by
    rw [← BitVec.toNat_inj, hexponent, BitVec.toNat_zero]
    omega
  have hnone : @UnpackedFloat.unpackMantissa Format.binary64 x.toModel.toBits.toBitVec = 0#_ ↔
      pattern x % 2 ^ 52 = 0 := by
    rw [← BitVec.toNat_inj, hmantissa, BitVec.toNat_zero]
  unfold Float.Model.unpack UnpackedFloat.unpack
  dsimp only
  rw [unpack_sign, if_neg hfinite]
  by_cases hsmall : pattern x < 2 ^ 52
  · have hsig : significand (pattern x) = pattern x := if_pos hsmall
    have hexp : exponent (pattern x) = -1074 := if_pos hsmall
    rw [if_pos (hsubnormal.mpr hsmall)]
    by_cases hzero : pattern x = 0
    · rw [dif_pos (hnone.mpr (by omega))]
      exact .inl ⟨hzero, rfl⟩
    · rw [dif_neg (mt hnone.mp (by omega))]
      refine .inr ⟨hzero, exists_finite_eq _ ?_ ?_⟩
      · rw [hmantissa, hsig]
        omega
      · rw [hexponent, hexp, hbias]
        omega
  · have hsig : significand (pattern x) = 2 ^ 52 + pattern x % 2 ^ 52 := if_neg hsmall
    have hexp : exponent (pattern x) = (pattern x / 2 ^ 52 : Nat) - 1075 := if_neg hsmall
    rw [if_neg (mt hsubnormal.mp hsmall)]
    refine .inr ⟨by omega, exists_finite_eq _ ?_ ?_⟩
    · have hbound : pattern x % 2 ^ 52 < 2 ^ 52 := Nat.mod_lt _ (Nat.two_pow_pos 52)
      rw [BitVec.toNat_append, hmantissa, hsig, ← Nat.shiftLeft_add_eq_or_of_lt hbound]
      rfl
    · rw [hexponent, hexp, hbias]
      omega

private theorem eq_of_pattern_eq {x y : Float} (hx : isFinite x = true)
    (hsign : isNegative x = isNegative y) (hpattern : pattern x = pattern y) : x = y := by
  have hx' := finite?_pattern hx
  have hy : isFinite y = true := by rwa [isFinite, ← hpattern]
  rw [hsign, hpattern, finite?_pattern hy] at hx'
  exact (Option.some.inj hx').symm

theorem toRat_eq_iff {x y : Float} (hx : isFinite x = true) :
    toRat x = toRat y ↔ x = y ∨ pattern x = 0 ∧ pattern y = 0 := by
  have hzero : ∀ b, value b = 0 ↔ b = 0 := fun b => by
    rw [← value_zero]
    exact value_strictMono.injective.eq_iff
  constructor
  · intro h
    by_cases hsign : isNegative x = isNegative y
    · refine .inl (eq_of_pattern_eq hx hsign (value_strictMono.injective ?_))
      unfold toRat signed at h
      rw [hsign] at h
      split at h
      · exact neg_injective h
      · exact h
    -- Of opposite signs only the zeros stand for the same number.
    · have hxvalue := value_nonneg (pattern x)
      have hyvalue := value_nonneg (pattern y)
      have hsum : value (pattern x) + value (pattern y) = 0 := by
        unfold toRat signed at h
        cases hnegx : isNegative x <;> cases hnegy : isNegative y <;>
          simp [hnegx, hnegy] at h hsign <;> linarith
      exact .inr ⟨(hzero _).mp (by linarith), (hzero _).mp (by linarith)⟩
  · rintro (rfl | ⟨hx, hy⟩)
    · rfl
    · simp [toRat, signed, hx, hy, value_zero]

private theorem compare_finite_eq_iff {s s' : UnpackedFloat.Sign} {m m' : Nat} {e e' : Int}
    (h : 0 < m) (h' : 0 < m') :
    (UnpackedFloat.finite s m e h).compare (.finite s' m' e' h') = some .eq ↔
      s = s' ∧ e = e' ∧ m = m' := by
  cases s with
  | positive =>
      cases s' with
      | positive =>
          change some ((compare e e').then (compare m m')) = some .eq ↔ _
          simp [Ordering.then_eq_eq]
      | negative => exact iff_of_false (by rintro ⟨⟩) (by rintro ⟨⟨⟩, -⟩)
  | negative =>
      cases s' with
      | positive => exact iff_of_false (by rintro ⟨⟩) (by rintro ⟨⟨⟩, -⟩)
      | negative =>
          change some ((compare e e').then (compare m m')).swap = some .eq ↔ _
          simp [Ordering.then_eq_eq, Ordering.swap_eq_eq]

private theorem compare_zero_finite_ne {s s' : UnpackedFloat.Sign} {m : Nat} {e : Int}
    (h : 0 < m) : (UnpackedFloat.zero s).compare (.finite s' m e h) ≠ some .eq ∧
      (UnpackedFloat.finite s' m e h).compare (.zero s) ≠ some .eq := by
  cases s' with
  | positive => exact ⟨by rintro ⟨⟩, by rintro ⟨⟩⟩
  | negative => exact ⟨by rintro ⟨⟩, by rintro ⟨⟩⟩

/-- Floats are compared as the numbers that they stand for. -/
theorem beq_iff {x y : Float} (hx : isFinite x = true) (hy : isFinite y = true) :
    (x == y) = true ↔ toRat x = toRat y := by
  have hcompare : (x == y) = (x.toModel.unpack.compare y.toModel.unpack == some .eq) := rfl
  have hzeros : x = y ∨ pattern x = 0 ∧ pattern y = 0 → (pattern x = 0 ↔ pattern y = 0) := by
    rintro (rfl | ⟨hx, hy⟩)
    · rfl
    · exact iff_of_true hx hy
  rw [hcompare, toRat_eq_iff hx, beq_iff_eq]
  rcases unpack_cases hx with ⟨hx₀, hxunpack⟩ | ⟨hx₀, hxpos, hxunpack⟩ <;>
    rcases unpack_cases hy with ⟨hy₀, hyunpack⟩ | ⟨hy₀, hypos, hyunpack⟩ <;>
    rw [hxunpack, hyunpack]
  · exact iff_of_true rfl (.inr ⟨hx₀, hy₀⟩)
  · exact iff_of_false (compare_zero_finite_ne hypos).1 fun h => hy₀ ((hzeros h).mp hx₀)
  · exact iff_of_false (compare_zero_finite_ne hxpos).2 fun h => hx₀ ((hzeros h).mpr hy₀)
  · rw [compare_finite_eq_iff]
    constructor
    · rintro ⟨hsign, hexp, hsig⟩
      have hnegative : isNegative x = isNegative y := by
        unfold sign at hsign
        cases hnegx : isNegative x <;> cases hnegy : isNegative y <;> simp [hnegx, hnegy] at hsign ⊢
      refine .inl (eq_of_pattern_eq hx hnegative (value_strictMono.injective ?_))
      rw [value, value, hexp, hsig]
    · rintro (rfl | ⟨hzero, -⟩)
      · exact ⟨rfl, rfl, rfl⟩
      · exact absurd hzero hx₀

theorem bne_zero_iff {x : Float} (hx : isFinite x = true) : (x != 0.0) = true ↔ toRat x ≠ 0 := by
  have hzero : toRat 0.0 = 0 := by
    have hpattern : pattern 0.0 = 0 := by decide
    simp [toRat, signed, hpattern, value_zero]
  rw [bne, Bool.not_eq_true', ← Bool.not_eq_true, beq_iff hx (by decide), hzero]

/-! ## Rounding to floats -/

/-- No finite float stands for a number nearer to `q`, and the pattern is even if another number is
as near. -/
structure NearestFloat (q : ℚ) (x : Float) : Prop where
  isFinite : isFinite x = true
  closest : ∀ y, Binary64.isFinite y = true → |toRat x - q| ≤ |toRat y - q|
  even_of_tie : ∀ y, Binary64.isFinite y = true → toRat y ≠ toRat x →
    |toRat y - q| = |toRat x - q| → pattern x % 2 = 0

theorem NearestFloat.toRat_eq {q : ℚ} {x y : Float} (h : NearestFloat q x)
    (hy : Binary64.isFinite y = true) (hq : toRat y = q) : toRat x = q := by
  have hclosest := h.closest y hy
  rw [hq, sub_self, abs_zero] at hclosest
  exact sub_eq_zero.mp (abs_nonpos_iff.mp hclosest)

theorem nearestFloat_toRat {x : Float} (hx : Binary64.isFinite x = true) :
    NearestFloat (toRat x) x where
  isFinite := hx
  closest := fun y _ => by
    rw [sub_self, abs_zero]
    exact abs_nonneg _
  even_of_tie := fun y _ hne htie => by
    rw [sub_self, abs_zero, abs_eq_zero, sub_eq_zero] at htie
    exact absurd htie hne

theorem abs_signed (negative : Bool) {q : ℚ} (hq : 0 ≤ q) : |signed negative q| = q := by
  rw [signed]
  split
  · rw [abs_neg, abs_of_nonneg hq]
  · exact abs_of_nonneg hq

theorem abs_toRat (x : Float) : |toRat x| = value (pattern x) := abs_signed _ (value_nonneg _)

theorem toRat_ofPattern (negative : Bool) {b : Nat} (hb : b < infinityPattern) :
    toRat (ofPattern negative b hb) = signed negative (value b) := by
  rw [toRat, isNegative_ofPattern, pattern_ofPattern]

/-- Two floats with even patterns are not next to each other. -/
private theorem exists_between {x y : Float} (hx : isFinite x = true) (hy : isFinite y = true)
    (hlt : toRat x < toRat y) (hxeven : pattern x % 2 = 0) (hyeven : pattern y % 2 = 0) :
    ∃ z, isFinite z = true ∧ toRat x < toRat z ∧ toRat z < toRat y := by
  have hxlt : pattern x < infinityPattern := of_decide_eq_true hx
  have hylt : pattern y < infinityPattern := of_decide_eq_true hy
  have hxvalue := abs_toRat x
  have hyvalue := abs_toRat y
  rcases le_or_gt 0 (toRat x) with hpos | hneg
  · rw [abs_of_nonneg hpos] at hxvalue
    rw [abs_of_pos (hpos.trans_lt hlt)] at hyvalue
    have hpattern : pattern x < pattern y := value_strictMono.lt_iff_lt.mp (by linarith)
    have hbetween : pattern x + 1 < pattern y := by omega
    refine ⟨ofPattern false (pattern x + 1) (by omega), isFinite_ofPattern _ _, ?_⟩
    rw [toRat_ofPattern, hxvalue, hyvalue]
    exact ⟨value_strictMono (Nat.lt_succ_self _), value_strictMono hbetween⟩
  · rcases le_or_gt (toRat y) 0 with hnonpos | hpos
    · rw [abs_of_neg hneg] at hxvalue
      rw [abs_of_nonpos hnonpos] at hyvalue
      have hpattern : pattern y < pattern x := value_strictMono.lt_iff_lt.mp (by linarith)
      have hbetween : pattern y + 1 < pattern x := by omega
      refine ⟨ofPattern true (pattern y + 1) (by omega), isFinite_ofPattern _ _, ?_⟩
      rw [toRat_ofPattern, ← neg_neg (toRat x), ← neg_neg (toRat y), hxvalue, hyvalue]
      exact ⟨neg_lt_neg (value_strictMono hbetween),
        neg_lt_neg (value_strictMono (Nat.lt_succ_self _))⟩
    · refine ⟨ofPattern false 0 (by decide), isFinite_ofPattern _ _, ?_⟩
      rw [toRat_ofPattern, value_zero]
      exact ⟨hneg, hpos⟩

/-- The nearest float is unique up to the sign of zero. -/
theorem NearestFloat.toRat_unique {q : ℚ} {x y : Float} (hx : NearestFloat q x)
    (hy : NearestFloat q y) : toRat x = toRat y := by
  by_contra hne
  wlog hlt : toRat x < toRat y generalizing x y
  · exact this hy hx (Ne.symm hne) (lt_of_le_of_ne (not_lt.mp hlt) (Ne.symm hne))
  have htie : |toRat x - q| = |toRat y - q| :=
    le_antisymm (hx.closest y hy.isFinite) (hy.closest x hx.isFinite)
  have hxeven := hx.even_of_tie y hy.isFinite (Ne.symm hne) htie.symm
  have hyeven := hy.even_of_tie x hx.isFinite hne htie
  obtain ⟨z, hz, hlow, hhigh⟩ := exists_between hx.isFinite hy.isFinite hlt hxeven hyeven
  have hclosest := hx.closest z hz
  rcases abs_cases (toRat x - q) with h₁ | h₁ <;> rcases abs_cases (toRat y - q) with h₂ | h₂ <;>
    rcases abs_cases (toRat z - q) with h₃ | h₃ <;> linarith

private theorem abs_signed_sub (negative : Bool) (p q : ℚ) :
    |signed negative p - signed negative q| = |p - q| := by
  cases negative with
  | false => rfl
  | true => rw [signed, signed, if_pos rfl, if_pos rfl, neg_sub_neg, abs_sub_comm]

private theorem abs_signed_sub_of_ne {negative other : Bool} (hne : other ≠ negative) {p q : ℚ}
    (hp : 0 ≤ p) (hq : 0 ≤ q) : |signed other p - signed negative q| = p + q := by
  cases negative with
  | false =>
      obtain rfl : other = true := by simpa using hne
      rw [signed, signed, if_pos rfl, if_neg Bool.false_ne_true, ← neg_add', abs_neg,
        abs_of_nonneg (add_nonneg hp hq)]
  | true =>
      obtain rfl : other = false := by simpa using hne
      rw [signed, signed, if_pos rfl, if_neg Bool.false_ne_true, sub_neg_eq_add,
        abs_of_nonneg (add_nonneg hp hq)]

/-- Floats of the other sign are not nearer. -/
theorem Nearest.nearestFloat {x : Float} {q : ℚ} (h : Nearest q (pattern x))
    (hx : Binary64.isFinite x = true) (hq : 0 ≤ q) : NearestFloat (signed (isNegative x) q) x := by
  have hsame : |toRat x - signed (isNegative x) q| = |value (pattern x) - q| :=
    abs_signed_sub _ _ _
  have hother : ∀ y, |value (pattern y) - q| ≤ |toRat y - signed (isNegative x) q| := by
    intro y
    by_cases hsign : isNegative y = isNegative x
    · rw [toRat, hsign, abs_signed_sub]
    · rw [toRat, abs_signed_sub_of_ne hsign (value_nonneg _) hq, abs_le]
      constructor <;> linarith [value_nonneg (pattern y)]
  refine ⟨hx, ?_, ?_⟩
  · intro y _
    rw [hsame]
    exact (h.closest (pattern y)).trans (hother y)
  · intro y hy hne htie
    rw [hsame] at htie
    refine h.even_of_tie (pattern y) ?_ (le_antisymm (htie ▸ hother y) (h.closest _))
    -- The same pattern with the other sign is as near only for a number that is zero.
    intro hpattern
    have hsign : isNegative y ≠ isNegative x := by
      intro hsign
      rw [toRat, toRat, hsign, hpattern] at hne
      exact hne rfl
    have hvalue := value_nonneg (pattern x)
    have hclosest := h.closest 0
    rw [toRat, hpattern, abs_signed_sub_of_ne hsign hvalue hq] at htie
    rw [value_zero, zero_sub, abs_neg, abs_of_nonneg hq] at hclosest
    have hzero : value (pattern x) = 0 := by linarith
    simp [toRat, signed, hpattern, hzero] at hne

/-! ## Integers -/

theorem signed_natCast (negative : Bool) (n : Nat) :
    signed negative n = ((if negative then -(n : Int) else n : Int) : ℚ) := by
  cases negative <;> simp [signed]

theorem signed_natAbs (i : Int) : signed (decide (i < 0)) i.natAbs = i := by
  rw [signed, Nat.cast_natAbs, Int.cast_abs]
  split
  · rename_i hnegative
    rw [abs_of_neg (by exact_mod_cast of_decide_eq_true hnegative), neg_neg]
  · rename_i hnonnegative
    rw [abs_of_nonneg (by exact_mod_cast not_lt.mp (by simpa using hnonnegative))]

theorem isFinite_ofInt64 (i : Int64) : isFinite (ofInt64 i) = true := isFinite_ofPattern _ _

/-- An integer becomes the float nearest to it. -/
theorem nearestFloat_ofInt64 (i : Int64) : NearestFloat i.toInt (ofInt64 i) := by
  have hpattern : Nearest (i.toInt.natAbs : ℚ) (pattern (ofInt64 i)) := by
    rw [ofInt64, pattern_ofPattern]
    simpa using nearest_nearest i.toInt.natAbs Nat.one_pos
  have hnegative : isNegative (ofInt64 i) = decide (i.toInt < 0) := by
    rw [ofInt64, isNegative_ofPattern, decide_eq_decide, Int64.lt_iff_toInt_lt]
    rfl
  have h := hpattern.nearestFloat (isFinite_ofInt64 i) (Nat.cast_nonneg _)
  rwa [hnegative, signed_natAbs] at h

/-- A float has a whole part, and it is an integer, if it stands for that integer. -/
theorem wholePart?_eq_some_iff {x : Float} {i : Int} :
    wholePart? x = some i ↔ isFinite x = true ∧ toRat x = i := by
  have hsigned : ∀ n : Nat, (if isNegative x then -(n : Int) else n) = i ↔
      signed (isNegative x) n = i := fun n => by rw [signed_natCast, Int.cast_inj]
  simp only [wholePart?, Option.ite_none_right_eq_some, Option.some.injEq, hsigned, toRat,
    and_assoc]
  refine and_congr_right fun _ => ⟨?_, fun h => ?_⟩
  · rintro ⟨hwhole, h⟩
    rw [value_eq_natCast_iff.mpr ⟨hwhole, rfl⟩, h]
  · have hvalue : value (pattern x) = i.natAbs := by
      rw [Nat.cast_natAbs, Int.cast_abs, ← h, abs_signed _ (value_nonneg _)]
    obtain ⟨hwhole, hquotient⟩ := value_eq_natCast_iff.mp hvalue
    rw [hquotient, ← hvalue]
    exact ⟨hwhole, h⟩

/-- Every integer up to `2 ^ 53` is the number of a float. -/
theorem exists_toRat_eq {i : Int} (h : i.natAbs ≤ 2 ^ 53) :
    ∃ x, isFinite x = true ∧ toRat x = i := by
  obtain ⟨b, hb, hvalue⟩ := exists_value_eq_natCast h
  refine ⟨ofPattern (decide (i < 0)) b hb, isFinite_ofPattern _ _, ?_⟩
  rw [toRat_ofPattern, hvalue, signed_natAbs]

end IniSchema.Binary64
