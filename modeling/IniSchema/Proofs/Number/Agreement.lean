import IniSchema.Proofs.Number.Reading

/-!
# One text read for several types

What is read as an integer is read as the float of that integer, what is read as a float is read as
true unless it is zero, and what has no value for one type has none for any.
-/

namespace IniSchema.ValueType

open Literal Binary64

/-- A number other than zero is not rounded to zero, as one with its sign is nearer. -/
theorem toRat_ofInt64_eq_zero_iff {n : Int64} : toRat (ofInt64 n) = 0 ↔ n = 0 := by
  have hnearest := nearestFloat_ofInt64 n
  constructor
  · intro h
    by_contra hne
    have hnonzero : n.toInt ≠ 0 := fun hzero => hne (Int64.toInt_inj.mp hzero)
    have hcloser : ∀ i : Int, i.natAbs ≤ 2 ^ 53 → |n.toInt| ≤ |i - n.toInt| := by
      intro i hi
      obtain ⟨y, hy, hvalue⟩ := exists_toRat_eq hi
      have hclosest := hnearest.closest y hy
      rw [h, hvalue, zero_sub, abs_neg] at hclosest
      exact_mod_cast hclosest
    rcases Int.lt_or_gt_of_ne hnonzero with hneg | hpos
    · have hone := hcloser (-1) (by decide)
      rw [abs_of_neg hneg, abs_of_nonneg (by omega)] at hone
      omega
    · have hone := hcloser 1 (by decide)
      rw [abs_of_pos hpos, abs_of_nonpos (by omega)] at hone
      omega
  · rintro rfl
    obtain ⟨y, hy, hvalue⟩ := exists_toRat_eq (i := (0 : Int64).toInt) (by decide)
    rw [hnearest.toRat_eq hy hvalue]
    rfl

theorem ofInt64_bne_zero (n : Int64) : (ofInt64 n != 0.0) = (n != 0) := by
  rw [Bool.eq_iff_iff, bne_zero_iff (isFinite_ofInt64 n), bne_iff_ne, ne_eq,
    toRat_ofInt64_eq_zero_iff]

theorem read_boolean_of_readsFloat {t : Text} {x : Float} (h : ReadsFloat t.trim x) :
    ValueType.boolean.read t = .ok (.boolean (x != 0.0)) := by
  obtain ⟨c, hc, hdigit⟩ := h.exists_digit
  have hword : ∀ word : Text, word.any Char.isDigit = false → t.trim.asciiLower ≠ word :=
    Value.asciiLower_ne_of_digit hc hdigit
  have htrue := hword "true" (by decide)
  have hyes := hword "yes" (by decide)
  have hon := hword "on" (by decide)
  have hfalse := hword "false" (by decide)
  have hno := hword "no" (by decide)
  have hoff := hword "off" (by decide)
  rw [read_eq_ok_iff]
  unfold readTrimmed
  rw [Value.isNullWord_of_digit hc hdigit]
  simp only [Bool.false_eq_true, if_false, readBoolean, htrue, hyes, hon, hfalse, hno, hoff,
    or_self]
  rcases h with ⟨n, hn, rfl⟩ | ⟨hnone, hx⟩
  · simp only [hn, ofInt64_bne_zero]
  · simp only [hnone, hx]

theorem read_float_of_readsInteger {t : Text} {n : Int64} (h : ReadsInteger t.trim n) :
    ∃ x, ValueType.float.read t = .ok (.float x) ∧ NearestFloat n.toInt x ∧
      (Value.float x).sameAs (.float (ofInt64 n)) = true := by
  have hnearest := nearestFloat_ofInt64 n
  simp only [read_float_iff]
  rcases h with hn | ⟨hnone, x, hx, hvalue⟩
  · exact ⟨ofInt64 n, .inl ⟨n, hn, rfl⟩, hnearest,
      (beq_iff hnearest.isFinite hnearest.isFinite).mpr rfl⟩
  · have hfinite := isFinite_of_float? hx
    refine ⟨x, .inr ⟨hnone, hx⟩, hvalue ▸ nearestFloat_toRat hfinite, ?_⟩
    exact (beq_iff hfinite hnearest.isFinite).mpr
      (hvalue.trans (hnearest.toRat_eq hfinite hvalue).symm)

/-- What is read as an integer is read as the float nearest to it, and what is read as a float is
read as true unless it is zero.  What has no value for one type has none for any. -/
theorem read_agree (t : Text) :
    (∀ n, ValueType.integer.read t = .ok (.integer n) →
      ∃ x, ValueType.float.read t = .ok (.float x) ∧ NearestFloat n.toInt x ∧
        (Value.float x).sameAs (.float (ofInt64 n)) = true) ∧
    (∀ x, ValueType.float.read t = .ok (.float x) →
      ValueType.boolean.read t = .ok (.boolean (x != 0.0))) ∧
    ∀ type type' : ValueType, type.read t = .ok .null ↔ type'.read t = .ok .null := by
  refine ⟨fun n hn => read_float_of_readsInteger (read_integer_iff.mp hn),
    fun x hx => read_boolean_of_readsFloat (read_float_iff.mp hx), fun type type' => ?_⟩
  rw [read_eq_ok_iff, read_eq_ok_iff, readTrimmed_eq_null_iff, readTrimmed_eq_null_iff]

theorem read_agree_negative_zero :
    ∃ x, ValueType.float.read " -0.0" = .ok (.float x) ∧
      (Value.float x).sameAs (.float (ofInt64 0)) = true ∧
      ValueType.boolean.read " -0.0" = .ok (.boolean (x != 0.0)) := by
  have hread : ValueType.integer.read " -0.0" = .ok (.integer 0) :=
    read_eq_ok_iff.mpr (by decide +kernel)
  obtain ⟨hinteger, hfloat, -⟩ := read_agree " -0.0"
  obtain ⟨x, hx, -, hsame⟩ := hinteger 0 hread
  exact ⟨x, hx, hsame, hfloat x hx⟩

end IniSchema.ValueType
