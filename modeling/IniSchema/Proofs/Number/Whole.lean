import IniSchema.Proofs.Number.Reading

/-!
# Whole numbers and decimals

A decimal literal without point and exponent is an integer literal of the same number.  Any other
one counts as the number of the nearest float, so a whole number with a point behind is read as the
nearest float however large it is.
-/

namespace IniSchema

open Literal Binary64

/-! ## Literals without point and exponent -/

namespace Literal

/-- The text has neither point nor exponent. -/
def IsWhole (t : Text) : Prop := ∀ c ∈ t, c ≠ '.' ∧ c ≠ 'e' ∧ c ≠ 'E'

section Wholeness

variable {t : Text} {negative : Bool} {d : Decimal} {i : Int}

theorem isDecimalChar_iff {c : Char} :
    isDecimalChar c = true ↔ c.isDigit = true ∨ c ∈ ['.', 'e', 'E', '+', '-', '_'] := by
  simp [isDecimalChar, or_assoc]

theorem isBlank_of_isDecimalChar {c : Char} (h : isDecimalChar c = true) :
    Unicode.isBlank c = false := by
  have hother : List.any ['.', 'e', 'E', '+', '-', '_'] Unicode.isBlank = false := by decide
  rcases isDecimalChar_iff.mp h with hc | hc
  · exact Unicode.isBlank_of_isDigit hc
  · exact Bool.eq_false_iff.mpr (List.any_eq_false.mp hother c hc)

theorem ReadableDecimal.trim_eq (h : ReadableDecimal t negative d) : t.trim = t :=
  Text.trim_eq_self_iff.mpr
    (Text.isTrimmed_of_forall fun _ hc => isBlank_of_isDecimalChar (h.isDecimalChar hc))

/-- No letter that marks a radix is a character of decimals. -/
private theorem notMem_markedRadixes {c : Char} (h : isDecimalChar c = true) (radix : Nat) :
    (c.toLower, radix) ∉ markedRadixes := by
  have hdigit : ∀ m ∈ markedRadixes, m.1.isDigit = false := by decide
  have hother : ∀ m ∈ markedRadixes,
      m.1 ∉ List.map Char.toLower ['.', 'e', 'E', '+', '-', '_'] := by
    decide
  intro hmem
  rcases isDecimalChar_iff.mp h with hc | hc
  · have hmark := hdigit _ hmem
    rw [toLower_of_isDigit hc, hc] at hmark
    cases hmark
  · exact hother _ hmem (List.mem_map_of_mem hc)

theorem isWhole_of_forall (h : ∀ c ∈ t, c.isDigit = true ∨ IsSign c ∨ c = '_') : IsWhole t := by
  intro c hc
  rcases h c hc with hdigit | (rfl | rfl) | rfl
  · refine ⟨?_, ?_, ?_⟩ <;> rintro rfl <;> cases hdigit
  · decide
  · decide
  · decide

theorem Denotes.isWhole (h : Denotes t i) (hchars : ∀ c ∈ t, isDecimalChar c = true) :
    IsWhole t := by
  cases h with
  | written hsign hmark hbody =>
      cases hmark with
      | marked hc _ => exact absurd hc (notMem_markedRadixes (hchars _ (by simp)) _)
      | absent =>
          refine isWhole_of_forall fun c hc => ?_
          rw [List.append_nil, List.mem_append] at hc
          rcases hc with hc | hc
          · exact .inr (.inl (hsign.isSign hc))
          · exact (hbody.cases_of_mem hc).symm.imp (isDigit_iff_exists c).mpr .inr

theorem Unsigned.exists_plain (h : Unsigned t d) (hwhole : IsWhole t) :
    ∃ ds, Plain t ds ∧ t ≠ [] ∧ d.value = positional 10 ds := by
  cases h with
  | written hmantissa htail =>
      cases htail with
      | @written c sign digits _ _ hletter =>
          obtain ⟨-, hsmall, hlarge⟩ := hwhole c (by simp)
          exact (hletter.elim hsmall hlarge).elim
      | absent =>
          cases hmantissa with
          | pointed => exact absurd rfl (hwhole '.' (by simp)).1
          | whole hdigits hne =>
              rw [List.append_nil]
              exact ⟨_, hdigits, hne, by simp [Decimal.value]⟩

/-- A decimal literal without point and exponent is an integer literal of the same number. -/
theorem DecimalLiteral.exists_denotes (h : DecimalLiteral t negative d) (hwhole : IsWhole t) :
    ∃ i : Int, Denotes t i ∧ (i : ℚ) = signed negative d.value := by
  cases h with
  | @written sign body _ _ hsign hbody hseparates =>
      obtain ⟨ds, hplain, hne, hvalue⟩ := hbody.exists_plain fun c hc =>
        hwhole c (List.mem_append_right _ (List.mem_of_mem_filter hc))
      have hdigits : Digits 10 body ds := by
        refine (digits_iff (by decide)).mpr ⟨?_, (hseparates.of_append hsign).not_hasStray, hplain⟩
        rintro rfl
        exact hne rfl
      have hdenotes := Denotes.written hsign .absent hdigits
      rw [List.append_nil] at hdenotes
      exact ⟨_, hdenotes, by rw [hvalue, signed_natCast]⟩

theorem decimalLiteral_of_decimal? (h : decimal? t = some (negative, d))
    (hsign : ¬ SignedTwice t) (hnone : '_' ∉ t) : DecimalLiteral t negative d :=
  decimalLiteral_iff.mpr ⟨decimal?_eq_some_iff.mp h, hsign, separatesDigits_of_notMem hnone⟩

theorem DecimalLiteral.readable (h : DecimalLiteral t negative d) : ReadableDecimal t negative d :=
  (decimalLiteral_iff.mp h).1

end Wholeness

end Literal

/-! ## Decimals read as integers -/

namespace ValueType

section Narrowing

variable {t : Text} {negative : Bool} {d : Decimal} {n : Int64}

theorem nearestFloat_of_float? {x : Float} (h : DecimalLiteral t negative d)
    (hx : float? t = some x) : NearestFloat (signed negative d.value) x := by
  obtain ⟨hfinite, d', hd', hnearest⟩ := float?_eq_some_iff.mp hx
  have hsame := (decimal?_eq_some_iff.mpr hd').symm.trans (decimal?_eq_some_iff.mpr h.readable)
  obtain ⟨hsign, rfl⟩ := Prod.mk.inj (Option.some.inj hsame)
  rw [← hsign]
  exact hnearest.nearestFloat hfinite d'.value_nonneg

/-- A decimal literal with the number of a float stands for that float, up to the sign of zero. -/
theorem exists_float?_eq {x : Float} (h : DecimalLiteral t negative d) (hx : isFinite x = true)
    (hvalue : toRat x = signed negative d.value) : ∃ y, float? t = some y ∧ toRat y = toRat x := by
  have hpattern : d.value = value (pattern x) := by
    rw [← abs_toRat, hvalue, abs_signed negative d.value_nonneg]
  have hb : pattern x < infinityPattern := of_decide_eq_true hx
  refine ⟨_, float?_eq_ofPattern h.readable hb (hpattern ▸ nearest_value _), ?_⟩
  rw [toRat_ofPattern, ← hpattern, hvalue]

theorem read_integer_fractional {x : Float} (h : DecimalLiteral t negative d)
    (hx : isFinite x = true) (hvalue : toRat x = signed negative d.value)
    (hfraction : ∀ i : Int, toRat x ≠ i) :
    ValueType.integer.read t = .error (.misread t "int" Misreading.fractional.reason) := by
  have hliteral : integerLiteral? t = none := by
    rw [integerLiteral?_eq_none_iff]
    intro i hi
    have hwhole := hi.isWhole fun c hc => h.readable.isDecimalChar hc
    obtain ⟨j, -, hj⟩ := h.exists_denotes hwhole
    exact hfraction j (hvalue.trans hj.symm)
  obtain ⟨y, hy, hyvalue⟩ := exists_float?_eq h hx hvalue
  have hnone : (wholePart? y).bind int64? = none := by
    rw [Option.eq_none_iff_forall_ne_some]
    intro n hn
    rw [wholePart?_bind_int64?_eq_some_iff (isFinite_of_float? hy), hyvalue] at hn
    exact hfraction _ hn
  obtain ⟨c, hc, hdigit⟩ := h.readable.exists_digit
  simp only [ValueType.read, h.readable.trim_eq, readTrimmed, Value.isNullWord_of_digit hc hdigit,
    readInteger, hliteral, hy, hnone]
  rfl

theorem read_integer_decimal_cases (h : DecimalLiteral t negative d)
    (hn : ValueType.integer.read t = .ok (.integer n)) :
    IsWhole t ∧ (n.toInt : ℚ) = signed negative d.value ∨
      ¬ IsWhole t ∧ ∃ x, NearestFloat (signed negative d.value) x ∧ toRat x = n.toInt := by
  have hread := read_integer_iff.mp hn
  rw [h.readable.trim_eq] at hread
  rcases hread with hread | ⟨hnone, x, hx, hvalue⟩
  · have hdenotes := integerLiteral?_eq_ok_iff.mp hread
    have hwhole := hdenotes.isWhole fun c hc => h.readable.isDecimalChar hc
    obtain ⟨i, hi, hvalue⟩ := h.exists_denotes hwhole
    exact .inl ⟨hwhole, by rw [← hvalue, hdenotes.unique hi]⟩
  · refine .inr ⟨fun hwhole => ?_, x, nearestFloat_of_float? h hx, hvalue⟩
    obtain ⟨i, hi, -⟩ := h.exists_denotes hwhole
    exact integerLiteral?_eq_none_iff.mp hnone i hi

theorem read_integer_of_toRat {x : Float} (h : DecimalLiteral t negative d)
    (hn : ValueType.integer.read t = .ok (.integer n)) (hx : isFinite x = true)
    (hvalue : toRat x = signed negative d.value) : (n.toInt : ℚ) = toRat x := by
  rcases read_integer_decimal_cases h hn with ⟨-, hn⟩ | ⟨-, y, hy, hn⟩
  · exact hn.trans hvalue.symm
  · rw [← hn, hvalue, hy.toRat_eq hx hvalue]

/-- A decimal literal without point and exponent is read as its number.  Any other one is read as
the number of the nearest float, which is the number of the literal if a float stands for that.  If
that is no integer, the literal is not read as one. -/
theorem read_integer_decimal (h : DecimalLiteral t negative d) :
    (∀ n, ValueType.integer.read t = .ok (.integer n) →
      (IsWhole t → (n.toInt : ℚ) = signed negative d.value) ∧
      (¬ IsWhole t → ∃ x, NearestFloat (signed negative d.value) x ∧ toRat x = n.toInt) ∧
      (∀ x, isFinite x = true → toRat x = signed negative d.value → n.toInt = toRat x) ∧
      ∀ i : Int, i.natAbs ≤ 2 ^ 53 → signed negative d.value = i → n.toInt = i) ∧
    ∀ x, isFinite x = true → toRat x = signed negative d.value → (∀ i : Int, toRat x ≠ i) →
      ValueType.integer.read t = .error (.misread t "int" Misreading.fractional.reason) := by
  refine ⟨fun n hn => ⟨fun hwhole => ?_, fun hwhole => ?_, ?_, fun i hi hvalue => ?_⟩, ?_⟩
  · exact (read_integer_decimal_cases h hn).elim And.right fun hread => absurd hwhole hread.1
  · exact (read_integer_decimal_cases h hn).elim (fun hread => absurd hread.1 hwhole) And.right
  · exact fun x hx hvalue => read_integer_of_toRat h hn hx hvalue
  · obtain ⟨x, hx, hxvalue⟩ := exists_toRat_eq hi
    exact_mod_cast (read_integer_of_toRat h hn hx (hxvalue.trans hvalue.symm)).trans hxvalue
  · exact fun x hx hvalue hfraction => read_integer_fractional h hx hvalue hfraction

theorem read_integer_decimal_exponent :
    ValueType.integer.read "-1.5e1" = .ok (.integer (-15)) ∧
      ((-15 : Int64).toInt : ℚ) = signed true (Decimal.value ⟨15, 0⟩) := by
  have hliteral : DecimalLiteral "-1.5e1" true ⟨15, 0⟩ :=
    decimalLiteral_of_decimal? (by decide) (by decide) (by decide)
  have hread : ValueType.integer.read "-1.5e1" = .ok (.integer (-15)) :=
    read_eq_ok_iff.mpr (by decide +kernel)
  have hvalue : signed true (Decimal.value ⟨15, 0⟩) = (-15 : Int) := by
    norm_num [signed, Decimal.value]
  obtain ⟨-, -, -, hsmall⟩ := (read_integer_decimal hliteral).1 _ hread
  exact ⟨hread, by rw [hvalue, hsmall (-15) (by decide) hvalue]⟩

/-- A number below one, and the least whole number that no double stands for. -/
theorem read_integer_decimal_rounded :
    DecimalLiteral "0.99999999999999999999" false ⟨99999999999999999999, -20⟩ ∧
      ValueType.integer.read "0.99999999999999999999" = .ok (.integer 1) ∧
      Decimal.value ⟨99999999999999999999, -20⟩ < 1 ∧
    DecimalLiteral "9007199254740993.0" false ⟨90071992547409930, -1⟩ ∧
      ValueType.integer.read "9007199254740993.0" = .ok (.integer 9007199254740992) ∧
      Decimal.value ⟨90071992547409930, -1⟩ = 9007199254740993 := by
  refine ⟨decimalLiteral_of_decimal? (by decide) (by decide) (by decide),
    read_eq_ok_iff.mpr (by decide +kernel), ?_,
    decimalLiteral_of_decimal? (by decide) (by decide) (by decide),
    read_eq_ok_iff.mpr (by decide +kernel), ?_⟩
  · norm_num [Decimal.value]
  · norm_num [Decimal.value]

end Narrowing

/-! ## Whole numbers read as floats -/

section PointZero

variable {t sign digits : Text} {negative : Bool} {d : Decimal} {ds : List Nat} {i : Int}

theorem read_float_of_inRange (h : Denotes t i) (htrim : t.trim = t) (hi : InRange i) :
    ∃ x, ValueType.float.read t = .ok (.float x) ∧ NearestFloat i x := by
  obtain ⟨n, rfl⟩ := exists_toInt_eq_iff.mpr hi
  refine ⟨ofInt64 n, read_float_iff.mpr (.inl ⟨n, ?_, rfl⟩), nearestFloat_ofInt64 n⟩
  rwa [htrim, integerLiteral?_eq_ok_iff]

/-- An integer literal that 64 bits do not hold is not taken for a decimal instead. -/
theorem read_float_of_not_inRange (h : Denotes t i) (htrim : t.trim = t) (hi : ¬ InRange i) :
    ValueType.float.read t = .error (.misread t "float" Misreading.outOfRange.reason) := by
  have hliteral : integerLiteral? t = some (.error .outOfRange) := by
    rw [integerLiteral?, integer?_eq_some_iff.mpr h, Option.map_some, int128?_bind_int64?,
      int64?_eq_none_iff.mpr hi]
  obtain ⟨c, hc, hdigit⟩ := h.exists_digit
  simp only [ValueType.read, htrim, readTrimmed, Value.isNullWord_of_digit hc hdigit, readFloat,
    hliteral]
  rfl

theorem read_float_of_not_isWhole (h : DecimalLiteral t negative d) (hwhole : ¬ IsWhole t)
    (hfinite : d.value ≤ value (infinityPattern - 1)) :
    ∃ x, ValueType.float.read t = .ok (.float x) ∧ NearestFloat (signed negative d.value) x := by
  obtain ⟨b, hnearest⟩ := d.exists_nearest
  have hb : b < infinityPattern := by
    have hle := hnearest.le_of_le_value hfinite
    have hpos : 0 < infinityPattern := by decide
    omega
  have hx := float?_eq_ofPattern h.readable hb hnearest
  refine ⟨_, read_float_iff.mpr (.inr ?_), nearestFloat_of_float? h hx⟩
  rw [h.readable.trim_eq, integerLiteral?_eq_none_iff]
  exact ⟨fun i hi => hwhole (hi.isWhole fun c hc => h.readable.isDecimalChar hc), hx⟩

theorem positional_append_zero (ds : List Nat) :
    positional 10 (ds ++ [0]) = 10 * positional 10 ds := by
  simp [positional, Nat.ofDigits_cons]

theorem decimalLiteral_of_plain (hsign : Sign sign negative) (hdigits : Plain digits ds)
    (hne : digits ≠ []) : DecimalLiteral (sign ++ digits) negative ⟨positional 10 ds, 0⟩ := by
  have hbody : Unsigned (digits ++ []) _ := .written (.whole hdigits hne) .absent
  rw [List.append_nil] at hbody
  exact decimalLiteral_of_unsigned hsign hbody

theorem decimalLiteral_pointZero (hsign : Sign sign negative) (hdigits : Plain digits ds) :
    DecimalLiteral (sign ++ digits ++ ".0") negative ⟨10 * positional 10 ds, -1⟩ := by
  have hzero : Plain ['0'] [0] := .cons ⟨by decide, by decide⟩ .nil
  have hbody : Unsigned (digits ++ '.' :: ['0'] ++ []) _ :=
    .written (.pointed hdigits hzero (by simp)) .absent
  rw [List.append_nil, positional_append_zero] at hbody
  rw [List.append_assoc]
  exact decimalLiteral_of_unsigned hsign hbody

/-- A whole number with a point behind is read as the nearest float.  Without the point it is read
as the same float if 64 bits hold it, sign included, and is not read at all otherwise. -/
theorem read_float_pointZero (hsign : Sign sign negative) (hdigits : Plain digits ds)
    (hne : digits ≠ []) (hfinite : (positional 10 ds : ℚ) ≤ value (infinityPattern - 1)) :
    ∃ i y, Denotes (sign ++ digits) i ∧ NearestFloat i y ∧
      ValueType.float.read (sign ++ digits ++ ".0") = .ok (.float y) ∧
      (InRange i → ∃ x, ValueType.float.read (sign ++ digits) = .ok (.float x) ∧
        (Value.float x).sameAs (.float y) = true) ∧
      (¬ InRange i → ValueType.float.read (sign ++ digits) =
        .error (.misread (sign ++ digits) "float" Misreading.outOfRange.reason)) := by
  have hliteral := decimalLiteral_of_plain hsign hdigits hne
  have hpointed := decimalLiteral_pointZero hsign hdigits
  have htrim := hliteral.readable.trim_eq
  have hvalue : Decimal.value ⟨positional 10 ds, 0⟩ = positional 10 ds := by
    rw [Decimal.value, zpow_zero, mul_one]
  have hvalue' : Decimal.value ⟨10 * positional 10 ds, -1⟩ = positional 10 ds := by
    rw [Decimal.value, zpow_neg_one, Nat.cast_mul, Nat.cast_ofNat, mul_comm,
      inv_mul_cancel_left₀ (by norm_num)]
  have hwhole : IsWhole (sign ++ digits) := isWhole_of_forall fun c hc =>
    (List.mem_append.mp hc).symm.imp (hdigits.allDigits c) fun hc => .inl (hsign.isSign hc)
  have hnotWhole : ¬ IsWhole (sign ++ digits ++ ".0") := fun h => (h '.' (by simp)).1 rfl
  obtain ⟨i, hi, hnumber⟩ := hliteral.exists_denotes hwhole
  obtain ⟨y, hy, hynearest⟩ :=
    read_float_of_not_isWhole hpointed hnotWhole (hvalue'.trans_le hfinite)
  rw [hvalue', ← hvalue, ← hnumber] at hynearest
  refine ⟨i, y, hi, hynearest, hy, fun hrange => ?_, read_float_of_not_inRange hi htrim⟩
  obtain ⟨x, hx, hxnearest⟩ := read_float_of_inRange hi htrim hrange
  exact ⟨x, hx, (beq_iff hxnearest.isFinite hynearest.isFinite).mpr
    (hxnearest.toRat_unique hynearest)⟩

theorem read_float_pointZero_twelve :
    ∃ x y, ValueType.float.read "-12" = .ok (.float x) ∧
      ValueType.float.read "-12.0" = .ok (.float y) ∧
      (Value.float x).sameAs (.float y) = true := by
  have hdigits : Plain "12" [1, 2] :=
    .cons ⟨by decide, by decide⟩ (.cons ⟨by decide, by decide⟩ .nil)
  have hfinite : (positional 10 [1, 2] : ℚ) ≤ value (infinityPattern - 1) := by
    obtain ⟨b, hb, hvalue⟩ := exists_value_eq_natCast (n := positional 10 [1, 2]) (by decide)
    rw [← hvalue]
    exact value_strictMono.monotone (Nat.le_sub_one_of_lt hb)
  obtain ⟨i, y, hi, -, hy, hsame, -⟩ :=
    read_float_pointZero .minus hdigits (by decide) hfinite
  have htwelve : i = -12 := hi.unique (integer?_eq_some_iff.mp (by decide))
  have hrange : InRange i := htwelve ▸ ⟨by decide, by decide⟩
  obtain ⟨x, hx, hxy⟩ := hsame hrange
  exact ⟨x, y, hx, hy, hxy⟩

/-- The least whole number past the range of integers. -/
theorem read_float_pointZero_outOfRange :
    ValueType.float.read "9223372036854775808" =
        .error (.misread "9223372036854775808" "float" Misreading.outOfRange.reason) ∧
      ∃ y, ValueType.float.read "9223372036854775808.0" = .ok (.float y) ∧
        toRat y = 9223372036854775808 := by
  refine ⟨rfl, ofPattern false (0x43E * 2 ^ 52) (by decide),
    read_eq_ok_iff.mpr (by decide +kernel), ?_⟩
  rw [toRat_ofPattern, signed, value]
  norm_num [significand, exponent]

end PointZero

end ValueType

end IniSchema
