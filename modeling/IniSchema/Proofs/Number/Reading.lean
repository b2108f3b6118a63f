import IniSchema.Proofs.Number.Decimal
import IniSchema.Proofs.Number.Rational
import IniSchema.Proofs.Reading

/-!
# Numbers read as values

A literal holds a digit and so is no word.  What is read as an integer or a float is an integer
literal or else a readable decimal, of which the nearest float counts.
-/

namespace IniSchema

open Literal Binary64

/-! ## Literals hold digits -/

theorem Literal.Denotes.exists_digit {t : Text} {i : Int} (h : Denotes t i) :
    ∃ c ∈ t, c.isDigit = true := by
  cases h with
  | @written sign mark body _ _ _ hsign hmark hbody =>
      cases hmark with
      | absent =>
          obtain ⟨c, d, hhead, hdigit⟩ := hbody.exists_head
          exact ⟨c, List.mem_append_right _ (List.mem_of_head? hhead),
            (isDigit_iff_exists c).mpr ⟨d, hdigit⟩⟩
      | marked _ _ => exact ⟨'0', by simp, by decide⟩

/-! ## Floats -/

theorem Binary64.finite?_eq_some_iff {negative : Bool} {b : Nat} {x : Float} :
    finite? negative b = some x ↔
      isFinite x = true ∧ isNegative x = negative ∧ pattern x = b := by
  constructor
  · intro h
    refine ⟨isFinite_of_finite? h, ?_⟩
    unfold finite? at h
    split at h
    · cases h
      exact ⟨isNegative_ofPattern _ _, pattern_ofPattern _ _⟩
    · cases h
  · rintro ⟨hfinite, rfl, rfl⟩
    exact finite?_pattern hfinite

/-- A readable decimal is read as the float with its sign that is nearest to its magnitude. -/
theorem Literal.float?_eq_some_iff {t : Text} {x : Float} : float? t = some x ↔
    isFinite x = true ∧
      ∃ d, ReadableDecimal t (isNegative x) d ∧ Nearest d.value (pattern x) := by
  unfold float?
  rw [Option.bind_eq_some_iff]
  constructor
  · rintro ⟨⟨negative, d⟩, hdecimal, hx⟩
    obtain ⟨hfinite, rfl, hpattern⟩ := finite?_eq_some_iff.mp hx
    exact ⟨hfinite, d, decimal?_eq_some_iff.mp hdecimal,
      (nearestDecimal_eq_iff (of_decide_eq_true hfinite)).mp hpattern.symm⟩
  · rintro ⟨hfinite, d, hdecimal, hnearest⟩
    exact ⟨(isNegative x, d), decimal?_eq_some_iff.mpr hdecimal,
      finite?_eq_some_iff.mpr ⟨hfinite, rfl,
        ((nearestDecimal_eq_iff (of_decide_eq_true hfinite)).mpr hnearest).symm⟩⟩

theorem Literal.float?_eq_ofPattern {t : Text} {negative : Bool} {d : Decimal} {b : Nat}
    (h : ReadableDecimal t negative d) (hb : b < infinityPattern) (hnearest : Nearest d.value b) :
    float? t = some (ofPattern negative b hb) := by
  refine float?_eq_some_iff.mpr ⟨isFinite_ofPattern _ _, d, ?_⟩
  rw [isNegative_ofPattern, pattern_ofPattern]
  exact ⟨h, hnearest⟩

/-! ## Integers in range -/

theorem integerLiteral?_eq_ok_iff {t : Text} {n : Int64} :
    integerLiteral? t = some (.ok n) ↔ Denotes t n.toInt := by
  simp only [integerLiteral?, int128?_bind_int64?, Option.map_eq_some_iff, integer?_eq_some_iff]
  constructor
  · rintro ⟨i, hi, hn⟩
    cases hvalue : int64? i with
    | none =>
        rw [hvalue] at hn
        cases hn
    | some m =>
        rw [hvalue] at hn
        cases hn
        rwa [(int64?_eq_some_iff.mp hvalue).2]
  · intro h
    have hlow := n.le_toInt
    have hhigh := n.toInt_lt
    have hvalue : int64? n.toInt = some n := int64?_eq_some_iff.mpr ⟨⟨hlow, by omega⟩, rfl⟩
    exact ⟨n.toInt, h, by rw [hvalue]⟩

theorem integerLiteral?_eq_none_iff {t : Text} :
    integerLiteral? t = none ↔ ∀ i, ¬ Denotes t i := by
  rw [integerLiteral?, Option.map_eq_none_iff, Option.eq_none_iff_forall_ne_some]
  exact forall_congr' fun i => not_congr integer?_eq_some_iff

theorem exists_toInt_eq_iff {i : Int} : (∃ n : Int64, n.toInt = i) ↔ InRange i := by
  constructor
  · rintro ⟨n, rfl⟩
    have hlow := n.le_toInt
    have hhigh := n.toInt_lt
    exact ⟨by omega, by omega⟩
  · rintro ⟨hlow, hhigh⟩
    exact ⟨Int64.ofInt i, Int64.toInt_ofInt_of_le hlow (by omega)⟩

/-! ## Numbers and words -/

theorem Value.asciiLower_ne_of_digit {t : Text} {c : Char} (hc : c ∈ t) (hdigit : c.isDigit = true)
    (word : Text) (hword : word.any Char.isDigit = false) : t.asciiLower ≠ word := by
  rintro rfl
  refine List.any_eq_false.mp hword c.toLower (List.mem_map_of_mem hc) ?_
  rw [toLower_of_isDigit hdigit, hdigit]

theorem Value.isNullWord_of_digit {t : Text} {c : Char} (hc : c ∈ t) (hdigit : c.isDigit = true) :
    isNullWord t = false := by
  have hnull := asciiLower_ne_of_digit hc hdigit (Text.asciiLower "null") (by decide)
  have hnone := asciiLower_ne_of_digit hc hdigit (Text.asciiLower "none") (by decide)
  rw [isNullWord, Text.equalsIgnoringAsciiCase, Text.equalsIgnoringAsciiCase, beq_false_of_ne hnull,
    beq_false_of_ne hnone, Bool.or_false]

namespace ValueType

theorem readTrimmed_eq_null_iff {type : ValueType} {t : Text} :
    type.readTrimmed t = .ok .null ↔ Value.isNullWord t = true := by
  unfold readTrimmed
  cases hnull : Value.isNullWord t with
  | true => simp
  | false =>
      simp only [Bool.false_eq_true, if_false, iff_false]
      intro h
      cases type with
      | string => cases h
      | integer =>
          obtain ⟨n, hn, -⟩ := readInteger_eq_ok_iff.mp h
          cases hn
      | float =>
          obtain ⟨x, hx, -⟩ := readFloat_eq_ok_iff.mp h
          cases hx
      | boolean =>
          obtain ⟨b, hb⟩ := exists_boolean_of_readBoolean h
          cases hb

theorem exists_digit_of_integerLiteral? {t : Text} {result : Except Misreading Int64}
    (h : integerLiteral? t = some result) : ∃ c ∈ t, c.isDigit = true := by
  obtain ⟨i, hi, -⟩ := Option.map_eq_some_iff.mp h
  exact (integer?_eq_some_iff.mp hi).exists_digit

theorem exists_digit_of_float? {t : Text} {x : Float} (h : float? t = some x) :
    ∃ c ∈ t, c.isDigit = true := by
  obtain ⟨-, d, hd, -⟩ := float?_eq_some_iff.mp h
  exact hd.exists_digit

/-- What is read as an integer: literals, and decimals whose float is an integer. -/
def ReadsInteger (t : Text) (n : Int64) : Prop :=
  integerLiteral? t = some (.ok n) ∨
    integerLiteral? t = none ∧ ∃ x, float? t = some x ∧ toRat x = n.toInt

def ReadsFloat (t : Text) (x : Float) : Prop :=
  (∃ n, integerLiteral? t = some (.ok n) ∧ x = ofInt64 n) ∨
    integerLiteral? t = none ∧ float? t = some x

theorem ReadsFloat.exists_digit {t : Text} {x : Float} (h : ReadsFloat t x) :
    ∃ c ∈ t, c.isDigit = true := by
  rcases h with ⟨n, hn, -⟩ | ⟨-, hx⟩
  · exact exists_digit_of_integerLiteral? hn
  · exact exists_digit_of_float? hx

theorem ReadsInteger.exists_digit {t : Text} {n : Int64} (h : ReadsInteger t n) :
    ∃ c ∈ t, c.isDigit = true := by
  rcases h with hn | ⟨-, x, hx, -⟩
  · exact exists_digit_of_integerLiteral? hn
  · exact exists_digit_of_float? hx

theorem wholePart?_bind_int64?_eq_some_iff {x : Float} (hx : isFinite x = true) {n : Int64} :
    (wholePart? x).bind int64? = some n ↔ toRat x = n.toInt := by
  simp only [Option.bind_eq_some_iff, wholePart?_eq_some_iff, hx, true_and, int64?_eq_some_iff]
  constructor
  · rintro ⟨i, hi, -, rfl⟩
    exact hi
  · intro h
    have hlow := n.le_toInt
    have hhigh := n.toInt_lt
    exact ⟨n.toInt, h, ⟨by omega, by omega⟩, rfl⟩

private theorem readInteger_iff {t : Text} {n : Int64} :
    readInteger t = .ok (.integer n) ↔ ReadsInteger t n := by
  simp only [readInteger_eq_ok_iff, Value.integer.injEq, exists_eq_left']
  refine or_congr_right (and_congr_right fun _ => exists_congr fun x => ?_)
  exact and_congr_right fun hx => wholePart?_bind_int64?_eq_some_iff (isFinite_of_float? hx)

private theorem readFloat_iff {t : Text} {x : Float} :
    readFloat t = .ok (.float x) ↔ ReadsFloat t x := by
  simp only [readFloat_eq_ok_iff, Value.float.injEq, exists_eq_left', ReadsFloat]

theorem read_integer_iff {t : Text} {n : Int64} :
    ValueType.integer.read t = .ok (.integer n) ↔ ReadsInteger t.trim n := by
  rw [read_eq_ok_iff, ← readInteger_iff]
  unfold readTrimmed
  constructor
  · intro h
    split at h
    · cases h
    · exact h
  · intro h
    obtain ⟨c, hc, hdigit⟩ := (readInteger_iff.mp h).exists_digit
    rw [Value.isNullWord_of_digit hc hdigit]
    exact h

theorem read_float_iff {t : Text} {x : Float} :
    ValueType.float.read t = .ok (.float x) ↔ ReadsFloat t.trim x := by
  rw [read_eq_ok_iff, ← readFloat_iff]
  unfold readTrimmed
  constructor
  · intro h
    split at h
    · cases h
    · exact h
  · intro h
    obtain ⟨c, hc, hdigit⟩ := (readFloat_iff.mp h).exists_digit
    rw [Value.isNullWord_of_digit hc hdigit]
    exact h

end ValueType

end IniSchema
