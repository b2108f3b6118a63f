import IniSchema.Proofs.Number.Reading

/-!
# Which texts are read as numbers

A text is read as a number if it is an integer literal in range, or no integer literal but a
readable decimal whose nearest double is finite.  A readable decimal is a numeric literal unless a
second sign follows the first or an underscore is not between two digits.
-/

namespace IniSchema

open Literal Binary64

/-- An integer literal or a decimal one. -/
inductive Literal.NumericLiteral (t : Text) : Prop
  | integer {i : Int} (h : Denotes t i)
  | decimal {negative : Bool} {d : Decimal} (h : DecimalLiteral t negative d)

namespace ValueType

/-- The text is read as a number, be it for an integer or for a float. -/
def ReadsNumber (t : Text) : Prop :=
  (∃ n, ValueType.integer.read t = .ok (.integer n)) ∨
    ∃ x, ValueType.float.read t = .ok (.float x)

theorem readsNumber_iff_exists_readsFloat {t : Text} :
    ReadsNumber t ↔ ∃ x, ReadsFloat t.trim x := by
  simp only [ReadsNumber, read_integer_iff, read_float_iff]
  constructor
  · rintro (⟨n, hn | ⟨hnone, x, hx, -⟩⟩ | hfloat)
    · exact ⟨ofInt64 n, .inl ⟨n, hn, rfl⟩⟩
    · exact ⟨x, .inr ⟨hnone, hx⟩⟩
    · exact hfloat
  · exact .inr

private theorem exists_float?_iff {t : Text} : (∃ x, float? t = some x) ↔
    ∃ negative d, ReadableDecimal t negative d ∧ ∃ b < infinityPattern, Nearest d.value b := by
  constructor
  · rintro ⟨x, hx⟩
    obtain ⟨hfinite, d, hd, hnearest⟩ := float?_eq_some_iff.mp hx
    exact ⟨_, d, hd, pattern x, of_decide_eq_true hfinite, hnearest⟩
  · rintro ⟨negative, d, hd, b, hb, hnearest⟩
    exact ⟨_, float?_eq_ofPattern hd hb hnearest⟩

/-- Exactly the integer literals in range and the readable decimals with a finite nearest double are
read as numbers.  Those that are no numeric literals have a second sign or an underscore in another
place than between two digits. -/
theorem readsNumber_iff (t : Text) :
    (ReadsNumber t ↔ (∃ i, Denotes t.trim i ∧ InRange i) ∨ (∀ i, ¬ Denotes t.trim i) ∧
      ∃ negative d, ReadableDecimal t.trim negative d ∧
        ∃ b < infinityPattern, Nearest d.value b) ∧
    (ReadsNumber t → (NumericLiteral t.trim ↔
      (∃ i, Denotes t.trim i) ∨ ¬ SignedTwice t.trim ∧ SeparatesDigits t.trim)) := by
  have hinteger : (∃ x n, integerLiteral? t.trim = some (.ok n) ∧ x = ofInt64 n) ↔
      ∃ i, Denotes t.trim i ∧ InRange i := by
    simp only [integerLiteral?_eq_ok_iff, ← exists_toInt_eq_iff]
    constructor
    · rintro ⟨-, n, hn, rfl⟩
      exact ⟨n.toInt, hn, n, rfl⟩
    · rintro ⟨-, hn, n, rfl⟩
      exact ⟨ofInt64 n, n, hn, rfl⟩
  have hnumber : ReadsNumber t ↔ (∃ i, Denotes t.trim i ∧ InRange i) ∨
      (∀ i, ¬ Denotes t.trim i) ∧ ∃ negative d, ReadableDecimal t.trim negative d ∧
        ∃ b < infinityPattern, Nearest d.value b := by
    rw [readsNumber_iff_exists_readsFloat, ← hinteger, ← exists_float?_iff,
      ← integerLiteral?_eq_none_iff, ← exists_and_left, ← exists_or]
    rfl
  refine ⟨hnumber, fun h => ?_⟩
  rcases hnumber.mp h with ⟨i, hi, -⟩ | ⟨hnone, negative, d, hd, -⟩
  · exact iff_of_true (.integer hi) (.inl ⟨i, hi⟩)
  · constructor
    · rintro (hi | hdecimal)
      · exact absurd hi (hnone _)
      · exact .inr (decimalLiteral_iff.mp hdecimal).2
    · rintro (⟨i, hi⟩ | hplaced)
      · exact absurd hi (hnone i)
      · exact .decimal (decimalLiteral_iff.mpr ⟨hd, hplaced⟩)

theorem readsNumber_iff_fifteen : ReadsNumber " +1.5E+1" ∧ NumericLiteral "+1.5E+1" := by
  have hnumber : ReadsNumber " +1.5E+1" :=
    .inl ⟨15, read_eq_ok_iff.mpr (by decide +kernel)⟩
  have htrim : Text.trim " +1.5E+1" = "+1.5E+1" := by decide
  have hliteral := ((readsNumber_iff " +1.5E+1").2 hnumber).mpr
  rw [htrim] at hliteral
  exact ⟨hnumber, hliteral (.inr ⟨by decide, separatesDigits_of_notMem (by decide)⟩)⟩

private theorem not_numericLiteral {t : Text} (hinteger : integer? t = none)
    (hdecimal : SignedTwice t ∨ ¬ SeparatesDigits t) : ¬ NumericLiteral t := by
  rintro (hi | hd)
  · rw [integer?_eq_some_iff.mpr hi] at hinteger
    cases hinteger
  · obtain ⟨-, htwice, hseparates⟩ := decimalLiteral_iff.mp hd
    exact hdecimal.elim htwice fun h => h hseparates

/-- A second sign, and an underscore next to the point. -/
theorem readsNumber_not_literal :
    ValueType.integer.read "+-1" = .ok (.integer (-1)) ∧ ¬ NumericLiteral "+-1" ∧
      ValueType.integer.read "1_.0" = .ok (.integer 1) ∧ ¬ NumericLiteral "1_.0" := by
  refine ⟨read_eq_ok_iff.mpr (by decide +kernel), not_numericLiteral (by decide) (.inl (by decide)),
    read_eq_ok_iff.mpr (by decide +kernel), not_numericLiteral (by decide) (.inr ?_)⟩
  intro h
  obtain ⟨-, c, hc, hdigit⟩ := h ['1'] ['.', '0'] rfl
  cases hc
  cases hdigit

end ValueType

end IniSchema
