import IniSchema.Number.Binary64

/-!
# The fewest digits that read back

`shortest` writes a positive double as the decimal with the fewest digits that `nearestDecimal`
reads back to the same double, and of those the one closest to it. Digits are counted upwards, and
on each decimal grid only the two neighbours of the number are tried. Should no grid of up to
seventeen digits hold an answer, the exact decimal value is given.
-/

namespace IniSchema

/-- The number `digits * 10 ^ exponent`. -/
structure Decimal where
  digits : Nat
  exponent : Int
  deriving DecidableEq, Repr

/-- Which of two equally close decimals is taken. -/
inductive Tie where
  | even
  | up
  deriving DecidableEq, Repr

namespace Binary64

def readsBack (b : Nat) (d : Decimal) : Bool :=
  nearestDecimal d.digits d.exponent == b

/-- The least `k` such that `num / den < 10 ^ k`, looked for near the estimate from the binary
logarithm. -/
def decimalMagnitude (num den : Nat) : Int :=
  let estimate := Int.fdiv (floorLog2 num den * 30103) 100000
  let below (k : Int) : Bool := num * 10 ^ (-k).toNat < den * 10 ^ k.toNat
  ([estimate, estimate + 1, estimate + 2].find? below).getD (estimate + 2)

/-- Whether the upper of two neighbours on a grid is taken, where `rest / unit` is the way from the
lower one to the number as a part of the grid width. -/
def takesUpper (tie : Tie) (lower rest unit : Nat) : Bool :=
  if 2 * rest < unit then false
  else if unit < 2 * rest then true
  else match tie with
    | .even => lower % 2 == 1
    | .up => true

/-- The neighbour of `num / den` on the grid of `10 ^ e` that reads back to the pattern `b`. -/
def onGrid? (tie : Tie) (b num den : Nat) (e : Int) : Option Decimal :=
  let scaled := num * 10 ^ (-e).toNat
  let unit := den * 10 ^ e.toNat
  let lower : Decimal := ⟨scaled / unit, e⟩
  let upper : Decimal := ⟨scaled / unit + 1, e⟩
  match readsBack b lower, readsBack b upper with
  | true, true => some (if takesUpper tie lower.digits (scaled % unit) unit then upper else lower)
  | true, false => some lower
  | false, true => some upper
  | false, false => none

/-- The value of the pattern as a decimal with all its digits. -/
def exactDecimal (b : Nat) : Decimal :=
  ⟨numerator b * 5 ^ (-exponent b).toNat, min (exponent b) 0⟩

/-- Tries the grids from the power of ten above the number downwards. The first hit has no zero at
its end, since a coarser grid would hold it too. -/
def shortest (tie : Tie) (b : Nat) : Decimal :=
  let num := numerator b
  let den := denominator b
  let k := decimalMagnitude num den
  let found := (List.range 18).findSome? fun (n : Nat) => onGrid? tie b num den (k - n)
  found.getD (exactDecimal b)

/-! ## Reading back -/

theorem readsBack_of_onGrid? {tie : Tie} {b num den : Nat} {e : Int} {d : Decimal}
    (h : onGrid? tie b num den e = some d) : readsBack b d = true := by
  unfold onGrid? at h
  simp only at h
  split at h
  · rename_i hlower hupper
    simp only [Option.some.injEq] at h
    subst h
    split <;> assumption
  · simp_all
  · simp_all
  · cases h

theorem nearestDecimal_exactDecimal {b : Nat} (hb : b ≠ 0) :
    nearestDecimal (exactDecimal b).digits (exactDecimal b).exponent = b := by
  have hsig : significand b ≠ 0 := by
    unfold significand
    split <;> omega
  have hexp : -1074 ≤ exponent b := by
    unfold exponent
    split <;> omega
  have hpow : ∀ m, 10 ^ m = 5 ^ m * 2 ^ m := fun m => by rw [← Nat.mul_pow]
  have hdigits : numerator b * 5 ^ (-exponent b).toNat ≠ 0 :=
    Nat.mul_ne_zero (Nat.mul_ne_zero hsig (Nat.ne_of_gt (Nat.two_pow_pos _)))
      (Nat.ne_of_gt (Nat.pow_pos (by omega)))
  have hup : (min (exponent b) 0).toNat = 0 := by omega
  have hdown : (-min (exponent b) 0).toNat = (-exponent b).toNat := by omega
  have hhigh : ¬ 400 < min (exponent b) 0 := by omega
  simp only [nearestDecimal, exactDecimal, hdigits, hhigh, if_false, hup, hdown]
  split
  · omega
  · rw [Nat.pow_zero, Nat.mul_one, hpow, Nat.mul_comm (numerator b)]
    rw [nearest_mul (Nat.pow_pos (by omega)) _ (Nat.two_pow_pos _)]
    exact nearest_numerator_denominator b

theorem nearestDecimal_shortest (tie : Tie) {b : Nat} (hb : b ≠ 0) :
    nearestDecimal (shortest tie b).digits (shortest tie b).exponent = b := by
  unfold shortest
  simp only
  generalize hfound : List.findSome? _ _ = found
  cases found with
  | none => exact nearestDecimal_exactDecimal hb
  | some d =>
      obtain ⟨n, _, hn⟩ := List.exists_of_findSome?_eq_some hfound
      exact beq_iff_eq.1 (readsBack_of_onGrid? hn)

end Binary64

end IniSchema
