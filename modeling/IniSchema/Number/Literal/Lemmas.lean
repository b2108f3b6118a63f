import IniSchema.Number.Literal

/-!
# Literals of written integers

The digits that `Text.ofInt` writes are a literal, and its value is the integer, see
`integer?_ofInt`. On the way: a text of digits has no sign, no radix mark and no underscore.
-/

namespace IniSchema.Literal

/-! ## Digits -/

theorem digitsFrom?_append (radix n : Nat) (a b : Text) :
    digitsFrom? radix n (a ++ b) = (digitsFrom? radix n a).bind fun m => digitsFrom? radix m b := by
  induction a generalizing n with
  | nil => rfl
  | cons c cs ih =>
      simp only [List.cons_append, digitsFrom?]
      cases digitValue? radix c with
      | none => rfl
      | some d => exact ih _

theorem digitValue?_digitChar {d : Nat} (h : d < 10) :
    digitValue? 10 (Nat.digitChar d) = some d := by
  have : ∀ d : Fin 10, digitValue? 10 (Nat.digitChar d.val) = some d.val := by decide
  exact this ⟨d, h⟩

theorem digitsFrom?_ofNat (n : Nat) : digitsFrom? 10 0 (Text.ofNat n) = some n := by
  induction n using Nat.strongRecOn with
  | ind n ih =>
      by_cases h : n < 10
      · simp [Text.ofNat, Nat.toDigits_of_lt_base h, digitsFrom?, digitValue?_digitChar h]
      · rw [Text.ofNat, Nat.toDigits_of_base_le (by omega) (by omega), digitsFrom?_append]
        have := ih (n / 10) (by omega)
        rw [Text.ofNat] at this
        rw [this]
        simp [digitsFrom?, digitValue?_digitChar (Nat.mod_lt n (by omega : 0 < 10))]
        omega

theorem digits?_ofNat (n : Nat) : digits? 10 (Text.ofNat n) = some n := by
  have hne : (Text.ofNat n).isEmpty = false := by
    rw [List.isEmpty_eq_false_iff]
    exact Nat.toDigits_ne_nil
  rw [digits?, hne]
  exact digitsFrom?_ofNat n

theorem isDigit_of_mem_ofNat {n : Nat} {c : Char} (h : c ∈ Text.ofNat n) : c.isDigit = true :=
  Nat.isDigit_of_mem_toDigits (by omega) (by omega) h

/-! ## Texts of digits -/

theorem toLower_of_isDigit {c : Char} (h : c.isDigit = true) : c.toLower = c := by
  simp only [Char.isDigit, Bool.and_eq_true, decide_eq_true_eq] at h
  unfold Char.toLower
  rw [dif_neg]
  intro hup
  have := UInt32.le_iff_toNat_le.1 hup.1
  have := UInt32.le_iff_toNat_le.1 h.2
  simp at *
  omega

theorem asciiLower_of_digits {t : Text} (h : ∀ c ∈ t, c.isDigit = true) : t.asciiLower = t := by
  induction t with
  | nil => rfl
  | cons c cs ih =>
      simp only [Text.asciiLower, List.map_cons] at ih ⊢
      rw [toLower_of_isDigit (h c (by simp)), ih fun d hd => h d (by simp [hd])]

theorem splitSign_of_digits {t : Text} (h : ∀ c ∈ t, c.isDigit = true) :
    splitSign t = (false, t) := by
  unfold splitSign
  split
  · simpa using h '-' (by simp)
  · simpa using h '+' (by simp)
  · rfl

theorem splitRadix_of_digits {t : Text} (h : ∀ c ∈ t, c.isDigit = true) :
    splitRadix t = (10, t) := by
  unfold splitRadix
  split
  · simpa using h 'x' (by simp)
  · simpa using h 'o' (by simp)
  · simpa using h 'b' (by simp)
  · rfl

theorem hasDoubledUnderscore_of_notMem {t : Text} (h : '_' ∉ t) :
    hasDoubledUnderscore t = false := by
  induction t with
  | nil => rfl
  | cons c cs ih =>
      unfold hasDoubledUnderscore
      split
      · simp_all
      · rename_i heq
        cases heq
        exact ih fun hmem => h (by simp [hmem])
      · rfl

theorem withoutUnderscores?_of_notMem {t : Text} (h : '_' ∉ t) :
    withoutUnderscores? t = some t := by
  have hhead : t.head? ≠ some '_' := fun hh => h (List.mem_of_head? hh)
  have hlast : t.getLast? ≠ some '_' := fun hh => h (List.mem_of_getLast? hh)
  have hfilter : t.filter (· != '_') = t := by
    rw [List.filter_eq_self]
    intro c hc
    simp only [bne_iff_ne]
    rintro rfl
    exact h hc
  simp [withoutUnderscores?, hhead, hlast, hasDoubledUnderscore_of_notMem h, hfilter]

/-! ## Integers -/

theorem integer?_ofInt (i : Int) : integer? (Text.ofInt i) = some i := by
  have hdigit : ∀ n, ∀ c ∈ Text.ofNat n, c.isDigit = true := fun n c => isDigit_of_mem_ofNat
  have hplain : ∀ n, (withoutUnderscores? (Text.ofNat n)).bind (digits? 10) = some n := fun n => by
    rw [withoutUnderscores?_of_notMem fun h => by simpa using hdigit n '_' h]
    exact digits?_ofNat n
  cases i with
  | ofNat n =>
      simp only [integer?, Text.ofInt, splitSign_of_digits (hdigit n),
        asciiLower_of_digits (hdigit n), splitRadix_of_digits (hdigit n), hplain]
      rfl
  | negSucc n =>
      simp only [integer?, Text.ofInt, splitSign, asciiLower_of_digits (hdigit (n + 1)),
        splitRadix_of_digits (hdigit (n + 1)), hplain]
      rfl

end IniSchema.Literal
