import IniSchema.Number.FloatStyle
import IniSchema.Number.Literal.Lemmas
import IniSchema.Text.Lemmas

/-!
# Numerals with a point or an exponent

Digits around a point, digits with an exponent and digits with both are read as the number that they
write.  No such numeral is an integer literal.
-/

namespace IniSchema.Literal

/-! ## Digits -/

def AllDigits (t : Text) : Prop := ∀ c ∈ t, c.isDigit = true

theorem allDigits_ofNat (n : Nat) : AllDigits (Text.ofNat n) := fun _ => isDigit_of_mem_ofNat

theorem allDigits_zeros (n : Nat) : AllDigits (FloatStyle.zeros n) := by
  intro c hc
  rw [List.eq_of_mem_replicate hc]
  rfl

theorem AllDigits.append {a b : Text} (ha : AllDigits a) (hb : AllDigits b) :
    AllDigits (a ++ b) := by
  intro c hc
  rcases List.mem_append.mp hc with hc | hc
  · exact ha c hc
  · exact hb c hc

theorem AllDigits.take {t : Text} (h : AllDigits t) (n : Nat) : AllDigits (t.take n) :=
  fun c hc => h c (List.mem_of_mem_take hc)

theorem AllDigits.drop {t : Text} (h : AllDigits t) (n : Nat) : AllDigits (t.drop n) :=
  fun c hc => h c (List.mem_of_mem_drop hc)

theorem ofNat_ne_nil (n : Nat) : Text.ofNat n ≠ [] := Nat.toDigits_ne_nil

theorem digitsFrom?_zeros (n k : Nat) :
    digitsFrom? 10 n (FloatStyle.zeros k) = some (n * 10 ^ k) := by
  induction k generalizing n with
  | zero => simp [FloatStyle.zeros, digitsFrom?]
  | succ k ih =>
      have hzero : digitValue? 10 '0' = some 0 := by decide
      have hrest := ih (n * 10)
      unfold FloatStyle.zeros at hrest
      rw [FloatStyle.zeros, List.replicate_succ, digitsFrom?, hzero, Nat.pow_succ]
      simp only [Nat.add_zero]
      rw [hrest, Nat.mul_assoc, Nat.mul_comm 10]

theorem digitsFrom?_eq_none {radix : Nat} {c : Char} (hc : digitValue? radix c = none) {t : Text}
    (hmem : c ∈ t) (n : Nat) : digitsFrom? radix n t = none := by
  induction t generalizing n with
  | nil => cases hmem
  | cons d t ih =>
      rw [digitsFrom?]
      cases hd : digitValue? radix d with
      | none => rfl
      | some value =>
          rcases List.mem_cons.mp hmem with rfl | hmem
          · rw [hc] at hd
            cases hd
          · exact ih hmem _

theorem digitsOrZero_ofNat (n : Nat) : digitsOrZero (Text.ofNat n) = n := by
  rw [digitsOrZero, digits?_ofNat]
  rfl

theorem digitsOrZero_append_zeros (n k : Nat) :
    digitsOrZero (Text.ofNat n ++ FloatStyle.zeros k) = n * 10 ^ k := by
  have hne : (Text.ofNat n ++ FloatStyle.zeros k).isEmpty = false := by
    simp [ofNat_ne_nil]
  rw [digitsOrZero, digits?, hne, digitsFrom?_append, digitsFrom?_ofNat]
  simp [digitsFrom?_zeros]

theorem digitsOrZero_zeros_append (k n : Nat) :
    digitsOrZero (FloatStyle.zeros k ++ Text.ofNat n) = n := by
  have hne : (FloatStyle.zeros k ++ Text.ofNat n).isEmpty = false := by
    simp [ofNat_ne_nil]
  rw [digitsOrZero, digits?, hne, digitsFrom?_append, digitsFrom?_zeros]
  simp [digitsFrom?_ofNat]

/-! ## Reading numerals -/

theorem exponent?_ofInt (i : Int) : exponent? (Text.ofInt i) = some i := by
  cases i with
  | ofNat n =>
      rw [exponent?, Text.ofInt, splitSign_of_digits (allDigits_ofNat n)]
      simp [digits?_ofNat]
  | negSucc n =>
      rw [exponent?, Text.ofInt]
      simp [splitSign, digits?_ofNat, Int.negSucc_eq]

variable {whole fraction : Text}

theorem unsigned?_point (hwhole : AllDigits whole) (hne : whole ≠ [])
    (hfraction : AllDigits fraction) :
    unsigned? (whole ++ '.' :: fraction) =
      some ⟨digitsOrZero (whole ++ fraction), -(fraction.length : Int)⟩ := by
  have hsplit := Text.span_append ('.' :: fraction) hwhole (by simp)
  have hinner := Text.span_append [] hfraction (by simp)
  rw [List.append_nil] at hinner
  simp [unsigned?, hsplit.1, hsplit.2, hinner.1, hinner.2, hne]

theorem unsigned?_point_exponent (hwhole : AllDigits whole) (hne : whole ≠ [])
    (hfraction : AllDigits fraction) (i : Int) :
    unsigned? (whole ++ '.' :: fraction ++ 'e' :: Text.ofInt i) =
      some ⟨digitsOrZero (whole ++ fraction), i - fraction.length⟩ := by
  have hsplit := Text.span_append ('.' :: (fraction ++ 'e' :: Text.ofInt i)) hwhole (by simp)
  have hinner := Text.span_append ('e' :: Text.ofInt i) hfraction (by simp)
  have hlower : 'e'.toLower = 'e' := by decide
  rw [List.append_assoc, List.cons_append]
  simp [unsigned?, hsplit.1, hsplit.2, hinner.1, hinner.2, hne, hlower, exponent?_ofInt]

theorem unsigned?_exponent (hwhole : AllDigits whole) (hne : whole ≠ []) (i : Int) :
    unsigned? (whole ++ 'e' :: Text.ofInt i) = some ⟨digitsOrZero whole, i⟩ := by
  have hsplit := Text.span_append ('e' :: Text.ofInt i) hwhole (by simp)
  have hlower : 'e'.toLower = 'e' := by decide
  simp [unsigned?, hsplit.1, hsplit.2, hne, hlower, exponent?_ofInt]

/-! ## The form of numerals -/

/-- Digits with a point or an exponent. -/
structure Numeral (t : Text) : Prop where
  chars : ∀ c ∈ t, c.isDigit = true ∨ c = '.' ∨ c = 'e' ∨ c = '-'
  head : ∃ c, t.head? = some c ∧ c.isDigit = true
  fractional : '.' ∈ t ∨ 'e' ∈ t

theorem char_of_mem_ofInt {i : Int} {c : Char} (hc : c ∈ Text.ofInt i) :
    c.isDigit = true ∨ c = '-' := by
  cases i with
  | ofNat n => exact .inl (allDigits_ofNat n c hc)
  | negSucc n =>
      rcases List.mem_cons.mp hc with rfl | hc
      · exact .inr rfl
      · exact .inl (allDigits_ofNat (n + 1) c hc)

private theorem head_digits (hwhole : AllDigits whole) (hne : whole ≠ []) (rest : Text) :
    ∃ c, (whole ++ rest).head? = some c ∧ c.isDigit = true := by
  cases whole with
  | nil => contradiction
  | cons c whole => exact ⟨c, rfl, hwhole c List.mem_cons_self⟩

theorem numeral_point (hwhole : AllDigits whole) (hne : whole ≠ [])
    (hfraction : AllDigits fraction) : Numeral (whole ++ '.' :: fraction) where
  chars := by
    intro c hc
    simp only [List.mem_append, List.mem_cons] at hc
    rcases hc with hc | rfl | hc
    · exact .inl (hwhole c hc)
    · exact .inr (.inl rfl)
    · exact .inl (hfraction c hc)
  head := head_digits hwhole hne _
  fractional := .inl (by simp)

theorem numeral_exponent {t : Text} (ht : ∀ c ∈ t, c.isDigit = true ∨ c = '.')
    (hhead : ∃ c, t.head? = some c ∧ c.isDigit = true) (i : Int) :
    Numeral (t ++ 'e' :: Text.ofInt i) where
  chars := by
    intro c hc
    simp only [List.mem_append, List.mem_cons] at hc
    rcases hc with hc | rfl | hc
    · rcases ht c hc with hdigit | rfl
      · exact .inl hdigit
      · exact .inr (.inl rfl)
    · exact .inr (.inr (.inl rfl))
    · rcases char_of_mem_ofInt hc with hdigit | rfl
      · exact .inl hdigit
      · exact .inr (.inr (.inr rfl))
  head := by
    obtain ⟨c, hc, hdigit⟩ := hhead
    exact ⟨c, by simp [hc], hdigit⟩
  fractional := .inr (by simp)

namespace Numeral

variable {t : Text}

theorem ne_nil (h : Numeral t) : t ≠ [] := by
  rintro rfl
  obtain ⟨c, hc, -⟩ := h.head
  cases hc

theorem notMem (h : Numeral t) {c : Char} (hdigit : c.isDigit = false)
    (hc : c ≠ '.' ∧ c ≠ 'e' ∧ c ≠ '-') : c ∉ t := by
  intro hmem
  rcases h.chars c hmem with hd | hd | hd | hd
  · simp [hd] at hdigit
  · exact hc.1 hd
  · exact hc.2.1 hd
  · exact hc.2.2 hd

theorem splitSign_eq (h : Numeral t) : splitSign t = (false, t) := by
  obtain ⟨c, hc, hdigit⟩ := h.head
  unfold splitSign
  split
  · cases hc
    simp at hdigit
  · cases hc
    simp at hdigit
  · rfl

theorem asciiLower_eq (h : Numeral t) : t.asciiLower = t := by
  have hsame : t.map Char.toLower = t.map id := by
    apply List.map_congr_left
    intro c hc
    rcases h.chars c hc with hd | rfl | rfl | rfl
    · exact toLower_of_isDigit hd
    · decide
    · decide
    · decide
  rw [Text.asciiLower, hsame, List.map_id]

theorem splitRadix_eq (h : Numeral t) : splitRadix t = (10, t) := by
  unfold splitRadix
  split
  · exact absurd (by simp) (h.notMem (by decide) (by decide) : 'x' ∉ _)
  · exact absurd (by simp) (h.notMem (by decide) (by decide) : 'o' ∉ _)
  · exact absurd (by simp) (h.notMem (by decide) (by decide) : 'b' ∉ _)
  · rfl

theorem withoutUnderscores?_eq (h : Numeral t) : withoutUnderscores? t = some t :=
  withoutUnderscores?_of_notMem (h.notMem (by decide) (by decide))

theorem digits?_eq_none (h : Numeral t) : digits? 10 t = none := by
  unfold digits?
  split
  · rfl
  · rcases h.fractional with hmem | hmem
    · exact digitsFrom?_eq_none (by decide) hmem 0
    · exact digitsFrom?_eq_none (by decide) hmem 0

theorem integer?_eq_none (h : Numeral t) (negative : Bool) :
    integer? (if negative then '-' :: t else t) = none := by
  have hnone : (withoutUnderscores? t).bind (digits? 10) = none := by
    rw [h.withoutUnderscores?_eq]
    exact h.digits?_eq_none
  cases negative with
  | true => simp [integer?, splitSign, h.asciiLower_eq, h.splitRadix_eq, hnone]
  | false => simp [integer?, h.splitSign_eq, h.asciiLower_eq, h.splitRadix_eq, hnone]

theorem decimal?_eq (h : Numeral t) (negative : Bool) :
    decimal? (if negative then '-' :: t else t) =
      (unsigned? t).map fun d => (negative, d) := by
  have hany : t.any Char.isDigit = true := by
    obtain ⟨c, hc, hdigit⟩ := h.head
    exact List.any_eq_true.mpr ⟨c, List.mem_of_head? hc, hdigit⟩
  have hall : t.all isDecimalChar = true := by
    rw [List.all_eq_true]
    intro c hc
    rcases h.chars c hc with hd | rfl | rfl | rfl
    · simp [isDecimalChar, hd]
    · decide
    · decide
    · decide
  have hminus : splitSign ('-' :: t) = (true, t) := rfl
  cases negative with
  | true => simp [decimal?, hminus, hany, hall, h.withoutUnderscores?_eq, h.splitSign_eq]
  | false => simp [decimal?, hany, hall, h.withoutUnderscores?_eq, h.splitSign_eq]

end Numeral

end IniSchema.Literal
