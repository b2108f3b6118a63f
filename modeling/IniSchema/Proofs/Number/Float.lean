import IniSchema.Proofs.Number.Unsigned

/-!
# Floats read back

The text of a finite float is a numeral that is read as the decimal it was laid out from, moved by a
power of ten at most.  The decimal is one that the float is nearest to, so the float comes back.
-/

namespace IniSchema

open Literal

/-! ## Decimals -/

namespace Binary64

theorem nearestDecimal_zero_behind {n e : Nat} (he : e ≤ 400) :
    nearestDecimal (n * 10 ^ (e + 1)) (-1) = nearestDecimal n e := by
  by_cases hn : n = 0
  · simp [nearestDecimal, hn]
  · have hne : n * 10 ^ (e + 1) ≠ 0 := Nat.mul_ne_zero hn (Nat.ne_of_gt (Nat.pow_pos (by omega)))
    have hlow : ¬ (-1 : Int) < -(1100 + (n * 10 ^ (e + 1)).log2 : Nat) := by omega
    have hlow' : ¬ (e : Int) < -(1100 + n.log2 : Nat) := by omega
    have hhigh : ¬ (400 : Int) < (e : Int) := by omega
    have hscale : n * 10 ^ (e + 1) = 10 * (n * 10 ^ e) := by
      rw [Nat.pow_succ, ← Nat.mul_assoc, Nat.mul_comm]
    simp only [nearestDecimal, hn, hne, hlow, hlow', hhigh, if_false]
    rw [hscale]
    have hten := nearest_mul (by omega : 0 < 10) (n * 10 ^ e) (by omega : 0 < 1)
    simpa using hten

end Binary64

namespace FloatStyle

/-! ## Layouts -/

/-- The text is a numeral, read as a decimal with the same nearest double as `n * 10 ^ e`. -/
def Writes (t : Text) (n : Nat) (e : Int) : Prop :=
  Numeral t ∧ ∃ d, unsigned? t = some d ∧
    Binary64.nearestDecimal d.digits d.exponent = Binary64.nearestDecimal n e

private theorem writes_point {whole fraction : Text} (hwhole : AllDigits whole) (hne : whole ≠ [])
    (hfraction : AllDigits fraction) {n : Nat} {e : Int}
    (hsame : Binary64.nearestDecimal (digitsOrZero (whole ++ fraction)) (-(fraction.length : Int)) =
      Binary64.nearestDecimal n e) : Writes (whole ++ '.' :: fraction) n e :=
  ⟨numeral_point hwhole hne hfraction, _, unsigned?_point hwhole hne hfraction, hsame⟩

theorem zeros_append (j k : Nat) : zeros j ++ zeros k = zeros (j + k) :=
  List.replicate_append_replicate

private theorem writes_whole (n k : Nat) (hk : k ≤ 400) :
    Writes (Text.ofNat n ++ zeros k ++ '.' :: zeros 1) n k := by
  apply writes_point ((allDigits_ofNat n).append (allDigits_zeros k)) (by simp [ofNat_ne_nil])
    (allDigits_zeros 1)
  rw [List.append_assoc, zeros_append, digitsOrZero_append_zeros]
  exact Binary64.nearestDecimal_zero_behind hk

private theorem writes_inside (n : Nat) {e : Int} (he : e < 0)
    (hinside : 0 < (Text.ofNat n).length + e) :
    Writes ((Text.ofNat n).take ((Text.ofNat n).length + e).toNat ++
      '.' :: (Text.ofNat n).drop ((Text.ofNat n).length + e).toNat) n e := by
  apply writes_point ((allDigits_ofNat n).take _) _ ((allDigits_ofNat n).drop _)
  · rw [List.take_append_drop, digitsOrZero_ofNat, List.length_drop]
    congr 1
    omega
  · rw [← List.length_pos_iff, List.length_take]
    omega

private theorem writes_below (n : Nat) {e : Int} (hbelow : (Text.ofNat n).length + e ≤ 0) :
    Writes (zeros 1 ++ '.' :: (zeros (-((Text.ofNat n).length + e)).toNat ++ Text.ofNat n))
      n e := by
  apply writes_point (allDigits_zeros 1) (by simp [zeros])
    ((allDigits_zeros _).append (allDigits_ofNat n))
  rw [← List.append_assoc, zeros_append, digitsOrZero_zeros_append, List.length_append, zeros,
    List.length_replicate]
  congr 1
  omega

theorem writes_positional (n : Nat) {e : Int} (he : e ≤ 400) :
    Writes (positional (Text.ofNat n) e) n e := by
  unfold positional
  split
  · rename_i hpos
    obtain ⟨k, rfl⟩ := Int.eq_ofNat_of_zero_le hpos
    exact writes_whole n k (by omega)
  · split
    · rename_i hneg hinside
      exact writes_inside n (by omega) hinside
    · rename_i hneg houtside
      have htext : (("0." : Text) ++ zeros (-((Text.ofNat n).length + e)).toNat ++ Text.ofNat n) =
          zeros 1 ++ '.' :: (zeros (-((Text.ofNat n).length + e)).toNat ++ Text.ofNat n) := by
        simp [zeros]
      rw [htext]
      exact writes_below n (by omega)

theorem writes_scientific (n : Nat) (e : Int) : Writes (scientific false (Text.ofNat n) e) n e := by
  have hlen := List.length_pos_iff.mpr (ofNat_ne_nil n)
  have hwhole := (allDigits_ofNat n).take 1
  have hfraction := (allDigits_ofNat n).drop 1
  have hne : (Text.ofNat n).take 1 ≠ [] := by
    rw [← List.length_pos_iff, List.length_take]
    omega
  obtain ⟨c, hhead⟩ := Option.isSome_iff_exists.mp (List.isSome_head?.mpr hne)
  have hdigit := hwhole c (List.mem_of_mem_head? hhead)
  by_cases hone : (Text.ofNat n).length ≤ 1
  · have htake : (Text.ofNat n).take 1 = Text.ofNat n := List.take_of_length_le hone
    have htext : scientific false (Text.ofNat n) e = Text.ofNat n ++ 'e' :: Text.ofInt e := by
      have hleading : e + (Text.ofNat n).length - 1 = e := by omega
      simp [scientific, hone, htake, hleading]
    rw [htext]
    rw [htake] at hhead
    refine ⟨numeral_exponent (fun c hc => .inl (allDigits_ofNat n c hc)) ⟨c, hhead, hdigit⟩ e, _,
      unsigned?_exponent (allDigits_ofNat n) (ofNat_ne_nil n) e, ?_⟩
    rw [digitsOrZero_ofNat]
  -- The digits behind the point lower the exponent by as many as they are.
  · have htext : scientific false (Text.ofNat n) e =
        (Text.ofNat n).take 1 ++ '.' :: (Text.ofNat n).drop 1 ++
          'e' :: Text.ofInt (e + (Text.ofNat n).length - 1) := by
      simp [scientific, hone]
    rw [htext]
    refine ⟨numeral_exponent ?_ ⟨c, by simp [hhead], hdigit⟩ _, _,
      unsigned?_point_exponent hwhole hne hfraction _, ?_⟩
    · intro d hd
      simp only [List.mem_append, List.mem_cons] at hd
      rcases hd with hd | rfl | hd
      · exact .inl (hwhole d hd)
      · exact .inr rfl
      · exact .inl (hfraction d hd)
    · rw [List.take_append_drop, digitsOrZero_ofNat, List.length_drop]
      dsimp only
      congr 1
      omega

theorem writes_layout (d : Decimal) : Writes (config.layout d) d.digits d.exponent := by
  have hlen := List.length_pos_iff.mpr (ofNat_ne_nil d.digits)
  unfold layout
  by_cases hmiddling : config.plainFrom ≤ d.exponent + (Text.ofNat d.digits).length - 1 &&
      d.exponent + (Text.ofNat d.digits).length - 1 < config.plainBelow
  · rw [if_pos hmiddling]
    obtain ⟨-, hbelow⟩ := Bool.and_eq_true_iff.mp hmiddling
    have hsmall : d.exponent + (Text.ofNat d.digits).length - 1 < 16 := of_decide_eq_true hbelow
    exact writes_positional d.digits (by omega)
  · rw [if_neg hmiddling]
    exact writes_scientific d.digits d.exponent

/-! ## Floats -/

theorem magnitude_reads {b : Nat} (hb : b < Binary64.infinityPattern) :
    Numeral (config.magnitude b) ∧ ∃ d, unsigned? (config.magnitude b) = some d ∧
      Binary64.nearestDecimal d.digits d.exponent = b := by
  unfold magnitude
  by_cases hzero : b = 0
  · have hwrites := writes_whole 0 0 (by omega)
    rw [if_pos hzero, hzero]
    exact hwrites
  · obtain ⟨hnumeral, d, hread, hsame⟩ := writes_layout (Binary64.shortest config.tie b)
    rw [if_neg hzero, if_pos hb]
    exact ⟨hnumeral, d, hread, hsame.trans (Binary64.nearestDecimal_shortest _ hzero)⟩

theorem render_eq {x : Float} (h : Binary64.isFinite x = true) :
    config.render x = if Binary64.isNegative x then '-' :: config.magnitude (Binary64.pattern x)
      else config.magnitude (Binary64.pattern x) := by
  have hlt : Binary64.pattern x < Binary64.infinityPattern := of_decide_eq_true h
  have hfinite : ¬ Binary64.infinityPattern < Binary64.pattern x := by omega
  rw [render, if_neg hfinite]

theorem float?_render {x : Float} (h : Binary64.isFinite x = true) :
    float? (config.render x) = some x := by
  obtain ⟨hnumeral, d, hread, hnearest⟩ := magnitude_reads (of_decide_eq_true h)
  rw [render_eq h, float?, hnumeral.decimal?_eq, hread]
  simp only [Option.map_some, Option.bind_some, hnearest]
  exact Binary64.finite?_pattern h

theorem integer?_render {x : Float} (h : Binary64.isFinite x = true) :
    integer? (config.render x) = none := by
  rw [render_eq h]
  exact (magnitude_reads (of_decide_eq_true h)).1.integer?_eq_none _

theorem char_of_mem_render {x : Float} (h : Binary64.isFinite x = true) {c : Char}
    (hc : c ∈ config.render x) : c.isDigit = true ∨ c = '.' ∨ c = 'e' ∨ c = '-' := by
  have hnumeral := (magnitude_reads (of_decide_eq_true h)).1
  rw [render_eq h] at hc
  split at hc
  · rcases List.mem_cons.mp hc with rfl | hc
    · exact .inr (.inr (.inr rfl))
    · exact hnumeral.chars c hc
  · exact hnumeral.chars c hc

theorem render_ne_nil {x : Float} (h : Binary64.isFinite x = true) : config.render x ≠ [] := by
  have hnumeral := (magnitude_reads (of_decide_eq_true h)).1
  rw [render_eq h]
  split
  · simp
  · exact hnumeral.ne_nil

end FloatStyle

end IniSchema
