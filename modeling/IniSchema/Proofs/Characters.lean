import IniSchema.Name
import IniSchema.Proofs.Text
import Mathlib.Data.List.TakeWhile

/-!
# Kinds of characters

No character is of two of the kinds white space, word character and separator.  A character that
stands below the letters is in a name in any case exactly if it is in the name.
-/

namespace IniSchema.Unicode

/-- What holds of all characters below a bound, checked one by one. -/
theorem forall_lt_of_ofNat {bound : Nat} {P : Char → Prop} (h : ∀ n < bound, P (Char.ofNat n))
    (c : Char) (hc : c.toNat < bound) : P c := by
  have hchar := h c.toNat hc
  rwa [Char.ofNat_toNat] at hchar

theorem isBlank_iff {c : Char} :
    isBlank c = true ↔ ∃ r ∈ blankRanges, r.1 ≤ c.toNat ∧ c.toNat ≤ r.2 :=
  inRanges_iff

theorem isBlank_of_isDigit {c : Char} (h : c.isDigit = true) : isBlank c = false := by
  have hrange : 48 ≤ c.toNat ∧ c.toNat ≤ 57 := Char.isDigit_iff_toNat.mp h
  simp [isBlank, inRanges, blankRanges]
  omega

private theorem blank_or_word_ranges :
    ∀ b ∈ blankRanges, ∀ w ∈ wordRanges, b.2 < w.1 ∨ w.2 < b.1 := by
  decide +kernel

private theorem le_of_isAsciiWord {c : Char} (h : isAsciiWord c = true) : 48 ≤ c.toNat := by
  rcases Nat.lt_or_ge c.toNat 48 with hlt | hge
  · have hnone := forall_lt_of_ofNat (P := fun c => isAsciiWord c = false) (by decide) c hlt
    rw [h] at hnone
    contradiction
  · exact hge

theorem isBlank_of_isWord {c : Char} (h : isWord c = true) : isBlank c = false := by
  rw [← Bool.not_eq_true, isBlank_iff]
  rintro ⟨b, hb, hlow, hhigh⟩
  by_cases hascii : c.toNat < 0x80
  · rw [isWord_of_lt hascii] at h
    have hge := le_of_isAsciiWord h
    have hblank : isBlank c = true := isBlank_iff.mpr ⟨b, hb, hlow, hhigh⟩
    simp [isBlank, inRanges, blankRanges] at hblank
    omega
  · unfold isWord asciiOr at h
    rw [if_neg hascii] at h
    obtain ⟨w, hw, hlow', hhigh'⟩ := inRanges_iff.mp h
    rcases blank_or_word_ranges b hb w hw with hlt | hlt
    · omega
    · omega

/-! ## Upper and lower case

What stands below the letters, such as digits, points and newlines, has no case, and no character
is written with it in another case. -/

theorem toLower_cases (c : Char) : c.toLower = c ∨
    (0x41 ≤ c.toNat ∧ c.toNat ≤ 0x5A) ∧ c.toLower.toNat = c.toNat + 0x20 := by
  by_cases h : c.val ≥ 'A'.val ∧ c.val ≤ 'Z'.val
  · have hlow : 0x41 ≤ c.toNat := UInt32.le_iff_toNat_le.mp h.1
    have hhigh : c.toNat ≤ 0x5A := UInt32.le_iff_toNat_le.mp h.2
    have hlower : c.toLower.toNat = (c.toNat + 0x20) % 2 ^ 32 :=
      (congrArg Char.toNat (dif_pos h)).trans (UInt32.toNat_add ..)
    exact .inr ⟨⟨hlow, hhigh⟩, by omega⟩
  · exact .inl (dif_neg h)

theorem toUpper_cases (c : Char) : c.toUpper = c ∨
    (0x61 ≤ c.toNat ∧ c.toNat ≤ 0x7A) ∧ c.toUpper.toNat = c.toNat - 0x20 := by
  by_cases h : 'a'.val ≤ c.val ∧ c.val ≤ 'z'.val
  · have hlow : 0x61 ≤ c.toNat := UInt32.le_iff_toNat_le.mp h.1
    have hhigh : c.toNat ≤ 0x7A := UInt32.le_iff_toNat_le.mp h.2
    have hupper : c.toUpper.toNat = (c.toNat + (2 ^ 32 - 0x20)) % 2 ^ 32 :=
      (congrArg Char.toNat (dif_pos h)).trans (UInt32.toNat_add ..)
    exact .inr ⟨⟨hlow, hhigh⟩, by omega⟩
  · exact .inl (dif_neg h)

/-- The code points that a run maps to are those of characters, none of them below the letters. -/
def CaseRun.Lands (r : CaseRun) : Prop :=
  0x41 ≤ r.first + r.shift ∧ r.last + r.shift < 0xD800 ∨
    0xDFFF < r.first + r.shift ∧ r.last + r.shift < 0x110000

instance : DecidablePred CaseRun.Lands := fun _ => inferInstanceAs (Decidable (_ ∨ _))

private theorem lands_upperRuns : ∀ r ∈ upperRuns, r.Lands := by decide +kernel

private theorem lands_lowerRuns : ∀ r ∈ lowerRuns, r.Lands := by decide +kernel

private theorem letters_upperExpansions :
    ∀ e ∈ upperExpansions, ∀ n ∈ e.2, 0x41 ≤ (Char.ofNat n).toNat := by
  decide +kernel

private theorem le_toNat_shiftBy {runs : List CaseRun} (hruns : ∀ r ∈ runs, r.Lands) {c : Char}
    (hc : 0x41 ≤ c.toNat) : 0x41 ≤ (shiftBy runs c).toNat := by
  unfold shiftBy
  cases hrun : runs.find? (·.contains c) with
  | none => exact hc
  | some r =>
      have hlands := hruns r (List.mem_of_find?_eq_some hrun)
      have hcontains := List.find?_some hrun
      unfold CaseRun.Lands at hlands
      simp only [CaseRun.contains, Bool.and_eq_true, decide_eq_true_eq] at hcontains
      have hvalid : (c.toNat + r.shift).toNat.isValidChar := by
        unfold Nat.isValidChar
        omega
      have htoNat : (Char.ofNat (c.toNat + r.shift).toNat).toNat = (c.toNat + r.shift).toNat := by
        rw [Char.ofNat, dif_pos hvalid]
        rfl
      simp only [htoNat]
      omega

variable {m : Char}

private theorem mem_iff_of_letters (hm : m.toNat < 0x41) {c : Char} (hc : 0x41 ≤ c.toNat)
    {mapped : List Char} (hmapped : ∀ d ∈ mapped, 0x41 ≤ d.toNat) : m ∈ mapped ↔ m = c := by
  constructor
  · intro hmem
    have hletter := hmapped m hmem
    omega
  · rintro rfl
    omega

theorem mem_upperChar_iff (hm : m.toNat < 0x41) {c : Char} : m ∈ upperChar c ↔ m = c := by
  unfold upperChar
  split
  · rcases toUpper_cases c with hsame | ⟨hlower, hupper⟩
    · rw [hsame, List.mem_singleton]
    · have hletter : 0x41 ≤ c.toUpper.toNat := by omega
      exact mem_iff_of_letters hm (by omega) (by simpa using hletter)
  · rename_i hascii
    have hc : 0x41 ≤ c.toNat := by omega
    split
    · rename_i code expansion hfound
      have hletters := letters_upperExpansions _ (List.mem_of_find?_eq_some hfound)
      exact mem_iff_of_letters hm hc (by simpa using hletters)
    · exact mem_iff_of_letters hm hc (by simpa using le_toNat_shiftBy lands_upperRuns hc)

theorem mem_lowerChar_iff (hm : m.toNat < 0x41) {c : Char} : m ∈ lowerChar c ↔ m = c := by
  unfold lowerChar
  split
  · rcases toLower_cases c with hsame | ⟨hupper, hlower⟩
    · rw [hsame, List.mem_singleton]
    · have hletter : 0x41 ≤ c.toLower.toNat := by omega
      exact mem_iff_of_letters hm hupper.1 (by simpa using hletter)
  · rename_i hascii
    have hc : 0x41 ≤ c.toNat := by omega
    split
    · exact mem_iff_of_letters hm hc (by simp)
    · exact mem_iff_of_letters hm hc (by simpa using le_toNat_shiftBy lands_lowerRuns hc)

theorem mem_upper_iff (hm : m.toNat < 0x41) {t : List Char} : m ∈ upper t ↔ m ∈ t := by
  simp [upper, mem_upperChar_iff hm]

private theorem mem_lowerSigma_iff (hm : m.toNat < 0x41) {before after : List Char} :
    m ∈ [lowerSigma before after] ↔ m = capitalSigma := by
  have hletter : 0x41 ≤ (lowerSigma before after).toNat := by
    unfold lowerSigma
    split <;> decide
  exact mem_iff_of_letters hm (by decide) (by simpa using hletter)

private theorem mem_lowerAfter_iff (hm : m.toNat < 0x41) {before t : List Char} :
    m ∈ lowerAfter before t ↔ m ∈ t := by
  induction t generalizing before with
  | nil => simp [lowerAfter]
  | cons c cs ih =>
      rw [lowerAfter, List.mem_append, ih, List.mem_cons]
      split
      · rename_i hsigma
        rw [mem_lowerSigma_iff hm, hsigma]
      · rw [mem_lowerChar_iff hm]

theorem mem_lower_iff (hm : m.toNat < 0x41) {t : List Char} : m ∈ lower t ↔ m ∈ t :=
  mem_lowerAfter_iff hm

theorem lower_eq_nil_iff {t : List Char} : lower t = [] ↔ t = [] := by
  cases t with
  | nil => simp [lower, lowerAfter]
  | cons c cs =>
      have hlower : lowerChar c ≠ [] := by
        unfold lowerChar
        split
        · simp
        · split
          · simp
          · simp
      rw [lower, lowerAfter]
      split
      · simp
      · simp [hlower]

end IniSchema.Unicode

namespace IniSchema.Text

open Unicode

theorem isTrimmed_of_forall {t : Text} (h : ∀ c ∈ t, isBlank c = false) : IsTrimmed t :=
  ⟨fun c hc => h c (List.mem_of_mem_head? hc), fun c hc => h c (List.mem_of_getLast? hc)⟩

theorem mem_trim_iff {c : Char} (hc : isBlank c = false) {t : Text} : c ∈ t.trim ↔ c ∈ t := by
  have hdrop : ∀ u : Text, c ∈ u → c ∈ u.dropWhile isBlank := by
    intro u hu
    rw [← List.takeWhile_append_dropWhile (p := isBlank) (l := u), List.mem_append] at hu
    rcases hu with hblank | hrest
    · rw [List.mem_takeWhile_imp hblank] at hc
      cases hc
    · exact hrest
  constructor
  · exact mem_of_mem_trim
  · intro hmem
    rw [trim, trimEnd, List.mem_reverse]
    exact hdrop _ (List.mem_reverse.mpr (hdrop t hmem))

theorem trim_eq_nil_iff {t : Text} : t.trim = [] ↔ ∀ c ∈ t, isBlank c = true := by
  constructor
  · intro hnil c hc
    cases hblank : isBlank c with
    | true => rfl
    | false =>
        have hmem := (mem_trim_iff hblank).mpr hc
        simp [hnil] at hmem
  · intro hblank
    have hpadded := trim_padded [] hblank (List.forall_mem_nil _)
    rwa [List.append_nil, List.append_nil] at hpadded

theorem isTrimmed_between {first last : Char} (inner : Text) (hfirst : isBlank first = false)
    (hlast : isBlank last = false) : IsTrimmed (first :: inner ++ [last]) := by
  constructor
  · intro c hc
    cases hc
    exact hfirst
  · intro c hc
    rw [List.getLast?_concat] at hc
    cases hc
    exact hlast

end IniSchema.Text

namespace IniSchema.Name

open Unicode

theorem mem_key_iff {m : Char} (hm : m.toNat < 0x41) (hblank : isBlank m = false) {name : Text} :
    m ∈ key name ↔ m ∈ name := by
  rw [key, mem_lower_iff hm, Text.mem_trim_iff hblank]

theorem key_eq_nil_iff {name : Text} : key name = [] ↔ ∀ c ∈ name, isBlank c = true := by
  rw [key, lower_eq_nil_iff, Text.trim_eq_nil_iff]

end IniSchema.Name
