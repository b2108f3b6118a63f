import IniSchema.Proofs.Characters
import IniSchema.Source.Reader

/-!
# The case of ASCII letters

Texts are trimmed and cut at characters that are no letters, so that the parts of a text in lower
case are the parts of the text, in lower case.  The key of a name does not depend on the case of
its ASCII letters, also next to a sigma: each counts for the end of a word as its small form does.
-/

namespace IniSchema.Unicode

/-- What is the same for the two cases of each letter is so for those of any character. -/
theorem eq_of_toLower {α : Type} {f : Char → α}
    (h : ∀ n < 26, f (Char.ofNat (0x61 + n)) = f (Char.ofNat (0x41 + n))) (c : Char) :
    f c.toLower = f c := by
  rcases toLower_cases c with hsame | ⟨⟨hlow, hhigh⟩, hlower⟩
  · rw [hsame]
  · obtain ⟨n, hn⟩ := Nat.exists_eq_add_of_le hlow
    have hletter := h n (by omega)
    rwa [← hn, show 0x61 + n = c.toLower.toNat by omega, Char.ofNat_toNat, Char.ofNat_toNat]
      at hletter

theorem toLower_eq_iff {target : Char}
    (h : ∀ n < 26, Char.ofNat (0x61 + n) = target ↔ Char.ofNat (0x41 + n) = target) (c : Char) :
    c.toLower = target ↔ c = target :=
  iff_of_eq (eq_of_toLower (f := fun c => c = target) (fun n hn => propext (h n hn)) c)

theorem isBlank_toLower (c : Char) : isBlank c.toLower = isBlank c :=
  eq_of_toLower (by decide) c

theorem isWord_toLower (c : Char) : isWord c.toLower = isWord c :=
  eq_of_toLower (by decide) c

private theorem letters_cased : (0x41, 0x5A) ∈ casedRanges ∧ (0x61, 0x7A) ∈ casedRanges := by
  decide

theorem isCased_toLower (c : Char) : isCased c.toLower = isCased c := by
  rcases toLower_cases c with hsame | ⟨hupper, hlower⟩
  · rw [hsame]
  · have hcased : isCased c = true := inRanges_iff.mpr ⟨_, letters_cased.1, hupper⟩
    have hcased' : isCased c.toLower = true :=
      inRanges_iff.mpr ⟨_, letters_cased.2, by omega, by omega⟩
    rw [hcased, hcased']

private theorem letters_not_ignorable : ∀ r ∈ caseIgnorableRanges,
    r.2 < 0x41 ∨ 0x5A < r.1 ∧ r.2 < 0x61 ∨ 0x7A < r.1 := by
  decide +kernel

theorem isCaseIgnorable_toLower (c : Char) : isCaseIgnorable c.toLower = isCaseIgnorable c := by
  rcases toLower_cases c with hsame | ⟨hupper, hlower⟩
  · rw [hsame]
  · have hletter : ∀ d : Char, 0x41 ≤ d.toNat ∧ d.toNat ≤ 0x5A ∨
        0x61 ≤ d.toNat ∧ d.toNat ≤ 0x7A → isCaseIgnorable d = false := by
      intro d hd
      rw [← Bool.not_eq_true, isCaseIgnorable, inRanges_iff]
      rintro ⟨r, hr, hlow, hhigh⟩
      have hrange := letters_not_ignorable r hr
      omega
    rw [hletter c (.inl hupper), hletter c.toLower (.inr (by omega))]

theorem lowerChar_toLower (c : Char) : lowerChar c.toLower = lowerChar c :=
  eq_of_toLower (by decide) c

theorem toLower_eq_capitalSigma_iff (c : Char) : c.toLower = capitalSigma ↔ c = capitalSigma :=
  toLower_eq_iff (by decide) c

theorem meetsCased_map_toLower (cs : List Char) :
    meetsCased (cs.map Char.toLower) = meetsCased cs := by
  have hignorable : isCaseIgnorable ∘ Char.toLower = isCaseIgnorable :=
    funext isCaseIgnorable_toLower
  unfold meetsCased
  rw [List.dropWhile_map, hignorable]
  cases cs.dropWhile isCaseIgnorable with
  | nil => rfl
  | cons c rest => exact isCased_toLower c

theorem lowerAfter_map_toLower (before cs : List Char) :
    lowerAfter (before.map Char.toLower) (cs.map Char.toLower) = lowerAfter before cs := by
  induction cs generalizing before with
  | nil => rfl
  | cons c cs ih =>
      have hrest := ih (c :: before)
      rw [List.map_cons] at hrest
      rw [List.map_cons, lowerAfter, lowerAfter, hrest, lowerChar_toLower]
      simp only [toLower_eq_capitalSigma_iff, lowerSigma, meetsCased_map_toLower]

theorem lower_map_toLower (cs : List Char) : lower (cs.map Char.toLower) = lower cs :=
  lowerAfter_map_toLower [] cs

end IniSchema.Unicode

namespace IniSchema.Text

open Unicode

/-! ## Parts of a text in lower case -/

theorem asciiLower_cons (c : Char) (t : Text) :
    asciiLower (c :: t) = c.toLower :: t.asciiLower := rfl

theorem trimStart_asciiLower (t : Text) :
    t.asciiLower.trimStart = t.trimStart.asciiLower := by
  have hblank : isBlank ∘ Char.toLower = isBlank := funext isBlank_toLower
  rw [trimStart, asciiLower, List.dropWhile_map, hblank]
  rfl

theorem trim_asciiLower (t : Text) : t.asciiLower.trim = t.trim.asciiLower := by
  have hreverse : ∀ u : Text, u.asciiLower.reverse = asciiLower u.reverse :=
    fun u => List.map_reverse.symm
  rw [trim, trim, trimStart_asciiLower, trimEnd, trimEnd, hreverse]
  change (trimStart _).reverse = _
  rw [trimStart_asciiLower, hreverse]
  rfl

theorem trim_asciiLower_congr {t u : Text} (h : u.asciiLower = t.asciiLower) :
    u.trim.asciiLower = t.trim.asciiLower := by
  rw [← trim_asciiLower, h, trim_asciiLower]

theorem byteLength_asciiLower (t : Text) : t.asciiLower.byteLength = t.byteLength := by
  have hsize : ∀ c : Char, c.toLower.utf8Size = c.utf8Size := eq_of_toLower (by decide)
  unfold byteLength asciiLower
  rw [List.foldr_map]
  simp only [hsize]

theorem between?_asciiLower {opening closing : Char}
    (hopening : ∀ c : Char, c.toLower = opening ↔ c = opening)
    (hclosing : ∀ c : Char, c.toLower = closing ↔ c = closing) (t : Text) :
    t.asciiLower.between? opening closing = (t.between? opening closing).map asciiLower := by
  cases t with
  | nil => rfl
  | cons c cs =>
      have hlast : (cs.map Char.toLower).getLast? = some closing ↔
          cs.getLast? = some closing := by
        rw [List.getLast?_map]
        simp [hclosing]
      simp only [asciiLower, List.map_cons, between?, hopening, hlast]
      split
      · rw [Option.map_some, asciiLower, List.map_dropLast]
      · rfl

end IniSchema.Text

namespace IniSchema.Name

open Unicode

/-- The same name, but for the case of ASCII letters and white space around it. -/
def Alike (name other : Text) : Prop := other.trim.asciiLower = name.trim.asciiLower

theorem key_asciiLower (name : Text) : key name.asciiLower = key name := by
  rw [key, Text.trim_asciiLower]
  exact lower_map_toLower name.trim

theorem Alike.key_eq {name other : Text} (h : Alike name other) : key other = key name := by
  rw [← key_trim other, ← key_asciiLower other.trim, h, key_asciiLower, key_trim]

end IniSchema.Name
