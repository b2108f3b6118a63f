import IniSchema.Text

/-!
# Laws of texts

What trimming, cutting and reading lines do, said without their loops: a trimmed text is one with no
white space at either end, a cut puts the text together again, and lines come back from a text that
was written line by line.
-/

namespace IniSchema.Text

open Unicode

/-! ## Trimming -/

/-- No white space in front and none at the end. -/
def IsTrimmed (t : Text) : Prop :=
  (∀ c, t.head? = some c → isBlank c = false) ∧ (∀ c, t.getLast? = some c → isBlank c = false)

theorem isBlank_head?_trimStart {t : Text} {c : Char} (h : t.trimStart.head? = some c) :
    isBlank c = false := by
  have := List.head?_dropWhile_not isBlank t
  simp_all [trimStart]

theorem isBlank_getLast?_trimEnd {t : Text} {c : Char} (h : t.trimEnd.getLast? = some c) :
    isBlank c = false := by
  rw [trimEnd, List.getLast?_reverse] at h
  exact isBlank_head?_trimStart h

theorem trimEnd_prefix (t : Text) : t.trimEnd <+: t := by
  have h := List.reverse_prefix.2 (List.dropWhile_suffix (l := t.reverse) isBlank)
  rwa [List.reverse_reverse] at h

theorem isTrimmed_trim (t : Text) : IsTrimmed t.trim := by
  refine ⟨fun c h => ?_, fun c h => isBlank_getLast?_trimEnd h⟩
  obtain ⟨rest, hrest⟩ := trimEnd_prefix t.trimStart
  apply isBlank_head?_trimStart (t := t)
  rw [← hrest, List.head?_append, show t.trimStart.trimEnd.head? = some c from h]
  rfl

theorem trimStart_eq_self {t : Text} (h : ∀ c, t.head? = some c → isBlank c = false) :
    t.trimStart = t := by
  cases t with
  | nil => rfl
  | cons c cs => simp [trimStart, h c rfl]

theorem trimEnd_eq_self {t : Text} (h : ∀ c, t.getLast? = some c → isBlank c = false) :
    t.trimEnd = t := by
  rw [trimEnd, ← trimStart, trimStart_eq_self, List.reverse_reverse]
  intro c hc
  rw [List.head?_reverse] at hc
  exact h c hc

theorem trim_eq_self_iff {t : Text} : t.trim = t ↔ IsTrimmed t := by
  constructor
  · intro h
    rw [← h]
    exact isTrimmed_trim t
  · intro h
    rw [trim, trimStart_eq_self h.1, trimEnd_eq_self h.2]

@[simp] theorem trim_trim (t : Text) : t.trim.trim = t.trim := trim_eq_self_iff.2 (isTrimmed_trim t)

theorem trimEnd_append_blank (t : Text) {after : Text} (h : ∀ c ∈ after, isBlank c = true) :
    (t ++ after).trimEnd = t.trimEnd := by
  have hreverse : ∀ c ∈ after.reverse, isBlank c = true := by simpa using h
  rw [trimEnd, trimEnd, List.reverse_append, List.dropWhile_append_of_pos hreverse]

/-- White space around a text is trimmed away with the text's own. -/
theorem trim_padded (t : Text) {before after : Text} (hbefore : ∀ c ∈ before, isBlank c = true)
    (hafter : ∀ c ∈ after, isBlank c = true) : trim (before ++ t ++ after) = t.trim := by
  have hblank : (after ++ []).dropWhile isBlank = [] := List.dropWhile_append_of_pos hafter
  rw [List.append_nil] at hblank
  rw [trim, trim, trimStart, List.append_assoc, List.dropWhile_append_of_pos hbefore,
    List.dropWhile_append]
  split
  · rename_i hempty
    rw [hblank, trimStart, List.isEmpty_iff.mp hempty]
  · exact trimEnd_append_blank _ hafter

/-- A character that is not white space keeps trimming to the text in front and the text behind. -/
theorem trim_append_cons {c : Char} (hc : isBlank c = false) (front back : Text) :
    trim (front ++ c :: back) = front.trimStart ++ c :: back.trimEnd := by
  have hstart : ∀ front back : Text, (front ++ c :: back).dropWhile isBlank =
      front.dropWhile isBlank ++ c :: back := by
    intro front back
    rw [List.dropWhile_append]
    split
    · rename_i hempty
      rw [List.isEmpty_iff.mp hempty, List.dropWhile_cons_of_neg (by simp [hc])]
      rfl
    · rfl
  have hreverse : ∀ front : Text, (front ++ c :: back).reverse =
      back.reverse ++ c :: front.reverse := by simp
  rw [trim, trimStart, hstart, trimEnd, hreverse, hstart]
  simp [trimStart, trimEnd]

/-! ## Cutting -/

theorem cut?_cons (p : Char → Bool) (c : Char) (cs : Text) :
    cut? p (c :: cs) =
      if p c then some ([], cs) else (cut? p cs).map fun piece => (c :: piece.1, piece.2) := by
  by_cases h : p c = true
  · simp [cut?, h]
  · simp only [cut?, h, Bool.not_false, List.dropWhile_cons_of_pos, List.takeWhile_cons_of_pos]
    cases cs.dropWhile (!p ·) <;> rfl

/-- A cut is at the first character with the property. -/
theorem cut?_eq_some_iff {p : Char → Bool} {t a b : Text} :
    t.cut? p = some (a, b) ↔ ∃ c, t = a ++ c :: b ∧ p c = true ∧ ∀ x ∈ a, p x = false := by
  induction t generalizing a with
  | nil => simp [cut?]
  | cons d ds ih =>
      rw [cut?_cons]
      cases a with
      | nil =>
          by_cases hd : p d = true
          · simp only [hd, if_true, Option.some.injEq, Prod.mk.injEq, true_and]
            grind
          · simp [hd]
      | cons x xs =>
          by_cases hd : p d = true
          · simp [hd]
            grind
          · simp [hd, ih]
            grind

theorem cut?_eq_none_iff {p : Char → Bool} {t : Text} :
    t.cut? p = none ↔ ∀ x ∈ t, p x = false := by
  induction t with
  | nil => simp [cut?]
  | cons d ds ih =>
      rw [cut?_cons]
      by_cases hd : p d = true <;> simp [hd, ih]

/-- What stands between two characters is the rest of the text. -/
theorem between?_eq_some_iff {opening closing : Char} {t inner : Text} :
    t.between? opening closing = some inner ↔ t = opening :: inner ++ [closing] := by
  cases t with
  | nil => simp [between?]
  | cons c cs =>
      simp only [between?, Option.ite_none_right_eq_some, Option.some.injEq, List.cons_append,
        List.cons.injEq]
      constructor
      · rintro ⟨⟨rfl, hlast⟩, rfl⟩
        obtain ⟨ys, rfl⟩ := List.getLast?_eq_some_iff.1 hlast
        simp
      · rintro ⟨rfl, rfl⟩
        simp

/-- Where the rest starts with another kind of character, the text in front is what comes first. -/
theorem span_append {p : Char → Bool} {front : Text} (rest : Text)
    (hfront : ∀ c ∈ front, p c = true) (hrest : ∀ c, rest.head? = some c → p c = false) :
    (front ++ rest).takeWhile p = front ∧ (front ++ rest).dropWhile p = rest := by
  have hstop : rest.takeWhile p = [] ∧ rest.dropWhile p = rest := by
    cases rest with
    | nil => simp
    | cons c rest => simp [hrest c rfl]
  constructor
  · rw [List.takeWhile_append_of_pos hfront, hstop.1, List.append_nil]
  · rw [List.dropWhile_append_of_pos hfront, hstop.2]

/-! ## Lines -/

theorem lines_cons {c : Char} {cs line : Text} {rest : List Text} (hnew : c ≠ '\n')
    (hret : c = '\r' → cs.head? ≠ some '\n') (hcs : lines cs = line :: rest) :
    lines (c :: cs) = (c :: line) :: rest := by
  rw [lines.eq_def]
  split
  · contradiction
  · simp_all
  · simp_all
  · rename_i h
    cases h
    rw [hcs]

theorem lines_append_newline {line : Text} (hnew : '\n' ∉ line) (hret : line.getLast? ≠ some '\r')
    (rest : Text) : lines (line ++ '\n' :: rest) = line :: lines rest := by
  induction line with
  | nil => simp [lines]
  | cons c cs ih =>
      have hcs : lines (cs ++ '\n' :: rest) = cs :: lines rest := by
        apply ih (fun h => hnew (by simp [h]))
        intro h
        apply hret
        cases cs with
        | nil => simp at h
        | cons d ds => simpa using h
      apply lines_cons _ _ hcs
      · exact fun h => hnew (by simp [h])
      · rintro rfl h
        cases cs with
        | nil => simp at hret
        | cons d ds =>
            simp at h
            simp [h] at hnew

theorem lines_unlines {ls : List Text} (hnew : ∀ l ∈ ls, '\n' ∉ l)
    (hret : ∀ l ∈ ls, l.getLast? ≠ some '\r') : lines (unlines ls) = ls := by
  induction ls with
  | nil => rfl
  | cons l ls ih =>
      rw [unlines, List.flatMap_cons, List.append_assoc, List.singleton_append,
        lines_append_newline (hnew l (by simp)) (hret l (by simp))]
      exact congrArg (l :: ·)
        (ih (fun x hx => hnew x (by simp [hx])) fun x hx => hret x (by simp [hx]))

end IniSchema.Text
