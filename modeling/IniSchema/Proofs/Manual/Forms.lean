import IniSchema.Manual.Line
import IniSchema.Proofs.Text

/-!
# What the lines of a manual hold

The names and descriptions of a line are parts of its text, so that they hold no newline.
Identifiers are made of word characters, the application's name has no white space in it, and
section names are trimmed unless they are blank.
-/

namespace IniSchema.Manual

open Unicode

namespace Line

def WellFormed : Line → Prop
  | .appName name => name ≠ [] ∧ ∀ c ∈ name, isBlank c = false
  | .environment name => '\n' ∉ name
  | .sectionHeader name => '\n' ∉ name ∧ ((∃ c ∈ name, isBlank c = false) → Text.IsTrimmed name)
  | .declaration ident spec description =>
      ident ≠ [] ∧ (∀ c ∈ ident, isWord c = true) ∧ (∀ text, spec = some text → '\n' ∉ text) ∧
        '\n' ∉ description
  | .continuation text => '\n' ∉ text
  | .malformed => True
  | .prose => True

variable {line : Text}

/-! ## Names -/

private theorem solid_of_appName? {name : Text} (h : appName? line = some name) :
    name ≠ [] ∧ ∀ c ∈ name, isBlank c = false := by
  unfold appName? at h
  split at h
  · split at h
    · simp only [Option.ite_none_right_eq_some, Option.some.injEq, Bool.and_eq_true,
        Bool.not_eq_true', List.isEmpty_eq_false_iff, List.any_eq_false, Bool.not_eq_true] at h
      obtain ⟨hsolid, rfl⟩ := h
      exact hsolid
    · cases h
  · cases h

private theorem mem_of_header? {opening closing : Char} {name : Text}
    (h : header? opening closing line = some name) {c : Char} (hc : c ∈ name) : c ∈ line := by
  unfold header? at h
  split at h
  · rename_i inner hinner
    split at h
    · cases h
    · split at h
      · obtain ⟨last, hlast, rfl⟩ := Option.map_eq_some_iff.mp h
        rw [List.mem_singleton.mp hc]
        exact Text.mem_of_between? hinner (List.mem_of_getLast? hlast)
      · cases h
        exact Text.mem_of_between? hinner (Text.mem_of_mem_trim hc)
  · cases h

private theorem isTrimmed_of_header? {opening closing : Char} {name : Text}
    (h : header? opening closing line = some name) (hname : ∃ c ∈ name, isBlank c = false) :
    Text.IsTrimmed name := by
  unfold header? at h
  split at h
  · rename_i inner hinner
    split at h
    · cases h
    · split at h
      · rename_i hblank
        obtain ⟨last, hlast, rfl⟩ := Option.map_eq_some_iff.mp h
        obtain ⟨c, hc, hnot⟩ := hname
        rw [List.mem_singleton.mp hc] at hnot
        have hall := List.all_eq_true.mp hblank last (List.mem_of_getLast? hlast)
        rw [hnot] at hall
        cases hall
      · cases h
        exact Text.isTrimmed_trim inner
  · cases h

/-! ## Declarations -/

theorem eq_of_splitParenthesis? {within : Option Char} {text inner after : Text}
    (h : splitParenthesis? within text = some (inner, after)) : text = inner ++ ')' :: after := by
  fun_induction splitParenthesis? within text generalizing inner after with
  | case1 => cases h
  | case2 rest =>
      cases h
      rfl
  | case3 c rest hc ih =>
      obtain ⟨⟨inner', after'⟩, hrest, heq⟩ := Option.map_eq_some_iff.mp h
      cases heq
      rw [ih hrest, List.cons_append]
  | case4 q c rest ih =>
      obtain ⟨⟨inner', after'⟩, hrest, heq⟩ := Option.map_eq_some_iff.mp h
      cases heq
      rw [ih hrest, List.cons_append]

private theorem wellFormed_of_declaration? {found : Line} (hline : '\n' ∉ line)
    (h : declaration? line = some found) : found.WellFormed := by
  have hident : ∀ c ∈ line.takeWhile isWord, isWord c = true :=
    List.all_eq_true.mp List.all_takeWhile
  have hrest : '\n' ∉ Text.trimStart (line.dropWhile isWord) := fun hmem =>
    hline ((List.dropWhile_sublist _).subset (Text.mem_of_mem_trimStart hmem))
  unfold declaration? at h
  simp only at h
  split at h
  · cases h
  · rename_i hne
    rw [List.isEmpty_iff] at hne
    split at h
    · rename_i description heq
      cases h
      rw [heq] at hrest
      refine ⟨hne, hident, by simp, ?_⟩
      exact fun hmem => hrest (List.mem_cons_of_mem _ (Text.mem_of_mem_trim hmem))
    · rename_i rest heq
      rw [heq] at hrest
      split at h
      · rename_i spec after hsplit
        rw [eq_of_splitParenthesis? hsplit] at hrest
        split at h
        · rename_i description hspec hafter
          cases h
          refine ⟨hne, hident, ?_, ?_⟩
          · rintro text ⟨⟩ hmem
            exact hrest (by simp [hmem])
          · intro hmem
            have hmem' : '\n' ∈ Text.trimStart after := by
              rw [hafter]
              exact List.mem_cons_of_mem _ (Text.mem_of_mem_trim hmem)
            exact hrest (by simp [Text.mem_of_mem_trimStart hmem'])
        · cases h
      · cases h
    · cases h

theorem wellFormed_ofForm (hline : '\n' ∉ line) : (ofForm line).WellFormed := by
  unfold ofForm
  cases henvironment : header? '\x7b' '\x7d' line with
  | some name => exact fun hmem => hline (mem_of_header? henvironment hmem)
  | none =>
      cases hsection : header? '[' ']' line with
      | some name =>
          exact ⟨fun hmem => hline (mem_of_header? hsection hmem), isTrimmed_of_header? hsection⟩
      | none =>
          cases hdeclaration : declaration? line with
          | some found => exact wellFormed_of_declaration? hline hdeclaration
          | none =>
              cases looksLikeDeclaration line
              · trivial
              · trivial

theorem wellFormed_classify (sectionOpen : Bool) (hline : '\n' ∉ line) :
    (classify sectionOpen line).WellFormed := by
  unfold classify
  split
  · rename_i rest
    intro hmem
    exact hline (List.mem_cons_of_mem _ (Text.mem_of_mem_trim hmem))
  · split
    · rename_i name hname
      split at hname
      · cases hname
      · exact solid_of_appName? hname
    · exact wellFormed_ofForm hline

end Line

end IniSchema.Manual
