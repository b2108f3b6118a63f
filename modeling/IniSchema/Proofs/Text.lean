import IniSchema.Text.Lemmas

/-!
# Texts put together and taken apart

Descriptions and values that go over several lines are joined from their pieces, where empty ones
do not count.  What trimming and cutting give holds no character that the text does not hold.  The
lines of two texts with a newline between them are those of the first and those of the second.
-/

namespace IniSchema.Text

/-! ## Joining -/

def joinNonempty (separator : Text) (pieces : List Text) : Text :=
  join separator (pieces.filter (!·.isEmpty))

theorem join_concat {pieces : List Text} (h : pieces ≠ []) (separator piece : Text) :
    join separator (pieces ++ [piece]) = join separator pieces ++ separator ++ piece := by
  unfold join
  induction pieces with
  | nil => contradiction
  | cons first rest ih =>
      cases rest with
      | nil => simp [List.intercalate_cons_cons, List.intercalate_singleton]
      | cons second rest =>
          have hrest := ih (by simp)
          rw [List.cons_append] at hrest
          rw [List.cons_append, List.cons_append, List.intercalate_cons_cons, hrest,
            List.intercalate_cons_cons]
          simp

theorem joinNonempty_eq_nil_iff {separator : Text} {pieces : List Text} :
    joinNonempty separator pieces = [] ↔ pieces.filter (!·.isEmpty) = [] := by
  unfold joinNonempty join
  constructor
  · intro h
    cases hpieces : pieces.filter (!·.isEmpty) with
    | nil => rfl
    | cons first rest =>
        have hfirst : first ≠ [] := by
          have hmem : first ∈ pieces.filter (!·.isEmpty) := by simp [hpieces]
          simpa using (List.mem_filter.mp hmem).2
        rw [hpieces] at h
        cases rest with
        | nil => simp [List.intercalate_singleton, hfirst] at h
        | cons second rest => simp [List.intercalate_cons_cons, hfirst] at h
  · intro h
    simp [h]

theorem joinNonempty_concat (separator : Text) (pieces : List Text) (piece : Text) :
    joinNonempty separator (pieces ++ [piece]) =
      if joinNonempty separator pieces = [] then piece
      else if piece = [] then joinNonempty separator pieces
      else joinNonempty separator pieces ++ separator ++ piece := by
  by_cases hpieces : joinNonempty separator pieces = []
  · have hfilter := joinNonempty_eq_nil_iff.mp hpieces
    by_cases hpiece : piece = []
    · simp [joinNonempty, hfilter, hpiece, join]
    · simp [joinNonempty, hfilter, hpiece, join, List.intercalate_singleton]
  · have hfilter := mt joinNonempty_eq_nil_iff.mpr hpieces
    by_cases hpiece : piece = []
    · simp [hpiece, joinNonempty]
    · simp only [hpieces, hpiece, if_false]
      rw [joinNonempty, List.filter_append, List.filter_cons_of_pos (by simpa using hpiece),
        List.filter_nil, join_concat hfilter]
      rfl

theorem joinNonempty_singleton (separator piece : Text) :
    joinNonempty separator [piece] = piece :=
  joinNonempty_concat separator [] piece

theorem mem_of_mem_join {separator : Text} {pieces : List Text} {c : Char}
    (h : c ∈ join separator pieces) : c ∈ separator ∨ ∃ piece ∈ pieces, c ∈ piece := by
  unfold join at h
  induction pieces with
  | nil => simp at h
  | cons first rest ih =>
      cases rest with
      | nil =>
          rw [List.intercalate_singleton] at h
          exact .inr ⟨first, by simp, h⟩
      | cons second rest =>
          rw [List.intercalate_cons_cons, List.append_assoc] at h
          rcases List.mem_append.mp h with h | h
          · exact .inr ⟨first, by simp, h⟩
          · rcases List.mem_append.mp h with h | h
            · exact .inl h
            · rcases ih h with hsep | ⟨piece, hpiece, hc⟩
              · exact .inl hsep
              · exact .inr ⟨piece, by simp [hpiece], hc⟩

theorem mem_of_mem_joinNonempty {separator : Text} {pieces : List Text} {c : Char}
    (h : c ∈ joinNonempty separator pieces) : c ∈ separator ∨ ∃ piece ∈ pieces, c ∈ piece := by
  rcases mem_of_mem_join h with hsep | ⟨piece, hpiece, hc⟩
  · exact .inl hsep
  · exact .inr ⟨piece, (List.mem_filter.mp hpiece).1, hc⟩

/-! ## Parts -/

theorem mem_of_mem_trimStart {t : Text} {c : Char} (h : c ∈ t.trimStart) : c ∈ t :=
  (List.dropWhile_sublist _).subset h

theorem mem_of_mem_trim {t : Text} {c : Char} (h : c ∈ t.trim) : c ∈ t := by
  have hfront := trimEnd_prefix t.trimStart
  exact mem_of_mem_trimStart (hfront.subset h)

theorem mem_of_between? {opening closing : Char} {t inner : Text}
    (h : t.between? opening closing = some inner) {c : Char} (hc : c ∈ inner) : c ∈ t := by
  rw [between?_eq_some_iff.mp h]
  simp [hc]

theorem newline_notMem_of_mem_lines {t line : Text} (h : line ∈ t.lines) : '\n' ∉ line := by
  fun_induction lines t generalizing line with
  | case1 => cases h
  | case2 cs ih =>
      rcases List.mem_cons.mp h with rfl | h
      · exact List.not_mem_nil
      · exact ih h
  | case3 cs ih =>
      rcases List.mem_cons.mp h with rfl | h
      · exact List.not_mem_nil
      · exact ih h
  | case4 c cs hreturn hnewline hcs ih =>
      rw [List.mem_singleton.mp h]
      simpa using fun heq : '\n' = c => hnewline heq.symm
  | case5 c cs hreturn hnewline first rest hcs ih =>
      rcases List.mem_cons.mp h with rfl | h
      · rw [List.mem_cons, not_or]
        exact ⟨fun heq => hnewline heq.symm, ih (by simp [hcs])⟩
      · exact ih (by simp [hcs, h])

/-! ## Lines of two texts -/

/-- A line without the carriage return before its newline. -/
def chomp (line : Text) : Text := if line.getLast? = some '\r' then line.dropLast else line

theorem chomp_cons {line : Text} (h : line ≠ []) (c : Char) :
    chomp (c :: line) = c :: chomp line := by
  obtain ⟨d, rest, rfl⟩ := List.exists_cons_of_ne_nil h
  unfold chomp
  rw [List.getLast?_cons_cons]
  split
  · rfl
  · rfl

theorem exists_split_cons (separator : Char) (t : Text) :
    ∃ piece rest, split separator t = piece :: rest := by
  cases t with
  | nil => exact ⟨[], [], rfl⟩
  | cons c cs =>
      rw [split]
      split
      · exact ⟨_, _, rfl⟩
      · split
        · exact ⟨_, _, rfl⟩
        · exact ⟨_, _, rfl⟩

theorem split_cons {separator c : Char} (hc : c ≠ separator) {cs piece : Text} {rest : List Text}
    (hcs : split separator cs = piece :: rest) :
    split separator (c :: cs) = (c :: piece) :: rest := by
  rw [split, if_neg hc, hcs]

theorem length_split (separator : Char) (t : Text) :
    (split separator t).length = t.count separator + 1 := by
  induction t with
  | nil => rfl
  | cons c cs ih =>
      by_cases hc : c = separator
      · simp [split, hc, ih]
      · obtain ⟨piece, rest, hsplit⟩ := exists_split_cons separator cs
        rw [hsplit] at ih
        rw [split_cons hc hsplit, List.count_cons_of_ne (by simpa using hc), ← ih]
        simp

theorem lines_cons_newline {c : Char} (hc : c ≠ '\n') (rest : Text) :
    lines (c :: '\n' :: rest) = chomp [c] :: lines rest := by
  by_cases hreturn : c = '\r'
  · simp [lines, chomp, hreturn]
  · have hnewline : lines ('\n' :: rest) = [] :: lines rest := by simp [lines]
    rw [lines_cons hc (fun h => absurd h hreturn) hnewline]
    simp [chomp, hreturn]

/-- A newline ends the lines before it, whatever comes after. -/
theorem lines_append_cons_newline (t rest : Text) :
    lines (t ++ '\n' :: rest) = (t.split '\n').map chomp ++ lines rest := by
  induction t with
  | nil => simp [lines, split, chomp]
  | cons c cs ih =>
      by_cases hc : c = '\n'
      · simp [lines, split, hc, ih, chomp]
      · cases cs with
        | nil => simpa [split, hc] using lines_cons_newline hc rest
        | cons d ds =>
            by_cases hd : d = '\n'
            · subst hd
              have hrest :
                  lines (ds ++ '\n' :: rest) = (split '\n' ds).map chomp ++ lines rest := by
                simpa [lines, split, chomp] using ih
              simp [split, hc, lines_cons_newline hc, hrest]
            · obtain ⟨piece, pieces, hsplit⟩ := exists_split_cons '\n' ds
              rw [split_cons hd hsplit] at ih
              rw [split_cons hc (split_cons hd hsplit), List.map_cons, chomp_cons (by simp)]
              exact lines_cons hc (by simp [hd]) ih

theorem lines_of_notMem {t : Text} (h : '\n' ∉ t) (hne : t ≠ []) : lines t = [t] := by
  induction t with
  | nil => contradiction
  | cons c cs ih =>
      rw [List.mem_cons, not_or] at h
      cases cs with
      | nil =>
          rw [lines.eq_def]
          split <;> simp_all [lines]
      | cons d ds =>
          apply lines_cons (Ne.symm h.1) _ (ih h.2 (by simp))
          intro _ hd
          simp_all

theorem split_of_notMem {separator : Char} {t : Text} (h : separator ∉ t) :
    split separator t = [t] := by
  induction t with
  | nil => rfl
  | cons c cs ih =>
      rw [List.mem_cons, not_or] at h
      exact split_cons (Ne.symm h.1) (ih h.2)

theorem split_append_cons (separator : Char) (front back : Text) :
    split separator (front ++ separator :: back) =
      split separator front ++ split separator back := by
  induction front with
  | nil => simp [split]
  | cons c cs ih =>
      by_cases hc : c = separator
      · simp [split, hc, ih]
      · obtain ⟨piece, rest, hsplit⟩ := exists_split_cons separator cs
        rw [hsplit, List.cons_append] at ih
        rw [List.cons_append, split_cons hc ih, split_cons hc hsplit, List.cons_append]

/-- Lines are the pieces between newlines, without the last if it is empty. -/
theorem exists_pieces (t : Text) :
    ∃ front last, t.split '\n' = front ++ [last] ∧
      t.lines = front.map chomp ++ [last].filter (· ≠ []) := by
  have hlast : ∀ last : Text, '\n' ∉ last → lines last = [last].filter (· ≠ []) := by
    intro last hnewline
    by_cases hempty : last = []
    · simp [hempty, lines]
    · simp [hempty, lines_of_notMem hnewline hempty]
  by_cases hmem : '\n' ∈ t
  · obtain ⟨back, front, hsplit, hback⟩ := List.eq_append_cons_of_mem (List.mem_reverse.mpr hmem)
    have ht : t = front.reverse ++ '\n' :: back.reverse := by
      rw [← List.reverse_reverse t, hsplit]
      simp
    have hnewline : '\n' ∉ back.reverse := by simpa using hback
    refine ⟨split '\n' front.reverse, back.reverse, ?_, ?_⟩
    · rw [ht, split_append_cons, split_of_notMem hnewline]
    · rw [ht, lines_append_cons_newline, hlast _ hnewline]
  · exact ⟨[], t, split_of_notMem hmem, hlast t hmem⟩

/-- The first lines of a text are the lines of a beginning of it. -/
theorem exists_prefix_lines (t : Text) (n : Nat) :
    ∃ front : Text, front <+: t ∧ front.lines = t.lines.take n := by
  fun_induction lines t generalizing n with
  | case1 => exact ⟨[], List.prefix_rfl, by simp [lines]⟩
  | case2 cs ih =>
      cases n with
      | zero => exact ⟨[], List.nil_prefix, rfl⟩
      | succ n =>
          obtain ⟨front, hprefix, hlines⟩ := ih n
          exact ⟨'\r' :: '\n' :: front, by simpa using hprefix, by simp [lines, hlines]⟩
  | case3 cs ih =>
      cases n with
      | zero => exact ⟨[], List.nil_prefix, rfl⟩
      | succ n =>
          obtain ⟨front, hprefix, hlines⟩ := ih n
          exact ⟨'\n' :: front, by simpa using hprefix, by simp [lines, hlines]⟩
  | case4 c cs hreturn hnewline hcs ih =>
      cases n with
      | zero => exact ⟨[], List.nil_prefix, rfl⟩
      | succ n =>
          have hlines : lines (c :: cs) = [[c]] := by
            rw [lines, hcs]
            · exact hreturn
            · exact hnewline
          exact ⟨c :: cs, List.prefix_rfl, by simp [hlines]⟩
  | case5 c cs hreturn hnewline first rest hcs ih =>
      cases n with
      | zero => exact ⟨[], List.nil_prefix, rfl⟩
      | succ n =>
          obtain ⟨front, hprefix, hlines⟩ := ih (n + 1)
          rw [hcs, List.take_succ_cons] at hlines
          refine ⟨c :: front, by simpa using hprefix, lines_cons hnewline ?_ hlines⟩
          -- A newline that comes first in the beginning comes first in the text.
          rintro rfl hhead
          obtain ⟨back, rfl⟩ := hprefix
          obtain ⟨tail, rfl⟩ := List.head?_eq_some_iff.mp hhead
          exact hreturn _ rfl rfl

end IniSchema.Text
