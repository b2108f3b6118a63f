import IniSchema.Proofs.Characters
import Mathlib.Data.List.Forall2

/-!
# Layout of texts

Texts with the same content on other lines: with lines put in between, with other white space around
the lines, and with carriage returns.  The lines are the pieces between newlines, so that what comes
after the last newline is one of them.
-/

namespace IniSchema.Text

open Unicode

/-- The second text has the first one's lines, one by one with the relation. -/
def Linewise (R : Text → Text → Prop) (t t' : Text) : Prop :=
  List.Forall₂ R (t.split '\n') (t'.split '\n')

/-- The second text is the first with lines put in after its first `n`. -/
def Inserted (n : Nat) (extra : List Text) (t t' : Text) : Prop :=
  ∃ front back, t.split '\n' = front ++ back ∧ front.length = n ∧
    t'.split '\n' = front ++ extra ++ back

/-- The number that a line has once `count` lines are put in after the first `n`. -/
def numberAfter (n count line : Nat) : Nat := if line ≤ n then line else line + count

/-- The line is blank, or its first character that is not white space is one of the marks. -/
def BlankOrMarked (marks line : Text) : Prop := ∀ c, line.trimStart.head? = some c → c ∈ marks

/-- The text with a carriage return before each newline. -/
def withReturns (t : Text) : Text := t.flatMap fun c => if c = '\n' then ['\r', '\n'] else [c]

/-- The `count` numbers from `n` on become those from `m` on. -/
def Consecutive (number : Nat → Nat) (n m count : Nat) : Prop :=
  ∀ i < count, number (n + i) = m + i

theorem consecutive_succ {number : Nat → Nat} {n m count : Nat} :
    Consecutive number n m (count + 1) ↔
      number n = m ∧ Consecutive number (n + 1) (m + 1) count := by
  unfold Consecutive
  constructor
  · intro h
    refine ⟨h 0 (Nat.succ_pos count), ?_⟩
    intro i hi
    have hnext := h (i + 1) (Nat.succ_lt_succ hi)
    rwa [← Nat.add_assoc, ← Nat.add_assoc, Nat.add_right_comm, Nat.add_right_comm m] at hnext
  · rintro ⟨hfirst, hrest⟩ i hi
    cases i with
    | zero => exact hfirst
    | succ i =>
        have hnext := hrest i (Nat.lt_of_succ_lt_succ hi)
        rwa [Nat.add_right_comm, Nat.add_right_comm m] at hnext

theorem consecutive_numberAfter_front (n count : Nat) :
    Consecutive (numberAfter n count) 1 1 n := by
  intro i hi
  rw [numberAfter, if_pos (by omega)]

theorem consecutive_numberAfter_back (n count rest : Nat) :
    Consecutive (numberAfter n count) (1 + n) (1 + n + count) rest := by
  intro i hi
  rw [numberAfter, if_neg (by omega)]
  omega

theorem Linewise.imp {R S : Text → Text → Prop} {t t' : Text} (h : Linewise R t t')
    (hRS : ∀ line line', R line line' → S line line') : Linewise S t t' :=
  List.Forall₂.imp hRS h

theorem head?_trim {t : Text} (h : t.trim ≠ []) : t.trim.head? = t.trimStart.head? := by
  obtain ⟨rest, hrest⟩ := trimEnd_prefix t.trimStart
  conv_rhs => rw [← hrest]
  exact (List.head?_append_of_ne_nil _ h).symm

theorem BlankOrMarked.trim {marks line : Text} (h : BlankOrMarked marks line) :
    line.trim = [] ∨ ∃ c ∈ marks, line.trim.head? = some c := by
  by_cases hempty : line.trim = []
  · exact .inl hempty
  · right
    obtain ⟨c, hc⟩ := Option.isSome_iff_exists.mp (List.isSome_head?.mpr hempty)
    exact ⟨c, h c (head?_trim hempty ▸ hc), hc⟩

theorem byteLength_append (t u : Text) : byteLength (t ++ u) = t.byteLength + u.byteLength := by
  induction t with
  | nil => simp [byteLength]
  | cons c cs ih =>
      unfold byteLength at ih ⊢
      rw [List.cons_append, List.foldr_cons, List.foldr_cons, ih, Nat.add_assoc]

/-! ## White space at the end of a line -/

theorem exists_append_trimEnd (t : Text) :
    ∃ after, t = t.trimEnd ++ after ∧ ∀ c ∈ after, isBlank c = true := by
  refine ⟨(t.reverse.takeWhile isBlank).reverse, ?_, ?_⟩
  · rw [trimEnd, ← List.reverse_append, List.takeWhile_append_dropWhile, List.reverse_reverse]
  · intro c hc
    exact List.mem_takeWhile_imp (List.mem_reverse.mp hc)

theorem trim_trimEnd (t : Text) : t.trimEnd.trim = t.trim := by
  obtain ⟨after, ht, hafter⟩ := exists_append_trimEnd t
  conv_rhs => rw [ht]
  exact (trim_padded t.trimEnd (List.forall_mem_nil _) hafter).symm

theorem trim_of_trimEnd_eq {t t' : Text} (h : t'.trimEnd = t.trimEnd) : t'.trim = t.trim := by
  rw [← trim_trimEnd t', h, trim_trimEnd]

theorem trim_chomp (line : Text) : line.chomp.trim = line.trim := by
  unfold chomp
  split
  · rename_i hlast
    obtain ⟨front, rfl⟩ := List.getLast?_eq_some_iff.mp hlast
    have hreturn : isBlank '\r' = true := by decide
    rw [List.dropLast_concat]
    exact (trim_padded front (List.forall_mem_nil _) (by simp [hreturn])).symm
  · rfl

theorem linewise_withReturns (t : Text) :
    Linewise (fun line line' => line' = line ∨ line' = line ++ ['\r']) t t.withReturns := by
  induction t with
  | nil => exact .cons (.inl rfl) .nil
  | cons c cs ih =>
      unfold Linewise at ih ⊢
      by_cases hc : c = '\n'
      · have hreturns : withReturns (c :: cs) = '\r' :: '\n' :: withReturns cs := by
          simp [withReturns, hc]
        rw [hreturns, hc]
        exact .cons (.inr rfl) ih
      · have hreturns : withReturns (c :: cs) = c :: withReturns cs := by
          simp [withReturns, hc]
        obtain ⟨piece, rest, hsplit⟩ := exists_split_cons '\n' cs
        obtain ⟨piece', rest', hsplit'⟩ := exists_split_cons '\n' (withReturns cs)
        rw [hsplit, hsplit'] at ih
        rw [hreturns, split_cons hc hsplit, split_cons hc hsplit']
        cases ih with
        | cons hpiece hrest =>
            exact .cons (hpiece.imp (congrArg (c :: ·)) (congrArg (c :: ·))) hrest

/-- A carriage return is white space at the end of a line. -/
theorem linewise_trimEnd_withReturns (t : Text) :
    Linewise (fun line line' => line'.trimEnd = line.trimEnd) t t.withReturns := by
  have hreturn : isBlank '\r' = true := by decide
  apply (linewise_withReturns t).imp
  rintro line line' (rfl | rfl)
  · rfl
  · exact trimEnd_append_blank line (by simp [hreturn])

end IniSchema.Text
