import IniSchema.Number.Literal.Lemmas
import IniSchema.Proofs.Case
import IniSchema.Reading
import Mathlib.Data.List.Forall2
import Mathlib.Data.List.Induction
import Mathlib.Data.Nat.Digits.Defs

/-!
# Integer literals

An integer literal is made of digits, which a sign and a mark of their radix may precede.  Single
underscores may stand between digits, and any number of them after a mark.  A literal is read as the
number that it denotes, however many digits it has, if 64 bits hold that number.
-/

namespace IniSchema.Literal

/-! ## How integers are written -/

inductive Sign : Text → Bool → Prop
  | absent : Sign [] false
  | plus : Sign ['+'] false
  | minus : Sign ['-'] true

/-- The small letters that mark a radix other than ten. -/
def markedRadixes : List (Char × Nat) := [('x', 16), ('o', 8), ('b', 2)]

/-- The mark of a radix, with the underscores after it. -/
inductive Mark : Text → Nat → Prop
  | absent : Mark [] 10
  | marked {c : Char} {radix : Nat} (hc : (c.toLower, radix) ∈ markedRadixes) (underscores : Nat) :
      Mark ('0' :: c :: List.replicate underscores '_') radix

/-- A digit in either case, and its value. -/
def IsDigit (radix : Nat) (c : Char) (d : Nat) : Prop := d < radix ∧ c.toLower = Nat.digitChar d

/-- Digits with single underscores between some of them, and the values of the digits. -/
inductive Digits (radix : Nat) : Text → List Nat → Prop
  | single {c : Char} {d : Nat} (hc : IsDigit radix c d) : Digits radix [c] [d]
  | next {c : Char} {d : Nat} {t : Text} {ds : List Nat} (hc : IsDigit radix c d)
      (hrest : Digits radix t ds) : Digits radix (c :: t) (d :: ds)
  | separated {c : Char} {d : Nat} {t : Text} {ds : List Nat} (hc : IsDigit radix c d)
      (hrest : Digits radix t ds) : Digits radix (c :: '_' :: t) (d :: ds)

/-- The number that digits with these values denote. The last digit counts ones. -/
def positional (radix : Nat) (ds : List Nat) : Nat := Nat.ofDigits radix ds.reverse

/-- The text is an integer literal of the number. -/
inductive Denotes : Text → Int → Prop
  | written {sign mark body : Text} {negative : Bool} {radix : Nat} {ds : List Nat}
      (hsign : Sign sign negative) (hmark : Mark mark radix) (hbody : Digits radix body ds) :
      Denotes (sign ++ mark ++ body)
        (if negative then -(positional radix ds : Int) else positional radix ds)

/-! ## Digits -/

section Digits

variable {radix : Nat} {c : Char} {d : Nat} {t : Text} {ds : List Nat}

theorem positional_cons (radix d : Nat) (ds : List Nat) :
    positional radix (d :: ds) = d * radix ^ ds.length + positional radix ds := by
  simp only [positional, List.reverse_cons, Nat.ofDigits_append, Nat.ofDigits_singleton,
    List.length_reverse]
  rw [Nat.mul_comm, Nat.add_comm]

private theorem toLower_eq_underscore_iff (c : Char) : c.toLower = '_' ↔ c = '_' :=
  Unicode.toLower_eq_iff (by decide) c

/-- What digits look like, up to the largest radix. -/
private theorem digitChar_cases : ∀ d < 16,
    d < 10 ∧ (Nat.digitChar d).toNat = 48 + d ∨ 10 ≤ d ∧ (Nat.digitChar d).toNat = 87 + d := by
  decide

theorem digitValue?_eq_some_iff (hradix : radix ≤ 16) :
    digitValue? radix c = some d ↔ d < radix ∧ c = Nat.digitChar d := by
  have hdigit : c.isDigit = true ↔ 48 ≤ c.toNat ∧ c.toNat ≤ 57 := Char.isDigit_iff_toNat
  have hlower : c.isLower = true ↔ 97 ≤ c.toNat ∧ c.toNat ≤ 122 := by
    change (decide (97 ≤ c.val) && decide (c.val ≤ 122)) = true ↔ _
    rw [Bool.and_eq_true, decide_eq_true_iff, decide_eq_true_iff, UInt32.le_iff_toNat_le,
      UInt32.le_iff_toNat_le]
    rfl
  have hzero : '0'.toNat = 48 := rfl
  have ha : 'a'.toNat = 97 := rfl
  have hchar := digitChar_cases d
  simp only [digitValue?, Option.ite_none_right_eq_some, Option.some.injEq, hdigit, hlower,
    ← Char.toNat_inj]
  split
  · omega
  · split <;> omega

theorem isDigit_iff (hradix : radix ≤ 16) :
    IsDigit radix c d ↔ digitValue? radix c.toLower = some d :=
  (digitValue?_eq_some_iff hradix).symm

/-- Horner's rule. -/
theorem digitsFrom?_asciiLower_eq_some_iff (hradix : radix ≤ 16) {n m : Nat} :
    digitsFrom? radix m t.asciiLower = some n ↔
      ∃ ds, List.Forall₂ (IsDigit radix) t ds ∧
        n = m * radix ^ ds.length + positional radix ds := by
  induction t generalizing m with
  | nil => simp [Text.asciiLower, digitsFrom?, positional, eq_comm]
  | cons c t ih =>
      rw [Text.asciiLower_cons, digitsFrom?]
      simp only [List.forall₂_cons_left_iff]
      cases hc : digitValue? radix c.toLower with
      | none =>
          have hnone : ∀ d, ¬ IsDigit radix c d := by simp [isDigit_iff hradix, hc]
          simp [hnone]
      | some d =>
          have hsome : ∀ e, IsDigit radix c e ↔ d = e := by simp [isDigit_iff hradix, hc]
          simp only [ih, hsome]
          constructor
          · rintro ⟨ds, hds, rfl⟩
            refine ⟨d :: ds, ⟨d, ds, rfl, hds, rfl⟩, ?_⟩
            rw [positional_cons, List.length_cons, Nat.pow_succ]
            ring
          · rintro ⟨-, ⟨-, ds, rfl, hds, rfl⟩, rfl⟩
            refine ⟨ds, hds, ?_⟩
            rw [positional_cons, List.length_cons, Nat.pow_succ]
            ring

end Digits

/-! ## Underscores -/

section Underscores

variable {radix : Nat} {c : Char} {d : Nat} {t : Text} {ds : List Nat}

/-- Some underscore is not between two characters other than underscores. -/
def HasStray (t : Text) : Prop :=
  t.head? = some '_' ∨ t.getLast? = some '_' ∨ hasDoubledUnderscore t = true

theorem withoutUnderscores?_eq_some_iff {s : Text} :
    withoutUnderscores? t = some s ↔ ¬ HasStray t ∧ t.filter (· != '_') = s := by
  unfold withoutUnderscores? HasStray
  split <;> simp_all

theorem hasDoubledUnderscore_cons (c : Char) (t : Text) : hasDoubledUnderscore (c :: t) = true ↔
    c = '_' ∧ t.head? = some '_' ∨ hasDoubledUnderscore t = true := by
  cases t with
  | nil => simp [hasDoubledUnderscore]
  | cons c' t =>
      by_cases hc : c = '_'
      · by_cases hc' : c' = '_'
        · simp [hasDoubledUnderscore, hc, hc']
        · simp [hasDoubledUnderscore, hc, hc']
      · simp [hasDoubledUnderscore, hc]

theorem hasDoubledUnderscore_asciiLower (t : Text) :
    hasDoubledUnderscore t.asciiLower = hasDoubledUnderscore t := by
  rw [Bool.eq_iff_iff]
  induction t with
  | nil => rfl
  | cons c t ih =>
      rw [Text.asciiLower_cons, hasDoubledUnderscore_cons, hasDoubledUnderscore_cons, ih]
      simp [Text.asciiLower, toLower_eq_underscore_iff]

theorem hasStray_asciiLower (t : Text) : HasStray t.asciiLower ↔ HasStray t := by
  unfold HasStray
  rw [hasDoubledUnderscore_asciiLower]
  simp [Text.asciiLower, toLower_eq_underscore_iff]

theorem hasStray_cons (hc : c ≠ '_') (ht : t ≠ []) (hhead : t.head? ≠ some '_') :
    HasStray (c :: t) ↔ HasStray t := by
  unfold HasStray
  rw [hasDoubledUnderscore_cons, List.getLast?_cons_of_ne_nil ht]
  simp [hc, hhead]

/-- The underscore is stray after all if another one or nothing follows. -/
theorem hasStray_cons_underscore (hc : c ≠ '_') (ht : t ≠ []) :
    HasStray (c :: '_' :: t) ↔ HasStray t := by
  unfold HasStray
  rw [hasDoubledUnderscore_cons, hasDoubledUnderscore_cons, List.getLast?_cons_cons,
    List.getLast?_cons_of_ne_nil ht]
  by_cases hhead : t.head? = some '_' <;> simp [hc, hhead]

theorem IsDigit.ne {m : Char} (h : IsDigit radix c d) (hradix : radix ≤ 16)
    (hm : ∀ d < 16, Nat.digitChar d ≠ m.toLower) : c ≠ m := by
  rintro rfl
  exact hm d (Nat.lt_of_lt_of_le h.1 hradix) h.2.symm

theorem Digits.written (h : Digits radix t ds) (hradix : radix ≤ 16) : t ≠ [] ∧ ¬ HasStray t ∧
    List.Forall₂ (IsDigit radix) (t.filter (· != '_')) ds := by
  induction h with
  | single hc =>
      have hne : _ ≠ '_' := hc.ne hradix (by decide)
      simp [HasStray, hasDoubledUnderscore, hne, hc]
  | next hc hrest ih =>
      have hne : _ ≠ '_' := hc.ne hradix (by decide)
      obtain ⟨ht, hstray, hds⟩ := ih
      rw [hasStray_cons hne ht fun hhead => hstray (.inl hhead)]
      simp [hne, hstray, hc, hds]
  | separated hc hrest ih =>
      have hne : _ ≠ '_' := hc.ne hradix (by decide)
      obtain ⟨ht, hstray, hds⟩ := ih
      rw [hasStray_cons_underscore hne ht]
      simp [hne, hstray, hc, hds]

/-- Where the underscores are does not matter once none of them is stray. -/
theorem digits_iff (hradix : radix ≤ 16) : Digits radix t ds ↔
    t ≠ [] ∧ ¬ HasStray t ∧ List.Forall₂ (IsDigit radix) (t.filter (· != '_')) ds := by
  refine ⟨fun h => h.written hradix, ?_⟩
  rintro ⟨ht, hstray, hds⟩
  have hhead : ∀ {c : Char} {t : Text}, ¬ HasStray (c :: t) → c ≠ '_' := by
    rintro c t hstray rfl
    exact hstray (.inl rfl)
  induction t using List.twoStepInduction generalizing ds with
  | nil => exact absurd rfl ht
  | singleton c =>
      rw [List.filter_cons_of_pos (by simpa using hhead hstray)] at hds
      obtain ⟨d, rest, hc, hrest, rfl⟩ := List.forall₂_cons_left_iff.mp hds
      obtain rfl := List.forall₂_nil_left_iff.mp hrest
      exact .single hc
  | cons_cons c c' t ih ih' =>
      have hc := hhead hstray
      rw [List.filter_cons_of_pos (by simpa using hc)] at hds
      obtain ⟨d, rest, hdigit, hrest, rfl⟩ := List.forall₂_cons_left_iff.mp hds
      by_cases hc' : c' = '_'
      · subst hc'
        have hne : t ≠ [] := by
          rintro rfl
          exact hstray (.inr (.inl rfl))
        rw [hasStray_cons_underscore hc hne] at hstray
        rw [List.filter_cons_of_neg (by simp)] at hrest
        exact .separated hdigit (ih hne hstray hrest)
      · rw [hasStray_cons hc (List.cons_ne_nil _ _) (by simpa using hc')] at hstray
        exact .next hdigit (ih' c' (List.cons_ne_nil _ _) hstray hrest)

theorem filter_asciiLower (t : Text) :
    t.asciiLower.filter (· != '_') = Text.asciiLower (t.filter (· != '_')) := by
  have hkept : ((· != '_') ∘ Char.toLower : Char → Bool) = (· != '_') := by
    funext c
    simp [bne, Bool.beq_eq_decide_eq, toLower_eq_underscore_iff]
  rw [Text.asciiLower, List.filter_map, hkept]
  rfl

theorem filter_eq_nil_iff (hstray : ¬ HasStray t) : t.filter (· != '_') = [] ↔ t = [] := by
  cases t with
  | nil => simp
  | cons c t =>
      have hc : c ≠ '_' := by
        rintro rfl
        exact hstray (.inl rfl)
      simp [hc]

/-- Digits are read as the number that they denote, and nothing else is read as digits. -/
theorem digits?_asciiLower_eq_some_iff (hradix : radix ≤ 16) {n : Nat} :
    (withoutUnderscores? t.asciiLower).bind (digits? radix) = some n ↔
      ∃ ds, Digits radix t ds ∧ n = positional radix ds := by
  simp only [Option.bind_eq_some_iff, withoutUnderscores?_eq_some_iff, hasStray_asciiLower,
    filter_asciiLower, digits_iff hradix]
  have hempty : Text.asciiLower (t.filter (· != '_')) = [] ↔ t.filter (· != '_') = [] :=
    List.map_eq_nil_iff
  have hread := digitsFrom?_asciiLower_eq_some_iff (t := t.filter (· != '_')) hradix
    (n := n) (m := 0)
  simp only [Nat.zero_mul, Nat.zero_add] at hread
  constructor
  · rintro ⟨s, ⟨hstray, rfl⟩, hn⟩
    simp only [digits?, List.isEmpty_iff, hempty, filter_eq_nil_iff hstray,
      Option.ite_none_left_eq_some] at hn
    obtain ⟨ds, hds, hvalue⟩ := hread.mp hn.2
    exact ⟨ds, ⟨hn.1, hstray, hds⟩, hvalue⟩
  · rintro ⟨ds, ⟨ht, hstray, hds⟩, hn⟩
    refine ⟨_, ⟨hstray, rfl⟩, ?_⟩
    rw [digits?, if_neg (by simpa [hempty, filter_eq_nil_iff hstray] using ht), hread]
    exact ⟨ds, hds, hn⟩

end Underscores

/-! ## Signs and marks -/

section Marks

variable {radix : Nat} {negative : Bool} {ds : List Nat} {t sign mark body rest : Text}

theorem exists_sign (t : Text) :
    ∃ sign, Sign sign (splitSign t).1 ∧ t = sign ++ (splitSign t).2 := by
  unfold splitSign
  split
  · exact ⟨['-'], .minus, rfl⟩
  · exact ⟨['+'], .plus, rfl⟩
  · exact ⟨[], .absent, rfl⟩

theorem Sign.splitSign_append (h : Sign sign negative) (hminus : rest.head? ≠ some '-')
    (hplus : rest.head? ≠ some '+') : splitSign (sign ++ rest) = (negative, rest) := by
  cases h with
  | minus => rfl
  | plus => rfl
  | absent =>
      rw [List.nil_append]
      unfold splitSign
      split
      · exact absurd rfl hminus
      · exact absurd rfl hplus
      · rfl

theorem Mark.radix_le (h : Mark mark radix) : radix ≤ 16 := by
  cases h with
  | absent => omega
  | marked hc underscores =>
      have hle : ∀ m ∈ markedRadixes, m.2 ≤ 16 := by decide
      exact hle _ hc

private theorem exists_mark_of_marked {letter : Char} (hletter : (letter, radix) ∈ markedRadixes)
    (h : t.asciiLower = '0' :: letter :: rest) : ∃ mark body, Mark mark radix ∧ t = mark ++ body ∧
      rest.dropWhile (· == '_') = Text.asciiLower body := by
  obtain ⟨zero, t', rfl, hzero, ht'⟩ := List.map_eq_cons_iff.mp h
  obtain ⟨c, after, rfl, hc, rfl⟩ := List.map_eq_cons_iff.mp ht'
  have hzero' : zero = '0' := (Unicode.toLower_eq_iff (by decide) zero).mp hzero
  have hsame : ((· == '_') ∘ Char.toLower : Char → Bool) = (· == '_') := by
    funext c
    simp [Bool.beq_eq_decide_eq, toLower_eq_underscore_iff]
  have hunderscores : after.takeWhile (· == '_') =
      List.replicate (after.takeWhile (· == '_')).length '_' :=
    List.eq_replicate_of_mem fun b hb => by simpa using List.mem_takeWhile_imp hb
  refine ⟨'0' :: c :: after.takeWhile (· == '_'), after.dropWhile (· == '_'), ?_, ?_, ?_⟩
  · rw [hunderscores]
    exact .marked (by rwa [hc]) _
  · simp [hzero']
  · rw [List.dropWhile_map, hsame]
    rfl

theorem exists_mark (t : Text) : ∃ mark body, Mark mark (splitRadix t.asciiLower).1 ∧
    t = mark ++ body ∧ (splitRadix t.asciiLower).2 = Text.asciiLower body := by
  unfold splitRadix
  split
  · rename_i heq
    exact exists_mark_of_marked (by simp [markedRadixes]) heq
  · rename_i heq
    exact exists_mark_of_marked (by simp [markedRadixes]) heq
  · rename_i heq
    exact exists_mark_of_marked (by simp [markedRadixes]) heq
  · exact ⟨[], t, .absent, rfl, rfl⟩

theorem Digits.cases_of_mem (h : Digits radix t ds) {c : Char} (hc : c ∈ t) :
    c = '_' ∨ ∃ d, IsDigit radix c d := by
  induction h with
  | single hd =>
      rw [List.mem_singleton.mp hc]
      exact .inr ⟨_, hd⟩
  | next hd _ ih =>
      rcases List.mem_cons.mp hc with rfl | hc
      · exact .inr ⟨_, hd⟩
      · exact ih hc
  | separated hd _ ih =>
      rcases List.mem_cons.mp hc with rfl | hc
      · exact .inr ⟨_, hd⟩
      · rcases List.mem_cons.mp hc with rfl | hc
        · exact .inl rfl
        · exact ih hc

theorem Digits.exists_head (h : Digits radix t ds) :
    ∃ c d, t.head? = some c ∧ IsDigit radix c d := by
  cases h with
  | single hc => exact ⟨_, _, rfl, hc⟩
  | next hc _ => exact ⟨_, _, rfl, hc⟩
  | separated hc _ => exact ⟨_, _, rfl, hc⟩

/-- No decimal digit is a letter that marks a radix. -/
private theorem splitRadix_decimal (h : Digits 10 body ds) :
    splitRadix body.asciiLower = (10, body.asciiLower) := by
  have hletter : ∀ m ∈ markedRadixes, m.1 ∉ Text.asciiLower body := by
    intro m hm hmem
    obtain ⟨c, hc, hlower⟩ := List.mem_map.mp hmem
    have hnone : ∀ m ∈ markedRadixes, '_'.toLower ≠ m.1 ∧ ∀ d < 10, Nat.digitChar d ≠ m.1 := by
      decide
    rcases h.cases_of_mem hc with rfl | ⟨d, hd, hdigit⟩
    · exact (hnone m hm).1 hlower
    · exact (hnone m hm).2 d hd (hdigit.symm.trans hlower)
  unfold splitRadix
  split
  · rename_i heq
    exact absurd (heq ▸ by simp) (hletter ('x', 16) (by decide))
  · rename_i heq
    exact absurd (heq ▸ by simp) (hletter ('o', 8) (by decide))
  · rename_i heq
    exact absurd (heq ▸ by simp) (hletter ('b', 2) (by decide))
  · rfl

theorem Mark.splitRadix_append (h : Mark mark radix) (hbody : Digits radix body ds) :
    splitRadix (Text.asciiLower (mark ++ body)) = (radix, body.asciiLower) := by
  have hradix := h.radix_le
  cases h with
  | absent => exact splitRadix_decimal hbody
  | @marked c radix hc underscores =>
      have hdropped : (List.replicate underscores '_' ++ body.asciiLower).dropWhile (· == '_') =
          body.asciiLower := by
        have hstray : ¬ HasStray body.asciiLower := by
          rw [hasStray_asciiLower]
          exact (hbody.written hradix).2.1
        refine (Text.span_append (p := (· == '_')) body.asciiLower (by simp) ?_).2
        intro first hfirst
        rw [beq_eq_false_iff_ne]
        rintro rfl
        exact hstray (.inl hfirst)
      have hsplit : ∀ m ∈ markedRadixes, ∀ rest : Text,
          splitRadix ('0' :: m.1 :: rest) = (m.2, rest.dropWhile (· == '_')) := by
        simp [markedRadixes, splitRadix]
      have hlower : Text.asciiLower ('0' :: c :: List.replicate underscores '_' ++ body) =
          '0' :: c.toLower :: (List.replicate underscores '_' ++ body.asciiLower) := by
        simp [Text.asciiLower]
      rw [hlower, hsplit _ hc, hdropped]

theorem Mark.head?_ne (h : Mark mark radix) (hbody : Digits radix body ds) {m : Char}
    (hm : ∀ d < 16, Nat.digitChar d ≠ m.toLower) : (mark ++ body).head? ≠ some m := by
  have hradix := h.radix_le
  cases h with
  | absent =>
      obtain ⟨c, d, hhead, hdigit⟩ := hbody.exists_head
      rw [List.nil_append, hhead, ne_eq, Option.some.injEq]
      exact hdigit.ne hradix hm
  | marked hc underscores =>
      rw [List.cons_append, List.head?_cons, ne_eq, Option.some.injEq]
      rintro rfl
      exact hm 0 (by decide) (by decide)

end Marks

/-! ## Literals -/

/-- What is read as an integer is an integer literal of that number, and the other way round. -/
theorem integer?_eq_some_iff {t : Text} {i : Int} : integer? t = some i ↔ Denotes t i := by
  constructor
  · intro h
    obtain ⟨sign, hsign, hrest⟩ := exists_sign t
    obtain ⟨mark, body, hmark, hbody, hlower⟩ := exists_mark (splitSign t).2
    simp only [integer?, hlower] at h
    split at h
    · rename_i n hn
      obtain ⟨ds, hds, rfl⟩ := (digits?_asciiLower_eq_some_iff hmark.radix_le).mp hn
      cases h
      have hdenotes := Denotes.written hsign hmark hds
      rwa [List.append_assoc, ← hbody, ← hrest] at hdenotes
    · cases h
  · rintro ⟨hsign, hmark, hbody⟩
    have hminus := hmark.head?_ne hbody (m := '-') (by decide)
    have hplus := hmark.head?_ne hbody (m := '+') (by decide)
    have hdigits := (digits?_asciiLower_eq_some_iff hmark.radix_le).mpr ⟨_, hbody, rfl⟩
    rw [List.append_assoc, integer?, hsign.splitSign_append hminus hplus]
    simp only [hmark.splitRadix_append hbody, hdigits]

theorem Denotes.unique {t : Text} {i j : Int} (h : Denotes t i) (h' : Denotes t j) : i = j := by
  rw [← integer?_eq_some_iff] at h h'
  exact Option.some.inj (h.symm.trans h')

end IniSchema.Literal

namespace IniSchema

open Literal

/-- The numbers that 64 bits hold, sign included. -/
def InRange (i : Int) : Prop := -2 ^ 63 ≤ i ∧ i ≤ 2 ^ 63 - 1

theorem int64?_eq_some_iff {i : Int} {n : Int64} : int64? i = some n ↔ InRange i ∧ n.toInt = i := by
  unfold int64?
  rw [Option.ite_none_right_eq_some, Option.some.injEq]
  constructor
  · rintro ⟨⟨hlow, hhigh⟩, rfl⟩
    exact ⟨⟨hlow, by omega⟩, Int64.toInt_ofInt_of_le hlow hhigh⟩
  · rintro ⟨⟨hlow, hhigh⟩, rfl⟩
    exact ⟨⟨hlow, by omega⟩, Int64.ofInt_toInt n⟩

theorem int64?_eq_none_iff {i : Int} : int64? i = none ↔ ¬ InRange i := by
  unfold int64? InRange
  rw [ite_eq_right_iff]
  simp only [reduceCtorEq, imp_false]
  omega

/-- An integer literal denotes one number.  It is read as that number if 64 bits hold it and is out
of range otherwise, and nothing else is taken for an integer literal. -/
theorem integerLiteral?_iff (t : Text) :
    (∀ i j, Denotes t i → Denotes t j → i = j) ∧
    (∀ n, integerLiteral? t = some (.ok n) ↔ ∃ i, Denotes t i ∧ InRange i ∧ n.toInt = i) ∧
    (∀ m, integerLiteral? t = some (.error m) ↔
      m = .outOfRange ∧ ∃ i, Denotes t i ∧ ¬ InRange i) ∧
    (integerLiteral? t = none ↔ ∀ i, ¬ Denotes t i) := by
  unfold integerLiteral?
  simp only [int128?_bind_int64?, Option.map_eq_some_iff, Option.map_eq_none_iff,
    integer?_eq_some_iff]
  refine ⟨fun i j => Denotes.unique, ?_, ?_, ?_⟩
  · intro n
    refine exists_congr fun i => and_congr_right fun _ => ?_
    cases hi : int64? i with
    | some m =>
        rw [← int64?_eq_some_iff, hi]
        simp
    | none => simp [int64?_eq_none_iff.mp hi]
  · intro m
    rw [← exists_and_left]
    refine exists_congr fun i => ?_
    rw [← int64?_eq_none_iff]
    cases hi : int64? i with
    | some n => simp
    | none => simp [eq_comm, and_comm]
  · rw [Option.eq_none_iff_forall_ne_some]
    exact forall_congr' fun i => not_congr integer?_eq_some_iff

theorem integerLiteral?_iff_smallest :
    Denotes "-0X__8000_0000_0000_0000" (-2 ^ 63) ∧
      ∀ i, Denotes "-0X__8000_0000_0000_0000" i → i = -2 ^ 63 := by
  have hread : integerLiteral? "-0X__8000_0000_0000_0000" = some (.ok Int64.minValue) := by decide
  obtain ⟨hunique, hvalue, -, -⟩ := integerLiteral?_iff "-0X__8000_0000_0000_0000"
  obtain ⟨i, hdenotes, -, hi⟩ := (hvalue _).mp hread
  have hleast : i = -2 ^ 63 := hi.symm.trans (by decide)
  rw [hleast] at hdenotes
  exact ⟨hdenotes, fun j hj => hunique j _ hj hdenotes⟩

end IniSchema
