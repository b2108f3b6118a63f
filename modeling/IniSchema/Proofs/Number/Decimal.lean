import IniSchema.Proofs.Number.Integer
import IniSchema.Proofs.Number.Unsigned

/-!
# Decimal literals

A decimal literal has digits with at most one point among, before or after them, and perhaps a sign
in front and an exponent behind.  Underscores may stand between two digits.  More is read as a
decimal: a second sign may follow the first, and underscores may stand between any two characters
after the first sign as long as no two of them are next to each other.
-/

namespace IniSchema.Literal

/-! ## How decimals are written -/

/-- Decimal digits without underscores, and their values. -/
def Plain (t : Text) (ds : List Nat) : Prop := List.Forall₂ (IsDigit 10) t ds

/-- Digits, perhaps with a point, their values and how many of them are behind the point. -/
inductive Mantissa : Text → List Nat → Nat → Prop
  | whole {t : Text} {ds : List Nat} (hdigits : Plain t ds) (hne : t ≠ []) : Mantissa t ds 0
  | pointed {whole fraction : Text} {ds es : List Nat} (hwhole : Plain whole ds)
      (hfraction : Plain fraction es) (hne : whole ++ fraction ≠ []) :
      Mantissa (whole ++ '.' :: fraction) (ds ++ es) es.length

inductive Exponent : Text → Int → Prop
  | absent : Exponent [] 0
  | written {c : Char} {sign digits : Text} {negative : Bool} {ds : List Nat}
      (hc : c = 'e' ∨ c = 'E') (hsign : Sign sign negative) (hdigits : Plain digits ds)
      (hne : digits ≠ []) :
      Exponent (c :: sign ++ digits)
        (if negative then -(positional 10 ds : Int) else positional 10 ds)

/-- A decimal without sign and underscores. -/
inductive Unsigned : Text → Decimal → Prop
  | written {mantissa tail : Text} {ds : List Nat} {places : Nat} {e : Int}
      (hmantissa : Mantissa mantissa ds places) (htail : Exponent tail e) :
      Unsigned (mantissa ++ tail) ⟨positional 10 ds, e - places⟩

/-- Every underscore is between two digits. -/
def SeparatesDigits (t : Text) : Prop :=
  ∀ before after, t = before ++ '_' :: after →
    (∃ c, before.getLast? = some c ∧ c.isDigit = true) ∧
      ∃ c, after.head? = some c ∧ c.isDigit = true

/-- The text is a decimal literal: whether it has a minus sign, and its magnitude. -/
inductive DecimalLiteral : Text → Bool → Decimal → Prop
  | written {sign body : Text} {negative : Bool} {d : Decimal} (hsign : Sign sign negative)
      (hbody : Unsigned (body.filter (· != '_')) d) (hseparates : SeparatesDigits (sign ++ body)) :
      DecimalLiteral (sign ++ body) negative d

/-- The text is read as a decimal. -/
inductive ReadableDecimal : Text → Bool → Decimal → Prop
  | written {sign body inner magnitude : Text} {negative turned : Bool} {d : Decimal}
      (hsign : Sign sign negative) (hstray : ¬ HasStray body) (hinner : Sign inner turned)
      (hsecond : sign = [] → inner = []) (hbody : body.filter (· != '_') = inner ++ magnitude)
      (hmagnitude : Unsigned magnitude d) :
      ReadableDecimal (sign ++ body) (negative != turned) d

def IsSign (c : Char) : Prop := c = '+' ∨ c = '-'

instance : DecidablePred IsSign := fun c => inferInstanceAs (Decidable (c = '+' ∨ c = '-'))

/-- A second sign follows the first. -/
def SignedTwice : Text → Prop
  | c :: c' :: _ => IsSign c ∧ IsSign c'
  | _ => False

instance : DecidablePred SignedTwice
  | c :: c' :: _ => inferInstanceAs (Decidable (IsSign c ∧ IsSign c'))
  | [] => isFalse id
  | [_] => isFalse id

/-! ## Digits -/

section Digits

variable {t : Text} {ds : List Nat}

theorem isDigit_iff_exists (c : Char) : c.isDigit = true ↔ ∃ d, IsDigit 10 c d := by
  constructor
  · intro h
    have hrange : 48 ≤ c.toNat ∧ c.toNat ≤ 57 := Char.isDigit_iff_toNat.mp h
    have hzero : '0'.toNat = 48 := rfl
    refine ⟨c.toNat - 48, (isDigit_iff (by decide)).mpr ?_⟩
    rw [toLower_of_isDigit h, digitValue?, if_pos h, hzero, if_pos (by omega)]
  · rintro ⟨d, hd, hc⟩
    have hplain : ∀ d < 10, (Nat.digitChar d).isDigit = true ∧
        ∀ n < 26,
          Char.ofNat (0x61 + n) = Nat.digitChar d ↔ Char.ofNat (0x41 + n) = Nat.digitChar d := by
      decide
    obtain ⟨hdigit, hletters⟩ := hplain d hd
    rwa [(Unicode.toLower_eq_iff hletters c).mp hc]

theorem Plain.allDigits (h : Plain t ds) : AllDigits t := by
  intro c hc
  obtain ⟨i, hi, rfl⟩ := List.mem_iff_getElem.mp hc
  exact (isDigit_iff_exists _).mpr ⟨_, h.get hi (h.length_eq ▸ hi)⟩

theorem AllDigits.exists_plain (h : AllDigits t) : ∃ ds, Plain t ds := by
  induction t with
  | nil => exact ⟨[], .nil⟩
  | cons c t ih =>
      obtain ⟨d, hd⟩ := (isDigit_iff_exists c).mp (h c List.mem_cons_self)
      obtain ⟨ds, hds⟩ := ih fun c hc => h c (List.mem_cons_of_mem _ hc)
      exact ⟨d :: ds, .cons hd hds⟩

theorem Plain.append {t' : Text} {ds' : List Nat} (h : Plain t ds) (h' : Plain t' ds') :
    Plain (t ++ t') (ds ++ ds') := List.rel_append h h'

theorem Plain.digitsFrom?_eq (h : Plain t ds) : digitsFrom? 10 0 t = some (positional 10 ds) := by
  rw [← asciiLower_of_digits h.allDigits, digitsFrom?_asciiLower_eq_some_iff (by decide)]
  exact ⟨ds, h, by rw [Nat.zero_mul, Nat.zero_add]⟩

theorem Plain.digits?_eq (h : Plain t ds) (hne : t ≠ []) :
    digits? 10 t = some (positional 10 ds) := by
  rw [digits?, if_neg (by simpa using hne), h.digitsFrom?_eq]

theorem Plain.digitsOrZero_eq (h : Plain t ds) : digitsOrZero t = positional 10 ds := by
  by_cases hne : t = []
  · subst hne
    cases h
    rfl
  · rw [digitsOrZero, h.digits?_eq hne, Option.getD_some]

theorem digits?_eq_some_iff {n : Nat} :
    digits? 10 t = some n ↔ t ≠ [] ∧ ∃ ds, Plain t ds ∧ n = positional 10 ds := by
  constructor
  · intro h
    have hne : t ≠ [] := by
      rintro rfl
      cases h
    have hdigits : AllDigits t := by
      intro c hc
      cases hvalue : digitValue? 10 c with
      | some d =>
          obtain ⟨hd, rfl⟩ := (digitValue?_eq_some_iff (by decide)).mp hvalue
          have hdigit : ∀ d < 10, (Nat.digitChar d).isDigit = true := by decide
          exact hdigit d hd
      | none =>
          rw [digits?, if_neg (by simpa using hne), digitsFrom?_eq_none hvalue hc] at h
          cases h
    obtain ⟨ds, hds⟩ := hdigits.exists_plain
    rw [hds.digits?_eq hne] at h
    exact ⟨hne, ds, hds, (Option.some.inj h).symm⟩
  · rintro ⟨hne, ds, hds, rfl⟩
    exact hds.digits?_eq hne

end Digits

/-! ## Magnitudes -/

section Magnitudes

variable {t mantissa tail : Text} {ds : List Nat} {places : Nat} {d : Decimal}

private theorem exponent?_eq (t : Text) : exponent? t = (digits? 10 (splitSign t).2).map
    fun (n : Nat) => if (splitSign t).1 then -(n : Int) else n := by
  unfold exponent?
  rcases splitSign t with ⟨negative, body⟩
  dsimp only
  cases digits? 10 body <;> rfl

theorem Plain.head?_ne (h : Plain t ds) {c : Char} (hc : c.isDigit = false) : t.head? ≠ some c := by
  intro hhead
  rw [h.allDigits c (List.mem_of_head? hhead)] at hc
  cases hc

theorem exponent?_eq_some_iff {e : Int} : exponent? t = some e ↔ ∃ sign digits negative ds,
    t = sign ++ digits ∧ Sign sign negative ∧ digits ≠ [] ∧ Plain digits ds ∧
      e = if negative then -(positional 10 ds : Int) else positional 10 ds := by
  rw [exponent?_eq]
  constructor
  · intro h
    obtain ⟨sign, hsign, hrest⟩ := exists_sign t
    obtain ⟨n, hn, rfl⟩ := Option.map_eq_some_iff.mp h
    obtain ⟨hne, ds, hds, rfl⟩ := digits?_eq_some_iff.mp hn
    exact ⟨sign, _, _, ds, hrest, hsign, hne, hds, rfl⟩
  · rintro ⟨sign, digits, negative, ds, rfl, hsign, hne, hds, rfl⟩
    have hsplit :=
      hsign.splitSign_append (hds.head?_ne (c := '-') rfl) (hds.head?_ne (c := '+') rfl)
    rw [hsplit, hds.digits?_eq hne, Option.map_some]

private theorem toLower_eq_e_iff (c : Char) : c.toLower = 'e' ↔ c = 'e' ∨ c = 'E' := by
  rcases Unicode.toLower_cases c with hsame | ⟨hrange, hlower⟩
  · rw [hsame]
    refine ⟨.inl, ?_⟩
    rintro (hc | rfl)
    · exact hc
    · exact absurd hsame (by decide)
  · have hsmall : 'e'.toNat = 0x65 := rfl
    have hlarge : 'E'.toNat = 0x45 := rfl
    simp only [← Char.toNat_inj]
    omega

/-- What is read after the digits and the point. -/
private theorem tail_eq_some_iff {digits places : Nat} : (match tail with
      | [] => some ⟨digits, -(places : Int)⟩
      | c :: r =>
          if c.toLower = 'e' then (exponent? r).map fun e => ⟨digits, e - places⟩ else none) =
        some d ↔ ∃ e, Exponent tail e ∧ d = ⟨digits, e - places⟩ := by
  cases tail with
  | nil =>
      constructor
      · rintro ⟨⟩
        exact ⟨0, .absent, by simp⟩
      · rintro ⟨e, ⟨⟩, rfl⟩
        simp
  | cons c r =>
      rw [Option.ite_none_right_eq_some, Option.map_eq_some_iff, toLower_eq_e_iff]
      constructor
      · rintro ⟨hc, e, he, rfl⟩
        obtain ⟨sign, digits, negative, ds, rfl, hsign, hne, hds, rfl⟩ :=
          exponent?_eq_some_iff.mp he
        exact ⟨_, .written hc hsign hds hne, rfl⟩
      · rintro ⟨e, htail, rfl⟩
        cases htail with
        | written hc hsign hds hne =>
            exact ⟨hc, _, exponent?_eq_some_iff.mpr ⟨_, _, _, _, rfl, hsign, hne, hds, rfl⟩, rfl⟩

private theorem unsigned?_pointed {whole fraction : Text} (hwhole : AllDigits whole)
    (hfraction : AllDigits fraction) (htail : ∀ c, tail.head? = some c → c.isDigit = false) :
    unsigned? (whole ++ '.' :: fraction ++ tail) = some d ↔ whole ++ fraction ≠ [] ∧
      ∃ e, Exponent tail e ∧ d = ⟨digitsOrZero (whole ++ fraction), e - fraction.length⟩ := by
  have hsplit := Text.span_append ('.' :: (fraction ++ tail)) hwhole (by simp)
  have hinner := Text.span_append tail hfraction htail
  have hnone : (List.isEmpty whole && List.isEmpty fraction) = true ↔ ¬ whole ++ fraction ≠ [] := by
    simp
  simp only [List.append_assoc, List.cons_append, unsigned?, hsplit.1, hsplit.2, hinner.1, hinner.2,
    hnone, Option.ite_none_left_eq_some, not_not]
  exact and_congr_right fun _ => tail_eq_some_iff

private theorem unsigned?_whole {whole : Text} (hwhole : AllDigits whole)
    (htail : ∀ c, tail.head? = some c → c.isDigit = false ∧ c ≠ '.') :
    unsigned? (whole ++ tail) = some d ↔ whole ≠ [] ∧
      ∃ e, Exponent tail e ∧ d = ⟨digitsOrZero whole, e - (0 : Nat)⟩ := by
  have hsplit := Text.span_append tail hwhole fun c hc => (htail c hc).1
  rw [unsigned?, hsplit.1, hsplit.2]
  split
  rename_i fraction rest heq
  split at heq
  · exact absurd rfl (htail '.' rfl).2
  · cases heq
    simp only [List.isEmpty_nil, Bool.and_true, List.isEmpty_iff, List.append_nil,
      Option.ite_none_left_eq_some]
    exact and_congr_right fun _ => tail_eq_some_iff

/-- What is behind the digits and the point does not go on with one of them. -/
theorem Exponent.head?_ne {e : Int} (h : Exponent tail e) {c : Char} (hc : tail.head? = some c) :
    c.isDigit = false ∧ c ≠ '.' := by
  cases h with
  | absent => cases hc
  | written hletter =>
      cases hc
      rcases hletter with rfl | rfl
      · decide
      · decide

private theorem exists_span (t : Text) : ∃ front rest, t = front ++ rest ∧ AllDigits front ∧
    ∀ c, List.head? rest = some c → c.isDigit = false := by
  refine ⟨t.takeWhile Char.isDigit, t.dropWhile Char.isDigit,
    List.takeWhile_append_dropWhile.symm, fun c hc => List.mem_takeWhile_imp hc, ?_⟩
  intro c hc
  have hstop := List.head?_dropWhile_not Char.isDigit t
  rw [hc] at hstop
  exact hstop

/-- What is read as a decimal without sign is one that is written so, and the other way round. -/
theorem unsigned?_eq_some_iff : unsigned? t = some d ↔ Unsigned t d := by
  constructor
  · intro h
    obtain ⟨whole, rest, rfl, hwhole, hrest⟩ := exists_span t
    obtain ⟨ds, hds⟩ := hwhole.exists_plain
    by_cases hpoint : rest.head? = some '.'
    · obtain ⟨after, rfl⟩ := List.head?_eq_some_iff.mp hpoint
      obtain ⟨fraction, tail, rfl, hfraction, htail⟩ := exists_span after
      obtain ⟨es, hes⟩ := hfraction.exists_plain
      rw [← List.cons_append, ← List.append_assoc] at h ⊢
      obtain ⟨hne, e, he, rfl⟩ := (unsigned?_pointed hwhole hfraction htail).mp h
      rw [(hds.append hes).digitsOrZero_eq, hes.length_eq]
      exact .written (.pointed hds hes hne) he
    · have htail : ∀ c, rest.head? = some c → c.isDigit = false ∧ c ≠ '.' := by
        intro c hc
        refine ⟨hrest c hc, ?_⟩
        rintro rfl
        exact hpoint hc
      obtain ⟨hne, e, he, rfl⟩ := (unsigned?_whole hwhole htail).mp h
      rw [hds.digitsOrZero_eq]
      exact .written (.whole hds hne) he
  · rintro ⟨hmantissa, htail⟩
    cases hmantissa with
    | whole hdigits hne =>
        rw [unsigned?_whole hdigits.allDigits fun c hc => htail.head?_ne hc,
          hdigits.digitsOrZero_eq]
        exact ⟨hne, _, htail, rfl⟩
    | pointed hwhole hfraction hne =>
        have hnext := fun c (hc : _ = some c) => (htail.head?_ne hc).1
        rw [unsigned?_pointed hwhole.allDigits hfraction.allDigits hnext,
          (hwhole.append hfraction).digitsOrZero_eq, hfraction.length_eq]
        exact ⟨hne, _, htail, rfl⟩

/-! The characters of magnitudes. -/

theorem Sign.isSign (h : Sign t negative) {c : Char} (hc : c ∈ t) : IsSign c := by
  cases h with
  | absent => cases hc
  | plus => exact .inl (List.mem_singleton.mp hc)
  | minus => exact .inr (List.mem_singleton.mp hc)

theorem IsSign.ne {c : Char} (h : IsSign c) : c.isDigit = false ∧ c ≠ '.' ∧ c ≠ '_' := by
  rcases h with rfl | rfl
  · decide
  · decide

theorem Mantissa.chars (h : Mantissa t ds places) {c : Char} (hc : c ∈ t) :
    c.isDigit = true ∨ c = '.' := by
  cases h with
  | whole hdigits _ => exact .inl (hdigits.allDigits c hc)
  | pointed hwhole hfraction _ =>
      simp only [List.mem_append, List.mem_cons] at hc
      rcases hc with hc | rfl | hc
      · exact .inl (hwhole.allDigits c hc)
      · exact .inr rfl
      · exact .inl (hfraction.allDigits c hc)

theorem Mantissa.exists_digit (h : Mantissa t ds places) : ∃ c ∈ t, c.isDigit = true := by
  cases h with
  | whole hdigits hne =>
      obtain ⟨c, hc⟩ := List.exists_mem_of_ne_nil _ hne
      exact ⟨c, hc, hdigits.allDigits c hc⟩
  | pointed hwhole hfraction hne =>
      obtain ⟨c, hc⟩ := List.exists_mem_of_ne_nil _ hne
      refine ⟨c, ?_, (hwhole.append hfraction).allDigits c hc⟩
      rw [List.mem_append, List.mem_cons]
      exact (List.mem_append.mp hc).imp_right .inr

theorem Exponent.chars {e : Int} (h : Exponent t e) {c : Char} (hc : c ∈ t) :
    c.isDigit = true ∨ c = 'e' ∨ c = 'E' ∨ IsSign c := by
  cases h with
  | absent => cases hc
  | written hletter hsign hdigits _ =>
      simp only [List.mem_append, List.mem_cons] at hc
      rcases hc with (rfl | hc) | hc
      · exact .inr (hletter.imp_right .inl)
      · exact .inr (.inr (.inr (hsign.isSign hc)))
      · exact .inl (hdigits.allDigits c hc)

theorem Unsigned.isDecimalChar (h : Unsigned t d) {c : Char} (hc : c ∈ t) :
    isDecimalChar c = true ∧ c ≠ '_' := by
  have hdigit : c.isDigit = true → Literal.isDecimalChar c = true ∧ c ≠ '_' := by
    intro hc
    refine ⟨by simp [Literal.isDecimalChar, hc], ?_⟩
    rintro rfl
    cases hc
  obtain ⟨hmantissa, htail⟩ := h
  rcases List.mem_append.mp hc with hc | hc
  · rcases hmantissa.chars hc with hc | rfl
    · exact hdigit hc
    · decide
  · rcases htail.chars hc with hc | rfl | rfl | rfl | rfl
    · exact hdigit hc
    · decide
    · decide
    · decide
    · decide

theorem Unsigned.exists_digit (h : Unsigned t d) : ∃ c ∈ t, c.isDigit = true := by
  obtain ⟨hmantissa, -⟩ := h
  obtain ⟨c, hc, hdigit⟩ := hmantissa.exists_digit
  exact ⟨c, List.mem_append_left _ hc, hdigit⟩

theorem Unsigned.not_isSign (h : Unsigned t d) {c : Char} (hc : t.head? = some c) : ¬ IsSign c := by
  cases h with
  | @written mantissa tail _ _ _ hmantissa _ =>
      have hmem : c ∈ mantissa := by
        obtain ⟨first, hfirst, -⟩ := hmantissa.exists_digit
        rw [List.head?_append_of_ne_nil _ (List.ne_nil_of_mem hfirst)] at hc
        exact List.mem_of_head? hc
      intro hsign
      obtain ⟨hdigit, hpoint, -⟩ := hsign.ne
      rcases hmantissa.chars hmem with h | h
      · rw [hdigit] at h
        cases h
      · exact hpoint h

end Magnitudes

/-! ## Whole decimals -/

section Wholes

variable {t sign body : Text} {negative : Bool} {d : Decimal}

/-- Without a stray underscore the first character stays when the underscores go. -/
theorem head?_filter_of_not_hasStray (h : ¬ HasStray t) :
    (t.filter (· != '_')).head? = t.head? := by
  cases t with
  | nil => rfl
  | cons c t =>
      have hc : c ≠ '_' := by
        rintro rfl
        exact h (.inl rfl)
      simp [hc]

theorem not_isSign_of_splitSign_eq (h : (splitSign t).2 = t) {c : Char} (hc : t.head? = some c) :
    ¬ IsSign c := by
  obtain ⟨rest, rfl⟩ := List.head?_eq_some_iff.mp hc
  have hlength : rest ≠ c :: rest := List.ne_cons_self
  rintro (rfl | rfl)
  · exact hlength h
  · exact hlength h

theorem splitSign_of_not_isSign (h : ∀ c, t.head? = some c → ¬ IsSign c) :
    splitSign t = (false, t) := by
  unfold splitSign
  split
  · exact absurd (.inr rfl) (h '-' rfl)
  · exact absurd (.inl rfl) (h '+' rfl)
  · rfl

theorem Sign.splitSign_append_of_absent (h : Sign sign negative)
    (hbody : sign = [] → ∀ c, body.head? = some c → ¬ IsSign c) :
    splitSign (sign ++ body) = (negative, body) := by
  cases h with
  | plus => rfl
  | minus => rfl
  | absent => exact splitSign_of_not_isSign (hbody rfl)

theorem ReadableDecimal.isDecimalChar (h : ReadableDecimal t negative d) {c : Char} (hc : c ∈ t) :
    isDecimalChar c = true := by
  have hsigns : ∀ {c}, IsSign c → Literal.isDecimalChar c = true := by
    rintro c (rfl | rfl)
    · decide
    · decide
  cases h with
  | @written sign body inner magnitude _ _ _ hsign _ hinner _ hbody hread =>
      rcases List.mem_append.mp hc with hc | hc
      · exact hsigns (hsign.isSign hc)
      · by_cases hunderscore : c = '_'
        · rw [hunderscore]
          decide
        · have hkept : c ∈ body.filter (· != '_') :=
            List.mem_filter.mpr ⟨hc, by simpa using hunderscore⟩
          rw [hbody] at hkept
          rcases List.mem_append.mp hkept with hc | hc
          · exact hsigns (hinner.isSign hc)
          · exact (hread.isDecimalChar hc).1

theorem ReadableDecimal.exists_digit (h : ReadableDecimal t negative d) :
    ∃ c ∈ t, c.isDigit = true := by
  cases h with
  | @written sign body inner magnitude _ _ _ _ _ _ _ hbody hread =>
      obtain ⟨c, hc, hdigit⟩ := hread.exists_digit
      have hmem : c ∈ body.filter (· != '_') := hbody ▸ List.mem_append_right inner hc
      exact ⟨c, List.mem_append_right _ (List.mem_of_mem_filter hmem), hdigit⟩

/-- A sign that is first without the underscores is first with them. -/
theorem exists_sign_head {inner magnitude : Text} {turned : Bool} (hstray : ¬ HasStray body)
    (hinner : Sign inner turned) (hbody : body.filter (· != '_') = inner ++ magnitude)
    (hne : inner ≠ []) : ∃ c, body.head? = some c ∧ IsSign c := by
  obtain ⟨c, rest, rfl⟩ := List.exists_cons_of_ne_nil hne
  refine ⟨c, ?_, hinner.isSign List.mem_cons_self⟩
  rw [← head?_filter_of_not_hasStray hstray, hbody, List.cons_append, List.head?_cons]

private theorem readableDecimal_of_decimal? (h : decimal? t = some (negative, d)) :
    ReadableDecimal t negative d := by
  obtain ⟨sign, hsign, ht⟩ := exists_sign t
  unfold decimal? at h
  dsimp only at h
  rw [Option.ite_none_right_eq_some, Option.bind_eq_some_iff] at h
  obtain ⟨-, cleaned, hcleaned, hread⟩ := h
  obtain ⟨hstray, hfilter⟩ := withoutUnderscores?_eq_some_iff.mp hcleaned
  obtain ⟨inner, hinner, hmagnitude⟩ := exists_sign cleaned
  obtain ⟨d', hd', heq⟩ := Option.map_eq_some_iff.mp hread
  rw [hmagnitude] at hfilter
  have hsecond : sign = [] → inner = [] := by
    rintro rfl
    by_contra hne
    obtain ⟨c, hhead, hc⟩ := exists_sign_head hstray hinner hfilter hne
    rw [List.nil_append] at ht
    exact not_isSign_of_splitSign_eq ht.symm ((congrArg List.head? ht).trans hhead) hc
  have hdecimal := ReadableDecimal.written hsign hstray hinner hsecond hfilter
    (unsigned?_eq_some_iff.mp hd')
  cases heq
  rwa [← ht] at hdecimal

private theorem ReadableDecimal.decimal?_eq (h : ReadableDecimal t negative d) :
    decimal? t = some (negative, d) := by
  have hchars := fun c => h.isDecimalChar (c := c)
  cases h with
  | @written sign body inner magnitude _ _ d hsign hstray hinner hsecond hbody hread =>
      have hany : body.any Char.isDigit = true := by
        obtain ⟨c, hc, hdigit⟩ := hread.exists_digit
        have hmem : c ∈ body.filter (· != '_') := hbody ▸ List.mem_append_right inner hc
        exact List.any_eq_true.mpr ⟨c, List.mem_of_mem_filter hmem, hdigit⟩
      have hall : body.all Literal.isDecimalChar = true :=
        List.all_eq_true.mpr fun c hc => hchars c (List.mem_append_right _ hc)
      have hfirst : sign = [] → ∀ c, body.head? = some c → ¬ IsSign c := by
        intro hnone c hc
        rw [← head?_filter_of_not_hasStray hstray, hbody, hsecond hnone, List.nil_append] at hc
        exact hread.not_isSign hc
      unfold decimal?
      rw [hsign.splitSign_append_of_absent hfirst]
      dsimp only
      rw [hany, hall, Bool.and_self, if_pos rfl,
        withoutUnderscores?_eq_some_iff.mpr ⟨hstray, hbody⟩, Option.bind_some,
        hinner.splitSign_append_of_absent fun _ _ hc => hread.not_isSign hc]
      simp only [unsigned?_eq_some_iff.mpr hread, Option.map_some]

/-- What is read as a decimal is a readable one, and the other way round. -/
theorem decimal?_eq_some_iff : decimal? t = some (negative, d) ↔ ReadableDecimal t negative d :=
  ⟨readableDecimal_of_decimal?, ReadableDecimal.decimal?_eq⟩

/-! Literals among the readable decimals. -/

private theorem exists_of_hasDoubledUnderscore (h : hasDoubledUnderscore t = true) :
    ∃ before after, t = before ++ '_' :: '_' :: after := by
  induction t with
  | nil => cases h
  | cons c t ih =>
      rcases (hasDoubledUnderscore_cons c t).mp h with ⟨rfl, hhead⟩ | h
      · obtain ⟨after, rfl⟩ := List.head?_eq_some_iff.mp hhead
        exact ⟨[], after, rfl⟩
      · obtain ⟨before, after, rfl⟩ := ih h
        exact ⟨c :: before, after, rfl⟩

theorem separatesDigits_of_notMem (h : '_' ∉ t) : SeparatesDigits t := by
  rintro before after rfl
  exact absurd (List.mem_append_right _ List.mem_cons_self) h

theorem decimalLiteral_of_unsigned (hsign : Sign sign negative) (hbody : Unsigned body d) :
    DecimalLiteral (sign ++ body) negative d := by
  have hkept : body.filter (· != '_') = body :=
    List.filter_eq_self.mpr fun c hc => bne_iff_ne.mpr (hbody.isDecimalChar hc).2
  refine .written hsign (by rwa [hkept]) (separatesDigits_of_notMem ?_)
  rw [List.mem_append]
  rintro (hc | hc)
  · exact (hsign.isSign hc).ne.2.2 rfl
  · exact (hbody.isDecimalChar hc).2 rfl

theorem SeparatesDigits.not_hasStray (h : SeparatesDigits t) : ¬ HasStray t := by
  rintro (hhead | hlast | hdoubled)
  · obtain ⟨after, rfl⟩ := List.head?_eq_some_iff.mp hhead
    obtain ⟨⟨c, hc, -⟩, -⟩ := h [] after rfl
    cases hc
  · obtain ⟨before, rfl⟩ := List.getLast?_eq_some_iff.mp hlast
    obtain ⟨-, c, hc, -⟩ := h before [] rfl
    cases hc
  · obtain ⟨before, after, rfl⟩ := exists_of_hasDoubledUnderscore hdoubled
    obtain ⟨-, c, hc, hdigit⟩ := h before ('_' :: after) rfl
    cases hc
    cases hdigit

theorem SeparatesDigits.of_append (h : SeparatesDigits (sign ++ body))
    (hsign : Sign sign negative) : SeparatesDigits body := by
  rintro before after rfl
  obtain ⟨⟨c, hc, hdigit⟩, hafter⟩ := h (sign ++ before) after (by rw [List.append_assoc])
  refine ⟨?_, hafter⟩
  by_cases hbefore : before = []
  · rw [hbefore, List.append_nil] at hc
    rw [(hsign.isSign (List.mem_of_getLast? hc)).ne.1] at hdigit
    cases hdigit
  · rw [List.getLast?_append_of_ne_nil _ hbefore] at hc
    exact ⟨c, hc, hdigit⟩

theorem Sign.not_signedTwice (h : Sign sign negative)
    (hbody : ∀ c, body.head? = some c → ¬ IsSign c) : ¬ SignedTwice (sign ++ body) := by
  intro htwice
  cases body with
  | nil => cases h <;> cases htwice
  | cons c rest =>
      have hc := hbody c rfl
      cases h with
      | plus => exact hc htwice.2
      | minus => exact hc htwice.2
      | absent =>
          cases rest with
          | nil => cases htwice
          | cons c' rest => exact hc htwice.1

/-- Readable decimals are literals unless they have a second sign or an underscore in another place
than between digits. -/
theorem decimalLiteral_iff : DecimalLiteral t negative d ↔
    ReadableDecimal t negative d ∧ ¬ SignedTwice t ∧ SeparatesDigits t := by
  constructor
  · rintro ⟨hsign, hbody, hseparates⟩
    have hstray := (hseparates.of_append hsign).not_hasStray
    refine ⟨?_, ?_, hseparates⟩
    · have hreadable := ReadableDecimal.written hsign hstray .absent (fun _ => rfl)
        (List.nil_append _).symm hbody
      rwa [Bool.bne_false] at hreadable
    · exact hsign.not_signedTwice fun c hc =>
        hbody.not_isSign ((head?_filter_of_not_hasStray hstray).trans hc)
  · rintro ⟨hreadable, htwice, hseparates⟩
    cases hreadable with
    | @written sign body inner magnitude _ _ d hsign hstray hinner hsecond hbody hread =>
        have hnone : inner = [] := by
          by_contra hne
          obtain ⟨c, hhead, hc⟩ := exists_sign_head hstray hinner hbody hne
          obtain ⟨after, rfl⟩ := List.head?_eq_some_iff.mp hhead
          cases hsign with
          | absent => exact hne (hsecond rfl)
          | plus => exact htwice ⟨.inl rfl, hc⟩
          | minus => exact htwice ⟨.inr rfl, hc⟩
        subst hnone
        cases hinner
        rw [Bool.bne_false]
        rw [List.nil_append] at hbody
        exact .written hsign (hbody ▸ hread) hseparates

end Wholes

end IniSchema.Literal
