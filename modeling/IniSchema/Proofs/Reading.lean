import IniSchema.Proofs.Characters
import IniSchema.Proofs.Number.Float
import IniSchema.Proofs.Run
import IniSchema.Proofs.Text
import IniSchema.Reading

/-!
# Values read back from their texts

A value that is read has the type it is read for, and the text that it is shown as is read as the
same value.
-/

namespace IniSchema

/-! ## Types of what is read -/

namespace ValueType

/-- An integer comes from a literal, or from a decimal without a fraction. -/
theorem readInteger_eq_ok_iff {t : Text} {v : Value} : readInteger t = .ok v ↔
    ∃ n, v = .integer n ∧ (integerLiteral? t = some (.ok n) ∨ integerLiteral? t = none ∧
      ∃ x, Literal.float? t = some x ∧ (Binary64.wholePart? x).bind int64? = some n) := by
  unfold readInteger
  cases integerLiteral? t with
  | some result => cases result <;> simp [Except.map, eq_comm]
  | none =>
      cases Literal.float? t with
      | none => simp
      | some x => cases hn : (Binary64.wholePart? x).bind int64? <;> simp [hn, eq_comm]

theorem readFloat_eq_ok_iff {t : Text} {v : Value} : readFloat t = .ok v ↔
    ∃ x, v = .float x ∧ ((∃ n, integerLiteral? t = some (.ok n) ∧ x = Binary64.ofInt64 n) ∨
      integerLiteral? t = none ∧ Literal.float? t = some x) := by
  unfold readFloat
  cases integerLiteral? t with
  | some result => cases result <;> simp [Except.map, eq_comm]
  | none => cases Literal.float? t <;> simp [eq_comm]

theorem exists_boolean_of_readBoolean {t : Text} {v : Value} (h : readBoolean t = .ok v) :
    ∃ b, v = .boolean b := by
  unfold readBoolean at h
  simp only at h
  split at h
  · cases h
    exact ⟨_, rfl⟩
  · split at h
    · cases h
      exact ⟨_, rfl⟩
    · split at h
      · cases h
        exact ⟨_, rfl⟩
      · split at h
        · cases h
          exact ⟨_, rfl⟩
        · cases h

theorem isFinite_of_float? {t : Text} {x : Float} (h : Literal.float? t = some x) :
    Binary64.isFinite x = true := by
  obtain ⟨d, -, hx⟩ := Option.bind_eq_some_iff.mp h
  exact Binary64.isFinite_of_finite? hx

private theorem hasType_of_readInteger {t : Text} {v : Value} (h : readInteger t = .ok v) :
    v.hasType .integer := by
  obtain ⟨n, rfl, -⟩ := readInteger_eq_ok_iff.mp h
  rfl

private theorem hasType_of_readFloat {t : Text} {v : Value} (h : readFloat t = .ok v) :
    v.hasType .float := by
  obtain ⟨x, rfl, ⟨n, -, rfl⟩ | ⟨-, hx⟩⟩ := readFloat_eq_ok_iff.mp h
  · exact Binary64.isFinite_ofPattern _ _
  · exact isFinite_of_float? hx

private theorem hasType_of_readBoolean {t : Text} {v : Value} (h : readBoolean t = .ok v) :
    v.hasType .boolean := by
  obtain ⟨b, rfl⟩ := exists_boolean_of_readBoolean h
  rfl

theorem read_eq_ok_iff {type : ValueType} {t : Text} {v : Value} :
    type.read t = .ok v ↔ type.readTrimmed t.trim = .ok v := by
  unfold read
  cases type.readTrimmed t.trim <;> simp

theorem read_padded {type : ValueType} (t : Text) {before after : Text}
    (hbefore : ∀ c ∈ before, Unicode.isBlank c = true)
    (hafter : ∀ c ∈ after, Unicode.isBlank c = true) :
    type.read (before ++ t ++ after) = type.read t := by
  rw [read, read, Text.trim_padded t hbefore hafter]

theorem hasType_of_read {type : ValueType} {t : Text} {v : Value} (h : type.read t = .ok v) :
    v.hasType type := by
  have htrimmed := read_eq_ok_iff.mp h
  unfold readTrimmed at htrimmed
  split at htrimmed
  · cases htrimmed
    cases type <;> rfl
  · cases type with
    | string =>
        cases htrimmed
        rfl
    | integer => exact hasType_of_readInteger htrimmed
    | float => exact hasType_of_readFloat htrimmed
    | boolean => exact hasType_of_readBoolean htrimmed

private theorem mem_of_unwrapped? {t s : Text} (h : Value.unwrapped? t = some s) {c : Char}
    (hc : c ∈ s) : c ∈ t := by
  unfold Value.unwrapped? at h
  cases hdouble : Text.between? Value.doubleQuote Value.doubleQuote t with
  | some inner =>
      rw [hdouble] at h
      cases h
      exact Text.mem_of_between? hdouble hc
  | none =>
      rw [hdouble] at h
      exact Text.mem_of_between? h hc

theorem mem_of_read_string {type : ValueType} {t s : Text} (h : type.read t = .ok (.string s))
    {c : Char} (hc : c ∈ s) : c ∈ t := by
  have htype : type = .string := by
    have hstring := hasType_of_read h
    cases type with
    | string => rfl
    | integer => cases hstring
    | float => cases hstring
    | boolean => cases hstring
  have htrimmed := read_eq_ok_iff.mp h
  subst htype
  unfold readTrimmed at htrimmed
  split at htrimmed
  · cases htrimmed
  · simp only [Except.ok.injEq, Value.string.injEq] at htrimmed
    subst htrimmed
    cases hunwrapped : Value.unwrapped? t.trim with
    | some s =>
        rw [hunwrapped] at hc
        exact Text.mem_of_mem_trim (mem_of_unwrapped? hunwrapped hc)
    | none =>
        rw [hunwrapped] at hc
        exact Text.mem_of_mem_trim hc

end ValueType

/-! ## Texts of values -/

namespace Value

theorem isNullWord_of_head? {t : Text} {c : Char} (h : t.head? = some c) (hc : c.toLower ≠ 'n') :
    isNullWord t = false := by
  cases t with
  | nil => cases h
  | cons d t =>
      cases h
      simp [isNullWord, Text.equalsIgnoringAsciiCase, Text.asciiLower]
      grind

theorem display_string (s : Text) : display (.string s) =
    if needsQuotes s then doubleQuote :: s ++ [doubleQuote] else s := rfl

theorem needsQuotes_eq_false_iff {s : Text} : needsQuotes s = false ↔
    s ≠ [] ∧ s.trim = s ∧ isNullWord s = false ∧ unwrapped? s = none := by
  simp [needsQuotes, and_assoc]

theorem isFinite_of_hasType {x : Float} {type : ValueType} (h : (float x).hasType type) :
    Binary64.isFinite x = true := by
  cases type with
  | float => exact h
  | string => cases h
  | integer => cases h
  | boolean => cases h

private theorem char_of_mem_ofInt {i : Int} {c : Char} (hc : c ∈ Text.ofInt i) :
    Unicode.isBlank c = false ∧ c.toLower ≠ 'n' ∧ c ≠ '\n' := by
  rcases Literal.char_of_mem_ofInt hc with hdigit | rfl
  · refine ⟨Unicode.isBlank_of_isDigit hdigit, ?_, ?_⟩
    · rw [Literal.toLower_of_isDigit hdigit]
      rintro rfl
      simp at hdigit
    · rintro rfl
      simp at hdigit
  · decide

private theorem char_of_mem_render {x : Float} (h : Binary64.isFinite x = true) {c : Char}
    (hc : c ∈ FloatStyle.config.render x) :
    Unicode.isBlank c = false ∧ c.toLower ≠ 'n' ∧ c ≠ '\n' := by
  rcases FloatStyle.char_of_mem_render h hc with hdigit | rfl | rfl | rfl
  · refine ⟨Unicode.isBlank_of_isDigit hdigit, ?_, ?_⟩
    · rw [Literal.toLower_of_isDigit hdigit]
      rintro rfl
      simp at hdigit
    · rintro rfl
      simp at hdigit
  · decide
  · decide
  · decide

private theorem ofInt_ne_nil (i : Int) : Text.ofInt i ≠ [] := by
  cases i with
  | ofNat n => exact Literal.ofNat_ne_nil n
  | negSucc n => simp [Text.ofInt]

theorem isTrimmed_display {v : Value} {type : ValueType} (h : v.hasType type) :
    Text.IsTrimmed v.display ∧ v.display ≠ [] := by
  cases v with
  | null => exact ⟨Text.trim_eq_self_iff.mp (by decide), by decide⟩
  | boolean b =>
      cases b
      · exact ⟨Text.trim_eq_self_iff.mp (by decide), by decide⟩
      · exact ⟨Text.trim_eq_self_iff.mp (by decide), by decide⟩
  | integer i =>
      exact ⟨Text.isTrimmed_of_forall fun c hc => (char_of_mem_ofInt hc).1, ofInt_ne_nil _⟩
  | float x =>
      have hfinite := isFinite_of_hasType h
      exact ⟨Text.isTrimmed_of_forall fun c hc => (char_of_mem_render hfinite hc).1,
        FloatStyle.render_ne_nil hfinite⟩
  | string s =>
      rw [display_string]
      cases hquotes : needsQuotes s with
      | true => exact ⟨Text.isTrimmed_between s (by decide) (by decide), by simp⟩
      | false =>
          obtain ⟨hne, htrim, -, -⟩ := needsQuotes_eq_false_iff.mp hquotes
          exact ⟨Text.trim_eq_self_iff.mp htrim, hne⟩

theorem newline_notMem_display {v : Value} {type : ValueType} (h : v.hasType type)
    (hstring : ∀ s, v = .string s → '\n' ∉ s) : '\n' ∉ v.display := by
  cases v with
  | null => decide
  | boolean b => cases b <;> decide
  | integer i =>
      intro hmem
      exact (char_of_mem_ofInt hmem).2.2 rfl
  | float x =>
      have hfinite := isFinite_of_hasType h
      intro hmem
      exact (char_of_mem_render hfinite hmem).2.2 rfl
  | string s =>
      have hs := hstring s rfl
      rw [display_string]
      split
      · simp [hs, doubleQuote]
      · exact hs

/-! ## Reading them back -/

theorem readTrimmed_quoted {quote : Char} (hquote : quote = doubleQuote ∨ quote = singleQuote)
    (s : Text) : ValueType.string.readTrimmed (quote :: s ++ [quote]) = .ok (.string s) := by
  have hletter : quote.toLower ≠ 'n' := by rcases hquote with rfl | rfl <;> decide
  have hunwrapped : unwrapped? (quote :: s ++ [quote]) = some s := by
    have hinner : Text.between? quote quote (quote :: s ++ [quote]) = some s :=
      Text.between?_eq_some_iff.mpr rfl
    rcases hquote with rfl | rfl
    · rw [unwrapped?, hinner]
      rfl
    · have hother : Text.between? doubleQuote doubleQuote (singleQuote :: s ++ [singleQuote]) =
          none := by
        rw [Option.eq_none_iff_forall_ne_some]
        intro inner h
        cases Text.between?_eq_some_iff.mp h
      rw [unwrapped?, hother, hinner]
      rfl
  rw [ValueType.readTrimmed, isNullWord_of_head? rfl hletter, hunwrapped]
  rfl

private theorem readTrimmed_string (s : Text) :
    ValueType.string.readTrimmed (display (.string s)) = .ok (.string s) := by
  rw [display_string]
  -- A quoted text is unwrapped to `s`, one without quotes is left as it is.
  cases hquotes : needsQuotes s with
  | true => exact readTrimmed_quoted (.inl rfl) s
  | false =>
      obtain ⟨-, -, hnull, hunwrapped⟩ := needsQuotes_eq_false_iff.mp hquotes
      rw [if_neg (by simp), ValueType.readTrimmed, hnull, hunwrapped]
      rfl

private theorem readTrimmed_integer (i : Int64) :
    ValueType.integer.readTrimmed (display (.integer i)) = .ok (.integer i) := by
  have hnull : isNullWord (Text.ofInt i.toInt) = false := by
    cases htext : Text.ofInt i.toInt with
    | nil => exact absurd htext (ofInt_ne_nil _)
    | cons c rest =>
        have hc : c ∈ Text.ofInt i.toInt := by simp [htext]
        exact isNullWord_of_head? rfl (char_of_mem_ofInt hc).2.1
  have hrange : int64? i.toInt = some i := by
    have hlow := i.le_toInt
    have hhigh := i.toInt_lt
    rw [int64?, if_pos ⟨hlow, hhigh⟩, Int64.ofInt_toInt]
  rw [display, ValueType.readTrimmed, hnull]
  simp [ValueType.readInteger, integerLiteral?, Literal.integer?_ofInt, int128?_bind_int64?, hrange,
    Except.map]

private theorem readTrimmed_float {x : Float} (h : Binary64.isFinite x = true) :
    ValueType.float.readTrimmed (display (.float x)) = .ok (.float x) := by
  have hnull : isNullWord (FloatStyle.config.render x) = false := by
    cases htext : FloatStyle.config.render x with
    | nil => exact absurd htext (FloatStyle.render_ne_nil h)
    | cons c rest =>
        have hc : c ∈ FloatStyle.config.render x := by simp [htext]
        exact isNullWord_of_head? rfl (char_of_mem_render h hc).2.1
  rw [display, ValueType.readTrimmed, hnull]
  simp [ValueType.readFloat, integerLiteral?, FloatStyle.integer?_render h,
    FloatStyle.float?_render h]

private theorem readTrimmed_display {v : Value} {type : ValueType} (h : v.hasType type) :
    type.readTrimmed v.display = .ok v := by
  cases v with
  | null => cases type <;> rfl
  | string s =>
      cases type <;> simp [hasType] at h
      exact readTrimmed_string s
  | integer i =>
      cases type <;> simp [hasType] at h
      exact readTrimmed_integer i
  | float x =>
      cases type <;> simp [hasType] at h
      exact readTrimmed_float h
  | boolean b =>
      cases type <;> simp [hasType] at h
      cases b <;> rfl

theorem read_display {v : Value} {type : ValueType} (h : v.hasType type) :
    type.read v.display = .ok v := by
  rw [ValueType.read, Text.trim_eq_self_iff.mpr (isTrimmed_display h).1, readTrimmed_display h]

/-- Every value of a type is read back from its text, whatever white space is around it. -/
theorem read_padded_display {v : Value} {type : ValueType} (h : v.hasType type)
    {before after : Text} (hbefore : ∀ c ∈ before, Unicode.isBlank c = true)
    (hafter : ∀ c ∈ after, Unicode.isBlank c = true) :
    type.read (before ++ v.display ++ after) = .ok v := by
  rw [ValueType.read_padded v.display hbefore hafter]
  exact read_display h

theorem read_padded_display_none :
    ValueType.string.read "\t \"None\"\u3000\n" = .ok (.string "None") := by
  have hdisplay : "\t \"None\"\u3000\n".toList =
      "\t ".toList ++ display (.string "None") ++ "\u3000\n".toList := by decide
  have hbefore : ∀ c ∈ "\t ".toList, Unicode.isBlank c = true := List.all_eq_true.mp (by decide)
  have hafter : ∀ c ∈ "\u3000\n".toList, Unicode.isBlank c = true := List.all_eq_true.mp (by decide)
  rw [hdisplay]
  exact read_padded_display rfl hbefore hafter

end Value

end IniSchema
