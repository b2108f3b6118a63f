import IniSchema.Proofs.Source.Steps

/-!
# Lines without indentation

A reader takes trimmed lines one by one: no line continues the one before.  `Reaches` composes
what the reader makes of lists of lines, whatever their numbers are.
-/

namespace IniSchema.Source.Reader

open Unicode

/-! ## Lists of lines -/

/-- The lines are read to a reader with the property. -/
def Reaches (r : Reader) (lines : List Text) (P : Reader → Prop) : Prop :=
  ∀ numbered : List (Text × Nat), numbered.map Prod.fst = lines →
    ∃ r', r.readLines numbered = .ok r' ∧ P r'

variable {r : Reader} {P Q : Reader → Prop}

theorem Reaches.nil (h : P r) : r.Reaches [] P := by
  intro numbered hnumbered
  rw [List.map_eq_nil_iff.mp hnumbered]
  exact ⟨r, rfl, h⟩

theorem Reaches.cons {line : Text} {lines : List Text}
    (h : ∀ number, ∃ r', r.step number line = .ok r' ∧ r'.Reaches lines P) :
    r.Reaches (line :: lines) P := by
  intro numbered hnumbered
  obtain ⟨⟨raw, number⟩, rest, rfl, rfl, hrest⟩ := List.map_eq_cons_iff.mp hnumbered
  obtain ⟨r', hstep, hreaches⟩ := h number
  obtain ⟨out, hread, hout⟩ := hreaches rest hrest
  refine ⟨out, ?_, hout⟩
  rw [readLines, hstep]
  exact hread

theorem Reaches.append {lines more : List Text} (h : r.Reaches lines P)
    (hmore : ∀ r', P r' → r'.Reaches more Q) : r.Reaches (lines ++ more) Q := by
  intro numbered hnumbered
  obtain ⟨front, back, rfl, hfront, hback⟩ := List.map_eq_append_iff.mp hnumbered
  obtain ⟨r', hread, hP⟩ := h front hfront
  obtain ⟨out, hout, hQ⟩ := hmore r' hP back hback
  refine ⟨out, ?_, hQ⟩
  rw [readLines_eq_foldlM] at hread hout ⊢
  rw [List.foldlM_append, hread]
  exact hout

theorem Reaches.imp {lines : List Text} (h : r.Reaches lines P) (hPQ : ∀ r', P r' → Q r') :
    r.Reaches lines Q := by
  intro numbered hnumbered
  obtain ⟨r', hread, hP⟩ := h numbered hnumbered
  exact ⟨r', hread, hPQ r' hP⟩

theorem Reaches.flatMap {α : Type} {write : α → List Text} {items : List α}
    (invariant : List α → Reader → Prop) (start : invariant [] r)
    (next : ∀ before item after, items = before ++ item :: after →
      ∀ r', invariant before r' → r'.Reaches (write item) (invariant (before ++ [item]))) :
    r.Reaches (items.flatMap write) (invariant items) := by
  have hrest : ∀ (rest before : List α) (r' : Reader), items = before ++ rest →
      invariant before r' → r'.Reaches (rest.flatMap write) (invariant items) := by
    intro rest
    induction rest with
    | nil =>
        intro before r' hitems h
        rw [hitems, List.append_nil]
        exact .nil h
    | cons item rest ih =>
        intro before r' hitems h
        rw [List.flatMap_cons]
        apply (next before item rest hitems r' h).append
        intro r'' h'
        exact ih (before ++ [item]) r'' (by simp [hitems]) h'
  exact hrest items [] r rfl start

/-! ## Single lines -/

theorem indentation_of_isTrimmed {line : Text} (h : Text.IsTrimmed line) :
    indentation line = 0 := by
  cases line with
  | nil => rfl
  | cons c line => simp [indentation, h.1 c rfl, Text.byteLength]

theorem step_of_isTrimmed {line : Text} (h : Text.IsTrimmed line) (number : Nat) :
    r.step number line = if isIgnored line then .ok r else r.readLine number 0 line := by
  have hcontinued : r.continued? 0 = none := by
    cases hentry : r.openEntry <;> simp [continued?, hentry]
  rw [step, Text.trim_eq_self_iff.mpr h, indentation_of_isTrimmed h, hcontinued]

theorem step_ignored {line : Text} (h : Text.IsTrimmed line) (hignored : isIgnored line = true)
    (number : Nat) : r.step number line = .ok r := by
  rw [step_of_isTrimmed h, if_pos hignored]

theorem step_bracketed {name : Text} (hne : name.trim ≠ []) (number : Nat) :
    r.step number ('[' :: name ++ [']']) =
      .ok ⟨r.source.ensureSection name.trim number, some name.trim, none⟩ := by
  have hline : Text.IsTrimmed ('[' :: name ++ [']']) :=
    Text.isTrimmed_between name (by decide) (by decide)
  have hignored : ¬ isIgnored ('[' :: name ++ [']']) = true := by simp [isIgnored]
  have hbetween : Text.between? '[' ']' ('[' :: name ++ [']']) = some name :=
    Text.between?_eq_some_iff.mpr rfl
  rw [step_of_isTrimmed hline, if_neg hignored, readLine, Line.ofText, hbetween]
  simp [hne]

theorem step_header {name : Text} (h : Text.IsTrimmed name) (hne : name ≠ []) (number : Nat) :
    r.step number ('[' :: name ++ [']']) =
      .ok ⟨r.source.ensureSection name number, some name, none⟩ := by
  have htrim : name.trim = name := Text.trim_eq_self_iff.mpr h
  rw [step_bracketed (by rwa [htrim]), htrim]

/-! ## Entries -/

/-- An entry with the key is no header and no comment, and is cut behind the key. -/
structure IsKey (key : Text) : Prop where
  isTrimmed : Text.IsTrimmed key
  ne_nil : key ≠ []
  no_separator : '=' ∉ key ∧ ':' ∉ key
  no_mark : ∀ c, key.head? = some c → c ≠ '#' ∧ c ≠ ';' ∧ c ≠ '['

theorem isKey_of_isWord {key : Text} (hne : key ≠ []) (hword : ∀ c ∈ key, isWord c = true) :
    IsKey key := by
  have hother : ∀ c : Char, isWord c = false → c ∉ key := by
    intro c hc hmem
    simp [hword c hmem] at hc
  refine ⟨Text.isTrimmed_of_forall fun c hc => isBlank_of_isWord (hword c hc), hne,
    ⟨hother '=' (by decide), hother ':' (by decide)⟩, ?_⟩
  intro c hc
  have hmem := List.mem_of_mem_head? hc
  refine ⟨?_, ?_, ?_⟩
  · rintro rfl
    exact hother '#' (by decide) hmem
  · rintro rfl
    exact hother ';' (by decide) hmem
  · rintro rfl
    exact hother '[' (by decide) hmem

section Entry

variable {key value rest : Text}

private theorem trim_key (hkey : Text.IsTrimmed key) : Text.trim (key ++ [' ']) = key := by
  have hblank : isBlank ' ' = true := by decide
  have hpadded : Text.trim ([] ++ key ++ [' ']) = key.trim :=
    Text.trim_padded key (by simp) (by simp [hblank])
  rwa [List.nil_append, Text.trim_eq_self_iff.mpr hkey] at hpadded

private theorem trim_value (hvalue : Text.IsTrimmed value) :
    Text.trim (' ' :: value) = value := by
  have hblank : isBlank ' ' = true := by decide
  have hpadded : Text.trim ([' '] ++ value ++ []) = value.trim :=
    Text.trim_padded value (by simp [hblank]) (by simp)
  rw [List.append_nil, Text.trim_eq_self_iff.mpr hvalue] at hpadded
  exact hpadded

namespace IsKey

private theorem cut?_entry (hkey : IsKey key) (rest : Text) :
    Text.cut? (fun c => c == '=' || c == ':') (key ++ " =" ++ rest) =
      some (key ++ [' '], rest) := by
  rw [Text.cut?_eq_some_iff]
  refine ⟨'=', by simp, by decide, ?_⟩
  intro c hc
  rcases List.mem_append.mp hc with hc | hc
  · have hequals : c ≠ '=' := fun h => hkey.no_separator.1 (h ▸ hc)
    have hcolon : c ≠ ':' := fun h => hkey.no_separator.2 (h ▸ hc)
    simp [hequals, hcolon]
  · rw [List.mem_singleton.mp hc]
    decide

private theorem exists_head (hkey : IsKey key) (rest : Text) :
    ∃ first, key.head? = some first ∧ (key ++ rest).head? = some first := by
  obtain ⟨first, hfirst⟩ := Option.isSome_iff_exists.mp (List.isSome_head?.mpr hkey.ne_nil)
  exact ⟨first, hfirst, by simp [hfirst]⟩

private theorem isTrimmed_append (hkey : IsKey key) (hne : rest ≠ [])
    (hrest : ∀ c, rest.getLast? = some c → isBlank c = false) :
    Text.IsTrimmed (key ++ rest) := by
  obtain ⟨first, hfirst, hhead⟩ := hkey.exists_head rest
  constructor
  · intro c hc
    rw [hhead] at hc
    cases hc
    exact hkey.isTrimmed.1 first hfirst
  · rwa [List.getLast?_append_of_ne_nil _ hne]

theorem isTrimmed_entry (hkey : IsKey key) (hvalue : Text.IsTrimmed value) (hne : value ≠ []) :
    Text.IsTrimmed (key ++ " = " ++ value) := by
  rw [List.append_assoc]
  apply hkey.isTrimmed_append (by simp)
  rw [List.getLast?_append_of_ne_nil _ hne]
  exact hvalue.2

private theorem step_append (hkey : IsKey key) (htrimmed : Text.IsTrimmed (key ++ " =" ++ rest))
    {name : Text} (hopen : r.openSection = some name) (number : Nat) :
    r.step number (key ++ " =" ++ rest) =
      .ok ⟨r.source.put name number key rest.trim number, some name,
        some ⟨Name.key name, Name.key key, 0⟩⟩ := by
  obtain ⟨first, hfirst, hhead⟩ := hkey.exists_head (" =" ++ rest)
  rw [← List.append_assoc] at hhead
  obtain ⟨hhash, hsemicolon, hbracket⟩ := hkey.no_mark first hfirst
  have hignored : ¬ isIgnored (key ++ " =" ++ rest) = true := by
    unfold isIgnored
    rw [hhead]
    simp [hkey.ne_nil, hhash, hsemicolon]
  have hbetween : Text.between? '[' ']' (key ++ " =" ++ rest) = none := by
    rw [Option.eq_none_iff_forall_ne_some]
    intro inner hinner
    rw [Text.between?_eq_some_iff.mp hinner] at hhead
    exact hbracket (Option.some.inj hhead).symm
  rw [step_of_isTrimmed htrimmed, if_neg hignored, readLine, Line.ofText, hbetween,
    hkey.cut?_entry rest]
  simp [trim_key hkey.isTrimmed, hkey.ne_nil, hopen]

theorem step_entry (hkey : IsKey key) (hvalue : Text.IsTrimmed value) {name : Text}
    (hopen : r.openSection = some name) (number : Nat) :
    r.step number (key ++ " = " ++ value) =
      .ok ⟨r.source.put name number key value number, some name,
        some ⟨Name.key name, Name.key key, 0⟩⟩ := by
  by_cases hne : value = []
  · -- Without a value the line ends in white space, which does not count.
    subst hne
    have hblank : isBlank ' ' = true := by decide
    have hline : key ++ " = " ++ ([] : Text) = key ++ " =" ++ ([] : Text) ++ [' '] := by simp
    rw [hline, step_append_blank r number _ (by simp [hblank])]
    apply hkey.step_append _ hopen
    rw [List.append_assoc]
    apply hkey.isTrimmed_append (by simp)
    rintro c ⟨⟩
    decide
  · have hline : key ++ " = " ++ value = key ++ " =" ++ ' ' :: value := by simp
    have htrimmed := hkey.isTrimmed_entry hvalue hne
    rw [hline] at htrimmed ⊢
    rw [hkey.step_append htrimmed hopen, trim_value hvalue]

end IsKey

end Entry

end IniSchema.Source.Reader
