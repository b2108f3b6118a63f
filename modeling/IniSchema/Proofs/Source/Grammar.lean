import IniSchema.Proofs.Source.Reader

/-!
# The grammar of source texts

A text is read exactly if every line of it that is neither skipped nor a continuation is a header
with a name or an entry with a key, and the entries stand under a header.  Any other text is refused
for its first line that breaks one of these rules, and nothing after that line counts.
-/

namespace IniSchema.Source

/-! ## Rules -/

/-- The lines of a text that can be read.  Names and keys are without the white space around
them. -/
structure Grammatical (marks : List Mark) : Prop where
  none_malformed : .malformed ∉ marks
  headers_named : ∀ h, .header h ∈ marks → h.name ≠ []
  keys_named : ∀ o, .opening o ∈ marks → o.key ≠ []
  opening_under_header : ∀ before o after, marks = before ++ .opening o :: after →
    ∃ h, .header h ∈ before

/-- The first rule that a line breaks after the lines before it. -/
def offence? (before : List Mark) : Mark → Option Offence
  | .header h => if h.name = [] then some .emptyHeader else none
  | .malformed => some .noSeparator
  | .opening o =>
      if o.key = [] then some .emptyKey
      else if headers before = [] then some .noHeader
      else none
  | .skipped => none
  | .continuation _ => none

/-- The first line that breaks a rule, by its number, and the rule. -/
def FirstOffence (lines : List Text) (number : Nat) (offence : Offence) : Prop :=
  ∃ before raw after, lines = before ++ raw :: after ∧ number = before.length + 1 ∧
    Grammatical (marksOf (before.zipIdx 1)) ∧
    offence? (marksOf (before.zipIdx 1)) (Mark.classify (marksOf (before.zipIdx 1)) number raw) =
      some offence

theorem Offence.reason_injective : Function.Injective Offence.reason := by
  intro o o' h
  cases o <;> cases o' <;> first | rfl | exact absurd h (by decide)

section Rules

variable {marks : List Mark} {mark : Mark}

theorem headers_eq_nil_iff : headers marks = [] ↔ ∀ h, .header h ∉ marks := by
  simp only [headers, List.filterMap_eq_nil_iff]
  constructor
  · intro hnone h hmem
    cases hnone _ hmem
  · intro hnone mark hmem
    cases mark with
    | header h => exact absurd hmem (hnone h)
    | skipped | opening o | continuation text | malformed => rfl

theorem offence?_eq_none_iff : offence? marks mark = none ↔
    mark ≠ .malformed ∧ (∀ h, mark = .header h → h.name ≠ []) ∧
      ∀ o, mark = .opening o → o.key ≠ [] ∧ ∃ h, .header h ∈ marks := by
  cases mark with
  | header h => simp [offence?]
  | opening o =>
      by_cases hkey : o.key = []
      · simp [offence?, hkey]
      · by_cases hheaders : headers marks = []
        · simp [offence?, hkey, hheaders, headers_eq_nil_iff.mp hheaders]
        · simpa [offence?, hkey, hheaders] using hheaders ∘ headers_eq_nil_iff.mpr
  | skipped | continuation text | malformed => simp [offence?]

theorem grammatical_nil : Grammatical [] := by
  constructor <;> simp

theorem grammatical_concat :
    Grammatical (marks ++ [mark]) ↔ Grammatical marks ∧ offence? marks mark = none := by
  rw [offence?_eq_none_iff]
  constructor
  · intro h
    have hunder := (forall_split_concat Mark.opening).mp h.opening_under_header
    constructor
    · exact {
        none_malformed := fun hmem => h.none_malformed (List.mem_append_left _ hmem)
        headers_named := fun header hmem => h.headers_named header (List.mem_append_left _ hmem)
        keys_named := fun o hmem => h.keys_named o (List.mem_append_left _ hmem)
        opening_under_header := hunder.1 }
    · refine ⟨?_, ?_, ?_⟩
      · rintro rfl
        exact h.none_malformed (by simp)
      · rintro header rfl
        exact h.headers_named header (by simp)
      · rintro o rfl
        exact ⟨h.keys_named o (by simp), hunder.2 o rfl⟩
  · rintro ⟨h, hmalformed, hheader, hopening⟩
    exact {
      none_malformed := by simp [h.none_malformed, Ne.symm hmalformed]
      headers_named := by
        intro header hmem
        rcases List.mem_append.mp hmem with hmem | hmem
        · exact h.headers_named header hmem
        · exact hheader header (List.mem_singleton.mp hmem).symm
      keys_named := by
        intro o hmem
        rcases List.mem_append.mp hmem with hmem | hmem
        · exact h.keys_named o hmem
        · exact (hopening o (List.mem_singleton.mp hmem).symm).1
      opening_under_header := (forall_split_concat Mark.opening).mpr
        ⟨h.opening_under_header, fun o ho => (hopening o ho).2⟩ }

end Rules

/-! ## One line -/

namespace Tracks

variable {r : Reader} {marks : List Mark}

theorem openSection_eq_none_iff (h : Tracks r marks) :
    r.openSection = none ↔ headers marks = [] := by
  rw [h.openSection, Option.map_eq_none_iff, openSection?, List.getLast?_eq_none_iff, headers,
    ← map_fst_blocks, List.map_eq_nil_iff]

private theorem readLine_eq_error_iff (h : Tracks r marks) (number indent : Nat) (line : Text)
    (offence : Offence) : r.readLine number indent line = .error offence ↔
      offence? marks (Mark.ofLine number indent line) = some offence := by
  have hsection := h.openSection_eq_none_iff
  unfold Reader.readLine Line.ofText Mark.ofLine
  cases hbetween : line.between? '[' ']' with
  | some name =>
      by_cases hempty : Text.trim name = [] <;> simp [offence?, hempty]
  | none =>
      cases hcut : line.cut? (fun c => c == '=' || c == ':') with
      | none => simp [offence?]
      | some cut =>
          by_cases hempty : Text.trim cut.1 = []
          · simp [offence?, hempty]
          · cases hopen : r.openSection with
            | none => simp [offence?, hempty, hsection.mp hopen]
            | some name =>
                have hne : headers marks ≠ [] := by simp [← hsection, hopen]
                simp [offence?, hempty, hne]

/-- A reader refuses a line exactly for the first rule that it breaks. -/
theorem step_eq_error_iff (h : Tracks r marks) (number : Nat) (raw : Text) (offence : Offence) :
    r.step number raw = .error offence ↔
      offence? marks (Mark.classify marks number raw) = some offence := by
  have hcontinued := h.isSome_continued? (indentation raw)
  unfold Reader.step Mark.classify
  by_cases hignored : isIgnored raw.trim = true
  · simp [hignored, offence?]
  · simp only [hignored, Bool.false_eq_true, if_false, ← hcontinued]
    cases r.continued? (indentation raw) with
    | some e => simp [offence?]
    | none => simpa using h.readLine_eq_error_iff number (indentation raw) raw.trim offence

end Tracks

/-! ## Runs of a reader -/

namespace Reader

theorem exists_readLines_iff (path : Option Text) (lines : List (Text × Nat)) :
    (∃ r, (start path).readLines lines = .ok r) ↔ Grammatical (marksOf lines) := by
  induction lines using List.reverseRecOn with
  | nil => exact iff_of_true ⟨_, rfl⟩ grammatical_nil
  | append_singleton lines line ih =>
      obtain ⟨raw, number⟩ := line
      rw [marksOf_concat, grammatical_concat, ← ih, readLines_append]
      cases hread : (start path).readLines lines with
      | error stopped => simp [Except.bind]
      | ok r =>
          have hrefused := (tracks_of_readLines hread).step_eq_error_iff number raw
          cases hstep : r.step number raw with
          | error offence => simp [Except.bind, readLines, hstep, (hrefused offence).mp hstep]
          | ok r' =>
              have hallowed : offence? (marksOf lines)
                  (Mark.classify (marksOf lines) number raw) = none := by
                rw [Option.eq_none_iff_forall_ne_some]
                intro offence hsome
                rw [← hrefused, hstep] at hsome
                cases hsome
              simp [Except.bind, readLines, hstep, hallowed]

theorem readLines_eq_error_iff (path : Option Text) (lines : List Text) (number : Nat)
    (offence : Offence) : (start path).readLines (lines.zipIdx 1) = .error (number, offence) ↔
      FirstOffence lines number offence := by
  induction lines using List.reverseRecOn with
  | nil => simp [readLines, FirstOffence]
  | append_singleton lines raw ih =>
      have haccepted := exists_readLines_iff path (lines.zipIdx 1)
      rw [List.zipIdx_append, readLines_append]
      constructor
      · intro hstopped
        cases hread : (start path).readLines (lines.zipIdx 1) with
        | error stopped =>
            rw [hread] at hstopped ih
            obtain ⟨before, first, after, rfl, hfirst⟩ := ih.mp hstopped
            exact ⟨before, first, after ++ [raw], by simp, hfirst⟩
        | ok r =>
            have hrefused := (tracks_of_readLines hread).step_eq_error_iff (1 + lines.length) raw
            cases hstep : r.step (1 + lines.length) raw with
            | ok r' => simp [hread, Except.bind, readLines, hstep] at hstopped
            | error found =>
                simp only [hread, Except.bind, List.zipIdx_singleton, readLines, hstep,
                  Except.error.injEq, Prod.mk.injEq] at hstopped
                obtain ⟨rfl, rfl⟩ := hstopped
                exact ⟨lines, raw, [], rfl, Nat.add_comm .., haccepted.mp ⟨r, hread⟩,
                  (hrefused found).mp hstep⟩
      · rintro ⟨before, first, after, hsplit, hnumber, hbefore, hoffence⟩
        rcases split_concat hsplit with ⟨rfl, rfl⟩ | ⟨rest, hrest⟩
        · obtain ⟨r, hread⟩ := haccepted.mpr hbefore
          have hstep := ((tracks_of_readLines hread).step_eq_error_iff _ first offence).mpr hoffence
          rw [hnumber] at hstep
          simp [hread, Except.bind, readLines, hstep, hnumber, Nat.add_comm]
        · rw [ih.mpr ⟨before, first, rest, hrest, hnumber, hbefore, hoffence⟩]
          rfl

end Reader

/-! ## Texts -/

namespace FirstOffence

variable {text : Text} {number : Nat} {offence : Offence}

theorem ofText_eq (h : FirstOffence text.lines number offence) (path : Option Text) :
    Source.ofText text path =
      .error (.iniSyntax (path.getD "<text>") number offence.reason) :=
  ofText_eq_error_iff.mpr ⟨number, offence, (Reader.readLines_eq_error_iff ..).mpr h, rfl⟩

/-- The lines in front of the first offence are a text of their own. -/
theorem exists_ofText_before (h : FirstOffence text.lines number offence) (path : Option Text) :
    ∃ (front : Text) (source : Source), front <+: text ∧
      front.lines = text.lines.take (number - 1) ∧ Source.ofText front path = .ok source := by
  obtain ⟨before, raw, after, hlines, rfl, hbefore, -⟩ := h
  obtain ⟨front, hprefix, hfront⟩ := Text.exists_prefix_lines text before.length
  rw [hlines, List.take_left] at hfront
  rw [← hfront] at hbefore
  obtain ⟨r, hread⟩ := (Reader.exists_readLines_iff path _).mpr hbefore
  refine ⟨front, r.source, hprefix, ?_, ofText_eq_ok_iff.mpr ⟨r, hread, rfl⟩⟩
  rw [hlines, Nat.add_sub_cancel, List.take_left, hfront]

theorem of_take_eq {other : Text} (h : FirstOffence text.lines number offence)
    (htake : other.lines.take number = text.lines.take number) :
    FirstOffence other.lines number offence := by
  obtain ⟨before, raw, after, hlines, rfl, hbefore⟩ := h
  have hfront : text.lines.take (before.length + 1) = before ++ [raw] := by
    have hsplit : text.lines = (before ++ [raw]) ++ after := by simp [hlines]
    rw [hsplit, List.take_left' (by simp)]
  refine ⟨before, raw, other.lines.drop (before.length + 1), ?_, rfl, hbefore⟩
  rw [← List.singleton_append, ← List.append_assoc, ← hfront, ← htake, List.take_append_drop]

end FirstOffence

/-- A text is read exactly if it is grammatical.  Any other is refused for its first line that
breaks a rule, the lines before that one could be read, and those after it do not count. -/
theorem ofText_iff_grammatical (text : Text) (path : Option Text) :
    ((∃ source, Source.ofText text path = .ok source) ↔ Grammatical (marks text)) ∧
    (∀ fault, Source.ofText text path = .error fault ↔ ∃ number offence,
      FirstOffence text.lines number offence ∧
        fault = .iniSyntax (path.getD "<text>") number offence.reason) ∧
    Function.Injective Offence.reason ∧
    ∀ number offence, FirstOffence text.lines number offence →
      (∃ (front : Text) (source : Source), front <+: text ∧
        front.lines = text.lines.take (number - 1) ∧ Source.ofText front path = .ok source) ∧
      ∀ other : Text, other.lines.take number = text.lines.take number →
        Source.ofText other path = Source.ofText text path := by
  refine ⟨?_, ?_, Offence.reason_injective, ?_⟩
  · rw [marks, ← Reader.exists_readLines_iff path]
    simp [ofText_eq_ok_iff]
  · intro fault
    simp only [ofText_eq_error_iff, Reader.readLines_eq_error_iff]
  · intro number offence h
    refine ⟨h.exists_ofText_before path, ?_⟩
    intro other htake
    rw [h.ofText_eq, (h.of_take_eq htake).ofText_eq]

theorem ofText_iff_grammatical_keyless :
    ∃ fault, Source.ofText "[main]\n port = 1\n  = 2\n = 3\nhost" none = .error fault ∧
      fault = .iniSyntax "<text>" 4 "entry has an empty key" ∧
      Source.ofText "[main]\n port = 1\n  = 2\n = 3\n[]" none = .error fault := by
  have hfault : Source.ofText "[main]\n port = 1\n  = 2\n = 3\nhost" none =
      .error (.iniSyntax "<text>" 4 Offence.emptyKey.reason) := rfl
  obtain ⟨-, hrefused, hdistinct, hfirst⟩ :=
    ofText_iff_grammatical "[main]\n port = 1\n  = 2\n = 3\nhost" none
  obtain ⟨number, offence, hoffence, heq⟩ := (hrefused _).mp hfault
  obtain ⟨-, rfl, hreason⟩ := Fault.iniSyntax.inj heq
  obtain rfl := hdistinct hreason
  refine ⟨_, hfault, rfl, ?_⟩
  rw [(hfirst 4 .emptyKey hoffence).2 _ (by decide), hfault]

end IniSchema.Source
