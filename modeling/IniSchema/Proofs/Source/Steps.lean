import IniSchema.Proofs.Characters
import IniSchema.Proofs.Source.Reader

/-!
# Steps of a reader

A line that is read is skipped, continues the open entry, opens a section or sets an entry.  What
each of the four keeps holds of the reader at the end of a text.  So no text names a section blank,
and the entry that a line may continue is always there.
-/

namespace IniSchema.Source.Reader

/-- What a line with the number makes of a reader. -/
inductive Next (r : Reader) (number : Nat) : Reader → Prop where
  | skipped : Next r number r
  | continued {e : OpenEntry} (hentry : r.openEntry = some e) (text : Text) :
      Next r number { r with source := r.source.appendLine e.sectionKey e.entryKey text }
  | header {name : Text} (hname : Name.key name ≠ []) :
      Next r number ⟨r.source.ensureSection name number, some name, none⟩
  | entry {name : Text} (hopen : r.openSection = some name) (key value : Text) (indent : Nat) :
      Next r number ⟨r.source.put name number key value number, some name,
        some ⟨Name.key name, Name.key key, indent⟩⟩

theorem key_ne_nil_of_ofText {line name : Text} (h : Line.ofText line = .ok (.header name)) :
    Name.key name ≠ [] := by
  unfold Line.ofText at h
  split at h
  · rename_i inner hbetween
    by_cases hempty : Text.trim inner = []
    · simp [hempty] at h
    · simp only [List.isEmpty_iff, hempty, if_false] at h
      cases h
      rwa [Name.key_trim, ne_eq, Name.key_eq_nil_iff, ← Text.trim_eq_nil_iff]
  · split at h
    · cases h
    · dsimp only at h
      split at h
      · cases h
      · cases h

variable {r r' : Reader}

theorem next_of_readLine {number indent : Nat} {line : Text}
    (h : r.readLine number indent line = .ok r') : r.Next number r' := by
  unfold readLine at h
  cases hline : Line.ofText line with
  | error offence => simp [hline] at h
  | ok read =>
      rw [hline] at h
      cases read with
      | header name =>
          cases h
          exact .header (key_ne_nil_of_ofText hline)
      | entry key value =>
          cases hopen : r.openSection with
          | none => simp [hopen] at h
          | some name =>
              simp only [hopen, Except.ok.injEq] at h
              subst h
              exact .entry hopen key value indent

theorem next_of_step {number : Nat} {raw : Text} (h : r.step number raw = .ok r') :
    r.Next number r' := by
  unfold step at h
  by_cases hignored : isIgnored raw.trim = true
  · simp only [hignored, if_true, Except.ok.injEq] at h
    subst h
    exact .skipped
  · simp only [hignored, Bool.false_eq_true, if_false] at h
    cases hcontinued : r.continued? (indentation raw) with
    | none =>
        rw [hcontinued] at h
        exact next_of_readLine h
    | some e =>
        rw [hcontinued] at h
        cases h
        exact .continued (Option.eq_some_of_filter_eq_some hcontinued) raw.trim

theorem invariant_of_readLines {P : Reader → Prop}
    (next : ∀ {r r' number}, P r → r.Next number r' → P r') {lines : List (Text × Nat)}
    (start : P r) (h : r.readLines lines = .ok r') : P r' := by
  induction lines generalizing r with
  | nil =>
      cases h
      exact start
  | cons line rest ih =>
      obtain ⟨raw, number⟩ := line
      rw [readLines] at h
      cases hstep : r.step number raw with
      | error offence => simp [hstep] at h
      | ok r'' =>
          rw [hstep] at h
          exact ih (next start (next_of_step hstep)) h

/-! ## Names of sections -/

/-- No section has a blank name, nor has the section that is open. -/
structure Named (r : Reader) : Prop where
  sections : [] ∉ r.source.sections.keys
  openSection : ∀ name, r.openSection = some name → Name.key name ≠ []

theorem nil_notMem_keys_ensureSection {source : Source} (h : [] ∉ source.sections.keys)
    {name : Text} (hname : Name.key name ≠ []) (number : Nat) :
    [] ∉ (source.ensureSection name number).sections.keys := by
  unfold ensureSection
  split
  · exact h
  · rw [OrderedMap.keys_insert]
    split
    · exact h
    · simpa [h] using hname.symm

theorem Named.next {number : Nat} (h : r.Named) (hnext : r.Next number r') : r'.Named := by
  cases hnext with
  | skipped => exact h
  | continued hentry text =>
      refine ⟨?_, h.openSection⟩
      rw [appendLine, OrderedMap.keys_modify]
      exact h.sections
  | header hname =>
      refine ⟨nil_notMem_keys_ensureSection h.sections hname number, ?_⟩
      rintro other ⟨⟩
      exact hname
  | entry hopen key value indent =>
      have hname := h.openSection _ hopen
      constructor
      · rw [put, OrderedMap.keys_modify]
        exact nil_notMem_keys_ensureSection h.sections hname number
      · rintro other ⟨⟩
        exact hname

theorem nil_notMem_keys_of_ofText {text : Text} {path : Option Text} {source : Source}
    (h : Source.ofText text path = .ok source) : [] ∉ source.sections.keys := by
  obtain ⟨r, hread, rfl⟩ := ofText_eq_ok_iff.mp h
  have hstart : (Reader.start path).Named := ⟨List.not_mem_nil, by simp [Reader.start]⟩
  exact (invariant_of_readLines Named.next hstart hread).sections

/-! ## The end of a line -/

/-- The white space in front ends before what comes after the line. -/
theorem indentation_append {raw : Text} (hsolid : raw.trim ≠ []) (after : Text) :
    indentation (raw ++ after) = indentation raw := by
  have hnotall : ¬ ∀ c ∈ raw, Unicode.isBlank c = true := by
    rwa [← Text.trim_eq_nil_iff]
  unfold indentation
  rw [List.takeWhile_append, if_neg]
  intro hall
  exact hnotall (List.takeWhile_eq_self_iff.mp ((List.takeWhile_prefix _).eq_of_length hall))

theorem step_append_blank (r : Reader) (number : Nat) (raw : Text) {after : Text}
    (hafter : ∀ c ∈ after, Unicode.isBlank c = true) :
    r.step number (raw ++ after) = r.step number raw := by
  have htrim : Text.trim (raw ++ after) = raw.trim :=
    Text.trim_padded raw (List.forall_mem_nil _) hafter
  by_cases hempty : raw.trim = []
  · simp [step, htrim, hempty, isIgnored]
  · rw [step, step, htrim, indentation_append hempty]

theorem step_chomp (r : Reader) (number : Nat) (raw : Text) :
    r.step number (Text.chomp raw) = r.step number raw := by
  unfold Text.chomp
  split
  · rename_i hlast
    obtain ⟨front, rfl⟩ := List.getLast?_eq_some_iff.mp hlast
    have hreturn : Unicode.isBlank '\r' = true := by decide
    rw [List.dropLast_concat, step_append_blank r number front (by simp [hreturn])]
  · rfl

theorem readLines_map_chomp (r : Reader) (pieces : List Text) (n : Nat) :
    r.readLines ((pieces.map Text.chomp).zipIdx n) = r.readLines (pieces.zipIdx n) := by
  induction pieces generalizing r n with
  | nil => rfl
  | cons piece pieces ih =>
      rw [List.map_cons, List.zipIdx_cons, List.zipIdx_cons, readLines, readLines, step_chomp]
      cases r.step n piece with
      | error offence => rfl
      | ok r' => exact ih r' (n + 1)

/-- The pieces of a text between its newlines are read as its lines are. -/
theorem readLines_lines (r : Reader) (t : Text) (n : Nat) :
    r.readLines (t.lines.zipIdx n) = r.readLines ((t.split '\n').zipIdx n) := by
  obtain ⟨front, last, hsplit, hlines⟩ := Text.exists_pieces t
  rw [hsplit, hlines, List.zipIdx_append, List.zipIdx_append, readLines_append, readLines_append,
    readLines_map_chomp, List.length_map]
  congr 1
  funext r'
  by_cases hempty : last = []
  · simp [hempty, readLines, step, isIgnored, Text.trim, Text.trimStart, Text.trimEnd]
  · simp [hempty]

end IniSchema.Source.Reader
