import IniSchema.Proofs.Source.Lines
import IniSchema.Proofs.Source.Transport

/-!
# One text after another

A text that opens with a header is read the same after any other text: the header closes what the
text before left open.  The source of the two is the second laid over the first, with its lines
further down.
-/

namespace IniSchema.Source

theorem Reader.carries_overlay_shift (base : Source) (k : Nat) :
    Carries (fun top => base.overlay (top.shift k)) (· + k) where
  ensureSection s name line := by rw [shift_ensureSection, overlay_ensureSection]
  put s name key value line := by rw [shift_put, overlay_put]
  appendLine s sectionKey entryKey text h := by
    rw [shift_appendLine, overlay_appendLine base (h.shift k)]

/-! ## A text that opens a section -/

/-- The first line is a header that is not indented and not blank. -/
def OpensSection (t : Text) : Prop :=
  ∃ (name after : Text) (rest : List Text), t.lines = ('[' :: name ++ ']' :: after) :: rest ∧
    (∃ c ∈ name, Unicode.isBlank c = false) ∧ ∀ c ∈ after, Unicode.isBlank c = true

namespace OpensSection

variable {t : Text}

theorem readLines (h : OpensSection t) (r : Reader) (k : Nat) (path : Option Text) :
    r.readLines ((t.lines.zipIdx 1).map fun line => (line.1, line.2 + k)) =
      match (Reader.start path).readLines (t.lines.zipIdx 1) with
      | .ok out => .ok (out.carried (fun top => r.source.overlay (top.shift k)) 0)
      | .error (line, offence) => .error (line + k, offence) := by
  obtain ⟨name, after, rest, hlines, hname, hafter⟩ := h
  have hne : name.trim ≠ [] := by
    rw [ne_eq, Text.trim_eq_nil_iff]
    simpa using hname
  have hstep : ∀ (r : Reader) number, r.step number ('[' :: name ++ ']' :: after) =
      .ok ⟨r.source.ensureSection name.trim number, some name.trim, none⟩ := by
    intro r number
    have hline : '[' :: name ++ ']' :: after = ('[' :: name ++ [']']) ++ after := by simp
    rw [hline, Reader.step_append_blank _ _ _ hafter, Reader.step_bracketed hne]
  have hcarries := Reader.carries_overlay_shift r.source k
  let opened : Reader := ⟨(blank path).ensureSection name.trim 1, some name.trim, none⟩
  have hanchored : opened.Anchored := by
    rintro e ⟨⟩
  have hblank : r.source.overlay ((blank path).shift k) = r.source := by
    rw [overlay, shift, blank]
    exact congrArg (Source.mk r.source.path) OrderedMap.merge_empty
  -- The header puts both readers in the same place, each over its own source.
  have hopened : opened.carried (fun top => r.source.overlay (top.shift k)) 0 =
      ⟨r.source.ensureSection name.trim (1 + k), some name.trim, none⟩ := by
    simp only [opened, Reader.carried, hcarries.ensureSection, hblank, Option.map_none]
  rw [hlines, List.zipIdx_cons, List.map_cons, Reader.readLines, Reader.readLines, hstep, hstep]
  exact hopened ▸ hcarries.readLines hanchored (Reader.relaid_map_number (· + k) _)

end OpensSection

/-! ## Two texts -/

theorem readLines_lines_append (r : Reader) (front back : Text) :
    r.readLines ((front ++ '\n' :: back).lines.zipIdx 1) =
      (r.readLines (front.lines.zipIdx 1)).bind fun r' =>
        r'.readLines ((back.lines.zipIdx 1).map fun line =>
          (line.1, line.2 + (front.count '\n' + 1))) := by
  have hback : (back.lines.zipIdx 1).map (fun line => (line.1, line.2 + (front.count '\n' + 1))) =
      back.lines.zipIdx (1 + (front.count '\n' + 1)) := by
    rw [Nat.add_comm 1, ← List.map_snd_add_zipIdx_eq_zipIdx]
    rfl
  simp only [hback, Reader.readLines_lines, Text.split_append_cons, List.zipIdx_append,
    Text.length_split, Reader.readLines_append]

variable {front back : Text} {path : Option Text} {base top : Source} {fault : Fault}

theorem ofText_append_of_error (hfront : Source.ofText front path = .error fault) (back : Text) :
    Source.ofText (front ++ '\n' :: back) path = .error fault := by
  obtain ⟨line, offence, hread, hfault⟩ := ofText_eq_error_iff.mp hfront
  refine ofText_eq_error_iff.mpr ⟨line, offence, ?_, hfault⟩
  rw [readLines_lines_append, hread]
  rfl

theorem OpensSection.ofText_append (h : OpensSection back)
    (hfront : Source.ofText front path = .ok base) (hback : Source.ofText back path = .ok top) :
    Source.ofText (front ++ '\n' :: back) path =
      .ok (base.overlay (top.shift (front.count '\n' + 1))) := by
  obtain ⟨r, hread, rfl⟩ := ofText_eq_ok_iff.mp hfront
  obtain ⟨out, hout, rfl⟩ := ofText_eq_ok_iff.mp hback
  refine ofText_eq_ok_iff.mpr
    ⟨out.carried (fun top => r.source.overlay (top.shift (front.count '\n' + 1))) 0, ?_, rfl⟩
  rw [readLines_lines_append, hread, Except.bind, h.readLines r _ path, hout]

theorem OpensSection.ofText_append_of_error (h : OpensSection back)
    (hfront : Source.ofText front path = .ok base)
    (hback : Source.ofText back path = .error fault) :
    ∃ line reason, fault = .iniSyntax (path.getD "<text>") line reason ∧
      Source.ofText (front ++ '\n' :: back) path =
        .error (.iniSyntax (path.getD "<text>") (line + (front.count '\n' + 1)) reason) := by
  obtain ⟨r, hread, rfl⟩ := ofText_eq_ok_iff.mp hfront
  obtain ⟨line, offence, hout, rfl⟩ := ofText_eq_error_iff.mp hback
  refine ⟨line, offence.reason, rfl, ofText_eq_error_iff.mpr ⟨_, offence, ?_, rfl⟩⟩
  rw [readLines_lines_append, hread, Except.bind, h.readLines r _ path, hout]

/-- The same sections and the same entries in them, on whatever lines they stand. -/
structure SameLookups (s t : Source) : Prop where
  sections : ∀ name, (s.section? name).map SourceSection.name =
    (t.section? name).map SourceSection.name
  entries : ∀ name key, (s.get? name key).map (fun e => (e.key, e.value)) =
    (t.get? name key).map fun e => (e.key, e.value)

theorem Overrides.sameLookups {s t : Source} {k l : Nat} (hs : Overrides base top k s)
    (ht : Overrides top base l t)
    (hdisjoint : ∀ name, base.section? name = none ∨ top.section? name = none) :
    SameLookups s t where
  sections := by
    intro name
    have hnames : ∀ {base top s : Source} {k : Nat}, Overrides base top k s →
        (s.section? name).map SourceSection.name =
          ((base.section? name).map SourceSection.name).or
            ((top.section? name).map SourceSection.name) := by
      intro base top s k h
      have hsections := congrArg (Option.map Prod.fst) (h.sections name)
      simpa [Option.map_or, Function.comp_def] using hsections
    rw [hnames hs, hnames ht]
    rcases hdisjoint name with hnone | hnone <;> simp [hnone]
  entries := by
    intro name key
    rw [hs.entries, ht.entries]
    rcases hdisjoint name with hnone | hnone <;>
      simp [Source.get?, hnone, Function.comp_def, Entry.shift]

/-- A text that opens a section overrides what is read before it.  Faults are those of the text
that they are in, and texts with different sections may change places. -/
theorem ofText_concatenation {front back : Text} (hback : OpensSection back) (path : Option Text) :
    (∀ base top, Source.ofText front path = .ok base → Source.ofText back path = .ok top →
      ∃ s, Source.ofText (front ++ '\n' :: back) path = .ok s ∧
        Overrides base top (front.count '\n' + 1) s) ∧
    (∀ fault, Source.ofText front path = .error fault →
      Source.ofText (front ++ '\n' :: back) path = .error fault) ∧
    (∀ base fault, Source.ofText front path = .ok base → Source.ofText back path = .error fault →
      ∃ line reason, fault = .iniSyntax (path.getD "<text>") line reason ∧
        Source.ofText (front ++ '\n' :: back) path =
          .error (.iniSyntax (path.getD "<text>") (line + (front.count '\n' + 1)) reason)) ∧
    (OpensSection front → ∀ base top, Source.ofText front path = .ok base →
      Source.ofText back path = .ok top →
      (∀ name, base.section? name = none ∨ top.section? name = none) →
      ∃ s t, Source.ofText (front ++ '\n' :: back) path = .ok s ∧
        Source.ofText (back ++ '\n' :: front) path = .ok t ∧ SameLookups s t) := by
  refine ⟨?_, fun fault hfront => ofText_append_of_error hfront back,
    fun base fault => hback.ofText_append_of_error, ?_⟩
  · intro base top hbase htop
    exact ⟨_, hback.ofText_append hbase htop, overrides_overlay_shift base (sound_of_ofText htop) _⟩
  · intro hfront base top hbase htop hdisjoint
    refine ⟨_, _, hback.ofText_append hbase htop, hfront.ofText_append htop hbase, ?_⟩
    exact (overrides_overlay_shift base (sound_of_ofText htop) _).sameLookups
      (overrides_overlay_shift top (sound_of_ofText hbase) _) hdisjoint

theorem ofText_concatenation_reopened :
    ∃ s, Source.ofText ("[main]\nport = 1\n  2\nhost = h".toList ++ '\n' :: "[ Main ]\nPORT: 3")
        none = .ok s ∧
      s.get? "main" "port" = some ⟨"PORT", "3", 6⟩ ∧
      s.get? "main" "host" = some ⟨"host", "h", 4⟩ := by
  have hback : OpensSection "[ Main ]\nPORT: 3" :=
    ⟨" Main ", [], ["PORT: 3"], by decide, ⟨'M', by decide, by decide⟩, by simp⟩
  obtain ⟨base, hbase⟩ : ∃ base, Source.ofText "[main]\nport = 1\n  2\nhost = h" none = .ok base :=
    ⟨_, rfl⟩
  obtain ⟨top, htop⟩ : ∃ top, Source.ofText "[ Main ]\nPORT: 3" none = .ok top := ⟨_, rfl⟩
  obtain ⟨s, hs, hoverrides⟩ := (ofText_concatenation hback none).1 base top hbase htop
  have hentries := hoverrides.entries
  cases hbase
  cases htop
  exact ⟨s, hs, hentries .., hentries ..⟩

end IniSchema.Source
