import IniSchema.Proofs.Source.Lines
import IniSchema.Proofs.Source.Overlay

/-!
# Insertions written as lines

Insertions that are made one after the other can be written one after the other, each as a header
and an entry.  Reading makes the same source of them, apart from the lines that it was written on.
-/

namespace IniSchema.Source

structure Insertion where
  sectionName : Text
  key : Text
  value : Text
  deriving DecidableEq

namespace Insertion

def lines (i : Insertion) : List Text :=
  ['[' :: i.sectionName ++ [']'], i.key ++ " = " ++ i.value]

/-- The section, the key and the value can be told apart in the lines. -/
structure Writable (i : Insertion) : Prop where
  sectionName_isTrimmed : Text.IsTrimmed i.sectionName
  sectionName_ne_nil : i.sectionName ≠ []
  isKey : Reader.IsKey i.key
  value_isTrimmed : Text.IsTrimmed i.value
  no_newline : '\n' ∉ i.sectionName ∧ '\n' ∉ i.key ∧ '\n' ∉ i.value

end Insertion

/-- The source that the insertions build up. -/
def inserted (path : Option Text) (items : List Insertion) : Source :=
  items.foldl (fun source i => source.insert i.sectionName i.key i.value) (.blank path)

theorem inserted_concat (path : Option Text) (items : List Insertion) (i : Insertion) :
    inserted path (items ++ [i]) = (inserted path items).insert i.sectionName i.key i.value := by
  simp [inserted]

/-! ## Lines of the text -/

namespace Insertion.Writable

variable {i : Insertion}

theorem newline_notMem (h : i.Writable) : ∀ line ∈ i.lines, '\n' ∉ line := by
  obtain ⟨hsection, hkey, hvalue⟩ := h.no_newline
  simp [lines, hsection, hkey, hvalue]

theorem getLast?_ne_return (h : i.Writable) : ∀ line ∈ i.lines, line.getLast? ≠ some '\r' := by
  have hreturn : Unicode.isBlank '\r' = true := by decide
  simp only [lines, List.forall_mem_cons, List.not_mem_nil, false_imp_iff, implies_true, and_true]
  constructor
  · rw [List.getLast?_concat]
    decide
  · intro hlast
    by_cases hne : i.value = []
    · simp [hne] at hlast
    · rw [List.getLast?_append_of_ne_nil _ hne] at hlast
      have hsolid := h.value_isTrimmed.2 '\r' hlast
      rw [hreturn] at hsolid
      cases hsolid

end Insertion.Writable

theorem lines_unlines_insertions {items : List Insertion} (h : ∀ i ∈ items, i.Writable) :
    Text.lines (Text.unlines (items.flatMap Insertion.lines)) =
      items.flatMap Insertion.lines := by
  apply Text.lines_unlines
  · intro line hline
    obtain ⟨i, hi, hline⟩ := List.mem_flatMap.mp hline
    exact (h i hi).newline_notMem line hline
  · intro line hline
    obtain ⟨i, hi, hline⟩ := List.mem_flatMap.mp hline
    exact (h i hi).getLast?_ne_return line hline

/-! ## Reading the text -/

theorem ensureSection_ensureSection (s : Source) (name : Text) (line otherLine : Nat) :
    (s.ensureSection name line).ensureSection name otherLine = s.ensureSection name line := by
  have hmem : Name.key name ∈ (s.ensureSection name line).sections.keys := by
    obtain ⟨found, hfound⟩ := s.exists_section_ensureSection name line
    exact OrderedMap.mem_keys_of_get? hfound
  rw [ensureSection, if_pos (OrderedMap.contains_iff.mpr hmem)]

theorem put_ensureSection (s : Source) (name : Text) (line : Nat) (key value : Text) :
    (s.ensureSection name line).put name line key value line = s.put name line key value line := by
  unfold put
  rw [ensureSection_ensureSection]

namespace Reader

variable {r : Reader}

theorem reaches_insertion {i : Insertion} (hi : i.Writable) {source : Source}
    (hsource : r.source.relabel id (fun _ => 0) = source) :
    r.Reaches i.lines fun r' => r'.source.relabel id (fun _ => 0) =
      source.insert i.sectionName i.key i.value := by
  refine .cons fun header =>
    ⟨_, step_header hi.sectionName_isTrimmed hi.sectionName_ne_nil header, ?_⟩
  refine .cons fun number => ⟨_, hi.isKey.step_entry hi.value_isTrimmed rfl number, .nil ?_⟩
  rw [respelling_id.relabel_put, respelling_id.relabel_ensureSection, hsource]
  exact put_ensureSection source i.sectionName 0 i.key i.value

end Reader

/-- Insertions that are written down are read to the source that they build up. -/
theorem ofText_insertions {items : List Insertion} (h : ∀ i ∈ items, i.Writable)
    (path : Option Text) :
    Text.lines (Text.unlines (items.flatMap Insertion.lines)) = items.flatMap Insertion.lines ∧
    ∀ text : Text, text.lines = items.flatMap Insertion.lines →
      ∃ source, Source.ofText text path = .ok source ∧
        source.relabel id (fun _ => 0) = inserted path items := by
  refine ⟨lines_unlines_insertions h, ?_⟩
  intro text htext
  -- The invariant forgets the lines, which are all that the two sources differ in.
  have hreaches : (Reader.start path).Reaches (items.flatMap Insertion.lines)
      fun r => r.source.relabel id (fun _ => 0) = inserted path items := by
    apply Reader.Reaches.flatMap
      (fun before r => r.source.relabel id (fun _ => 0) = inserted path before) rfl
    intro before i after hitems r hr
    rw [inserted_concat]
    exact Reader.reaches_insertion (h i (by simp [hitems])) hr
  obtain ⟨r, hread, hr⟩ := hreaches (text.lines.zipIdx 1) (by simp [htext])
  exact ⟨r.source, ofText_eq_ok_iff.mpr ⟨r, hread, rfl⟩, hr⟩

theorem ofText_insertions_reopened :
    ∃ source, Source.ofText
        "[main]\nPort = 80\n[a]b]\nk #[1] = x = y: [z] # w\n[MAIN]\nport = " none = .ok source ∧
      source.relabel id (fun _ => 0) = (((Source.blank none).insert "main" "Port" "80").insert
        "a]b" "k #[1]" "x = y: [z] # w").insert "MAIN" "port" "" := by
  have htrimmed : ∀ t : Text, t.trim = t → Text.IsTrimmed t := fun _ => Text.trim_eq_self_iff.mp
  have hupper : Reader.IsKey "Port" :=
    Reader.isKey_of_isWord (by decide) (List.all_eq_true.mp (by decide))
  have hmarked : Reader.IsKey "k #[1]" := {
    isTrimmed := htrimmed _ (by decide)
    ne_nil := by decide
    no_separator := by decide
    no_mark := by
      rintro c ⟨⟩
      decide }
  have hlower : Reader.IsKey "port" :=
    Reader.isKey_of_isWord (by decide) (List.all_eq_true.mp (by decide))
  have hitems : ∀ i ∈ ([⟨"main", "Port", "80"⟩, ⟨"a]b", "k #[1]", "x = y: [z] # w"⟩,
      ⟨"MAIN", "port", ""⟩] : List Insertion), i.Writable := by
    simp only [List.forall_mem_cons, List.not_mem_nil, false_imp_iff, implies_true, and_true]
    exact ⟨⟨htrimmed _ (by decide), by decide, hupper, htrimmed _ (by decide), by decide⟩,
      ⟨htrimmed _ (by decide), by decide, hmarked, htrimmed _ (by decide), by decide⟩,
      ⟨htrimmed _ (by decide), by decide, hlower, htrimmed _ (by decide), by decide⟩⟩
  exact (ofText_insertions hitems none).2 _ (by decide)

end IniSchema.Source
