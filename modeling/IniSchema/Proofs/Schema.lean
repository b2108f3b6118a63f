import IniSchema.Proofs.Manual.Compilation
import IniSchema.Proofs.Manual.Forms
import IniSchema.Proofs.Reading

/-!
# Schemas of manuals

What holds of every schema that is compiled from a manual.  Environments, sections and variables
stand under the keys of their names, so that each is what its own name leads to.  Identifiers are
words and are shown in capitals, defaults are values of their types, no text goes over several
lines, and the default environment is there with a section.
-/

namespace IniSchema

open Unicode

structure Variable.Sound (v : Variable) : Prop where
  ident_ne_nil : v.ident ≠ []
  ident_isWord : ∀ c ∈ v.ident, isWord c = true
  name_eq : v.name = Name.canonical v.ident
  description_line : '\n' ∉ v.description
  default_hasType : ∀ value, v.default = some value → value.hasType v.type
  default_line : ∀ s, v.default = some (.string s) → '\n' ∉ s

structure Section.Sound (s : Section) : Prop where
  name_line : '\n' ∉ s.name
  name_trimmed : (∃ c ∈ s.name, isBlank c = false) → Text.IsTrimmed s.name
  keyed : s.declared.Keyed Variable.ident
  declared : ∀ v ∈ s.declared.values, v.Sound

structure Environment.Sound (e : Environment) : Prop where
  name_line : '\n' ∉ e.name
  keyed : e.sections.Keyed Section.name
  sections : ∀ s ∈ e.sections.values, s.Sound

structure Schema.Sound (s : Schema) : Prop where
  appName_ne_nil : s.appName ≠ []
  appName_solid : ∀ c ∈ s.appName, isBlank c = false
  keyed : s.environments.Keyed Environment.name
  environments : ∀ e ∈ s.environments.values, e.Sound
  default_has_section : ∃ e ∈ s.environments.values,
    e.isDefault = true ∧ e.sections.values ≠ []

theorem Variable.Sound.ident_line {v : Variable} (h : v.Sound) : '\n' ∉ v.ident := by
  intro hmem
  exact absurd (h.ident_isWord _ hmem) (by decide)

theorem Variable.Sound.name_line {v : Variable} (h : v.Sound) : '\n' ∉ v.name := by
  rw [h.name_eq, Name.canonical, mem_upper_iff (by decide)]
  exact h.ident_line

theorem Schema.Sound.appName_line {s : Schema} (h : s.Sound) : '\n' ∉ s.appName := by
  intro hmem
  have hblank := h.appName_solid _ hmem
  rw [isBlank_newline] at hblank
  cases hblank

namespace Manual

/-! ## Lines of manuals -/

theorem wellFormed_of_mem_linesOf {texts : List Text} (htexts : ∀ t ∈ texts, '\n' ∉ t) :
    ∀ line ∈ linesOf texts, line.WellFormed := by
  induction texts using List.reverseRecOn with
  | nil => simp [linesOf]
  | append_singleton texts t ih =>
      intro line hline
      rw [linesOf_concat] at hline
      rcases List.mem_append.mp hline with hline | hline
      · exact ih (fun u hu => htexts u (by simp [hu])) line hline
      · rw [List.mem_singleton.mp hline]
        exact Line.wellFormed_classify _ (htexts t (by simp))

theorem wellFormed_of_mem_manualLines {manual : Text} :
    ∀ line ∈ manualLines manual, line.WellFormed := by
  apply wellFormed_of_mem_linesOf
  intro t ht
  obtain ⟨⟨number, text⟩, hmem, rfl⟩ := List.mem_map.mp ht
  obtain ⟨⟨line, n⟩, hline, heq⟩ := List.mem_filterMap.mp hmem
  simp only [Option.ite_none_right_eq_some, Option.some.injEq, Prod.mk.injEq] at heq
  obtain ⟨-, -, rfl⟩ := heq
  obtain ⟨raw, hraw, rfl⟩ := List.mem_map.mp (List.fst_mem_of_mem_zipIdx hline)
  exact fun hnewline => Text.newline_notMem_of_mem_lines hraw (Text.mem_of_mem_trim hnewline)

/-! ## Declared parts -/

theorem default_of_readSpec {spec : Option Text} {type : ValueType} {value : Value}
    (h : Draft.readSpec spec = .ok (type, some value)) :
    ∃ text default, spec = some text ∧ (∀ c ∈ default, c ∈ text) ∧
      type.read default = .ok value := by
  cases spec with
  | none => cases h
  | some text =>
      simp only [Draft.readSpec] at h
      cases hcut : text.cut? (· == ':') with
      | none =>
          rw [hcut] at h
          obtain ⟨found, -, heq⟩ := Run.map_eq_ok_iff.mp h
          cases heq
      | some cut =>
          obtain ⟨typeName, default⟩ := cut
          simp only [hcut] at h
          cases htype : ValueType.ofName typeName with
          | error fault => simp [htype] at h
          | ok found =>
              rw [htype] at h
              obtain ⟨w, hread, heq⟩ := Run.map_eq_ok_iff.mp h
              cases heq
              obtain ⟨colon, htext, -, -⟩ := Text.cut?_eq_some_iff.mp hcut
              refine ⟨text, default, rfl, ?_, hread⟩
              intro c hc
              rw [htext]
              simp [hc]

theorem VariableDeclaredBy.sound {v : Variable} {block : Declaration × List Line}
    (h : VariableDeclaredBy v block)
    (hline : (Line.declaration block.1.ident block.1.spec block.1.description).WellFormed)
    (hlines : ∀ line ∈ block.2, line.WellFormed) : v.Sound := by
  obtain ⟨hname, hident, hspec, hdescription⟩ := h
  obtain ⟨hne, hword, htext, hfirst⟩ := hline
  constructor
  · rwa [hident]
  · rwa [hident]
  · rw [hname, hident]
  · rw [hdescription]
    intro hmem
    rcases Text.mem_of_mem_joinNonempty hmem with hspace | ⟨piece, hpiece, hnewline⟩
    · simp at hspace
    · rcases List.mem_cons.mp hpiece with rfl | hpiece
      · exact hfirst hnewline
      · obtain ⟨line, hline, hcontinuation⟩ := List.mem_filterMap.mp hpiece
        obtain rfl := Line.continuation?_eq_some.mp hcontinuation
        exact hlines _ hline hnewline
  · intro value hvalue
    rw [hvalue] at hspec
    obtain ⟨text, default, -, -, hread⟩ := default_of_readSpec hspec
    exact ValueType.hasType_of_read hread
  · intro s hs hmem
    rw [hs] at hspec
    obtain ⟨text, default, htext', hpart, hread⟩ := default_of_readSpec hspec
    exact htext text htext' (hpart _ (ValueType.mem_of_read_string hread hmem))

theorem SectionDeclaredBy.sound {s : Section} {block : Text × List Line}
    (h : SectionDeclaredBy s block) (hline : (Line.sectionHeader block.1).WellFormed)
    (hlines : ∀ line ∈ block.2, line.WellFormed) : s.Sound := by
  obtain ⟨hname, hdeclared⟩ := h
  obtain ⟨hnewline, htrimmed⟩ := hline
  constructor
  · rwa [hname]
  · rwa [hname]
  · exact hdeclared.keyed fun _ _ hv => hv.2.1
  · intro v hv
    obtain ⟨inner, hinner, hdeclaredBy⟩ := hdeclared.exists_of_mem_values hv
    obtain ⟨line, hline, hhead⟩ := exists_head_of_mem_blocks hinner
    obtain rfl := Line.declared?_eq_some.mp hhead
    exact hdeclaredBy.sound (hlines _ hline) fun x hx => hlines x (mem_of_mem_block hinner hx)

theorem EnvironmentDeclaredBy.sound {e : Environment} {block : Text × List Line}
    (h : EnvironmentDeclaredBy e block) (hline : (Line.environment block.1).WellFormed)
    (hlines : ∀ line ∈ block.2, line.WellFormed) : e.Sound := by
  obtain ⟨hname, hsections⟩ := h
  constructor
  · rwa [hname]
  · exact hsections.keyed fun _ _ hs => hs.1
  · intro s hs
    obtain ⟨inner, hinner, hdeclaredBy⟩ := hsections.exists_of_mem_values hs
    obtain ⟨line, hline, hhead⟩ := exists_head_of_mem_blocks hinner
    obtain rfl := Line.sectionName?_eq_some.mp hhead
    exact hdeclaredBy.sound (hlines _ hline) fun x hx => hlines x (mem_of_mem_block hinner hx)

theorem DeclaredBy.exists_default_with_section {s : Schema} {lines : List Line}
    (h : DeclaredBy s lines) (hsection : DefaultHasSection lines) :
    ∃ e ∈ s.environments.values, e.isDefault = true ∧ e.sections.values ≠ [] := by
  obtain ⟨block, hblock, hkey, hkeys⟩ := hsection
  obtain ⟨e, he, hname, hsections⟩ := h.environments.get?_of_mem hblock
  refine ⟨e, OrderedMap.mem_values.mpr ⟨_, OrderedMap.get?_eq_some_iff.mp he⟩, ?_, ?_⟩
  · rw [Environment.isDefault, hname, hkey]
    exact beq_self_eq_true _
  · rw [← keys_sections hsections] at hkeys
    simpa [OrderedMap.keys, OrderedMap.values] using hkeys

theorem DeclaredBy.sound {s : Schema} {lines : List Line} (h : DeclaredBy s lines)
    (hsection : DefaultHasSection lines) (hlines : ∀ line ∈ lines, line.WellFormed) : s.Sound := by
  have happName : (Line.appName s.appName).WellFormed := by
    obtain ⟨line, hline, hname⟩ := List.mem_filterMap.mp (List.mem_of_mem_head? h.appName)
    rw [← Line.applicationName?_eq_some.mp hname]
    exact hlines _ hline
  constructor
  · exact happName.1
  · exact happName.2
  · exact h.environments.keyed fun _ _ he => he.1
  · intro e he
    obtain ⟨block, hblock, hdeclaredBy⟩ := h.environments.exists_of_mem_values he
    obtain ⟨line, hline, hhead⟩ := exists_head_of_mem_blocks hblock
    obtain rfl := Line.environmentName?_eq_some.mp hhead
    exact hdeclaredBy.sound (hlines _ hline) fun x hx => hlines x (mem_of_mem_block hblock hx)
  · exact h.exists_default_with_section hsection

end Manual

theorem Schema.sound_of_ofManual {manual : Text} {s : Schema} (h : Schema.ofManual manual = .ok s) :
    s.Sound := by
  obtain ⟨hgrammatical, hdeclared⟩ := Manual.of_ofManual_ok h
  exact hdeclared.sound hgrammatical.default_has_section Manual.wellFormed_of_mem_manualLines

/-! ## A manual with two variables -/

def serverManual : Text :=
  "name: app\n\x7bdefault\x7d\n[main]\nhost: Where it listens\nport (int:80): Port\n"

def serverSection : Section :=
  ⟨"main",
    (OrderedMap.empty.insert "host" ⟨"HOST", "host", .string, none, "Where it listens"⟩).insert
      "port" ⟨"PORT", "port", .integer, some (.integer 80), "Port"⟩⟩

def serverEnvironment : Environment := ⟨"default", OrderedMap.empty.insert "main" serverSection⟩

def serverSchema : Schema := ⟨"app", OrderedMap.empty.insert "default" serverEnvironment⟩

theorem ofManual_serverManual : Schema.ofManual serverManual = .ok serverSchema := by rfl

theorem values_serverSchema : serverSchema.environments.values = [serverEnvironment] := rfl

theorem values_serverEnvironment : serverEnvironment.sections.values = [serverSection] := rfl

theorem serverEnvironment_mem : serverEnvironment ∈ serverSchema.environments.values := by
  simp [values_serverSchema]

/-! ## Look-ups of what is declared -/

theorem Schema.Sound.exists_default {s : Schema} (h : s.Sound) :
    ∃ e, s.defaultEnvironment? = some e ∧ e.sections.values ≠ [] ∧
      ∀ f ∈ s.environments.values, f.isDefault = true ↔ f = e := by
  obtain ⟨e, he, hdefault, hsections⟩ := h.default_has_section
  have hkey : Name.key e.name = Environment.defaultName := beq_iff_eq.mp hdefault
  refine ⟨e, h.keyed.get?_eq_some_iff.mpr ⟨he, hkey⟩, hsections, ?_⟩
  intro f hf
  constructor
  · intro hfdefault
    have hfkey : Name.key f.name = Environment.defaultName := beq_iff_eq.mp hfdefault
    exact h.keyed.eq_of_key_eq hf he (hfkey.trans hkey.symm)
  · rintro rfl
    exact hdefault

/-- Every compiled schema is sound, each part is what its own name leads to, and one environment
is the default. -/
theorem Schema.ofManual_representation {manual : Text} {s : Schema}
    (hs : Schema.ofManual manual = .ok s) :
    s.Sound ∧
    (∀ e ∈ s.environments.values, s.environment? e.name = some e ∧
      ∀ sec ∈ e.sections.values, e.section? sec.name = some sec ∧
        ∀ v ∈ sec.declared.values, sec.get? v.ident = some v ∧ v.name = upper v.ident ∧
          '\n' ∉ v.ident ∧ '\n' ∉ v.name) ∧
    '\n' ∉ s.appName ∧
    ∃ e, s.defaultEnvironment? = some e ∧ e.sections.values ≠ [] ∧
      ∀ f ∈ s.environments.values, f.isDefault = true ↔ f = e := by
  have hsound := sound_of_ofManual hs
  refine ⟨hsound, ?_, hsound.appName_line, hsound.exists_default⟩
  intro e he
  have hesound := hsound.environments e he
  refine ⟨hsound.keyed.get?_name he, ?_⟩
  intro sec hsec
  have hsecsound := hesound.sections sec hsec
  refine ⟨hesound.keyed.get?_name hsec, ?_⟩
  intro v hv
  have hvsound := hsecsound.declared v hv
  exact ⟨hsecsound.keyed.get?_name hv, hvsound.name_eq, hvsound.ident_line, hvsound.name_line⟩

theorem Schema.ofManual_representation_server :
    Schema.ofManual serverManual = .ok serverSchema ∧
      serverSchema.environment? "default" = some serverEnvironment ∧
      serverEnvironment.section? "main" = some serverSection := by
  obtain ⟨-, hfound, -, -⟩ := ofManual_representation ofManual_serverManual
  obtain ⟨henvironment, hsections⟩ := hfound serverEnvironment serverEnvironment_mem
  obtain ⟨hsection, -⟩ := hsections serverSection (by simp [values_serverEnvironment])
  exact ⟨ofManual_serverManual, henvironment, hsection⟩

end IniSchema
