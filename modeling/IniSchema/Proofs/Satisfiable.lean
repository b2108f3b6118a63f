import IniSchema.Loading
import IniSchema.Proofs.Source.Steps
import IniSchema.Proofs.Template
import IniSchema.Proofs.Undeclared

/-!
# Environments that a text satisfies

The null word is a value of every type, so that a text with an entry for each variable satisfies an
environment, as long as the text can open the sections.  A manual may declare a section with a
blank name, and no text opens such a section.  An environment can be satisfied exactly if it
requires nothing there.
-/

namespace IniSchema

open Unicode

/-! ## Null for every variable -/

def Variable.nulled (v : Variable) : Variable := { v with default := some .null }

def Section.nulled (s : Section) : Section := { s with declared := s.declared.map Variable.nulled }

def Section.isNamed (s : Section) : Bool := s.name.any fun c => !isBlank c

/-- The sections that a text can open, with null as the default of every variable. -/
def Environment.nulled (e : Environment) : Environment :=
  { e with sections := (e.sections.filter Section.isNamed).map Section.nulled }

namespace Section

variable {s : Section}

theorem isNamed_iff : s.isNamed = true ↔ ∃ c ∈ s.name, isBlank c = false := by
  simp [isNamed]

theorem isNamed_eq_false_iff : s.isNamed = false ↔ Name.key s.name = [] := by
  simp [isNamed, Name.key_eq_nil_iff]

theorem mem_nulled_declared {v : Variable} :
    v ∈ s.nulled.declared.values ↔ ∃ w ∈ s.declared.values, w.nulled = v := by
  simp [nulled, OrderedMap.values_map]

end Section

theorem Variable.Sound.nulled {v : Variable} (h : v.Sound) : v.nulled.Sound where
  ident_ne_nil := h.ident_ne_nil
  ident_isWord := h.ident_isWord
  name_eq := h.name_eq
  description_line := h.description_line
  default_hasType := by
    rintro value ⟨⟩
    rfl
  default_line := by
    rintro s ⟨⟩

theorem Section.Sound.nulled {s : Section} (h : s.Sound) : s.nulled.Sound where
  name_line := h.name_line
  name_trimmed := h.name_trimmed
  keyed := h.keyed.map fun _ => rfl
  declared := by
    intro v hv
    obtain ⟨w, hw, rfl⟩ := mem_nulled_declared.mp hv
    exact (h.declared w hw).nulled

namespace Environment

variable {e : Environment} {source : Source}

theorem mem_nulled_sections {s : Section} :
    s ∈ e.nulled.sections.values ↔ ∃ t ∈ e.sections.values, t.isNamed = true ∧ t.nulled = s := by
  simp [nulled, OrderedMap.values_map, OrderedMap.values_filter, and_assoc]

theorem Sound.nulled (h : e.Sound) : e.nulled.Sound where
  name_line := h.name_line
  keyed := (h.keyed.filter _).map fun _ => rfl
  sections := by
    intro s hs
    obtain ⟨t, ht, -, rfl⟩ := mem_nulled_sections.mp hs
    exact (h.sections t ht).nulled

theorem Undeclared.nulled_header {found : SourceSection} (h : e.Undeclared (.header found)) :
    e.nulled.Undeclared (.header found) := by
  intro s hs
  obtain ⟨t, ht, -, rfl⟩ := mem_nulled_sections.mp hs
  exact h t ht

theorem Undeclared.nulled_entry (hsound : e.Sound) {found : SourceSection} {entry : Entry}
    (h : e.Undeclared (.entry found entry)) (hheader : ¬ e.nulled.Undeclared (.header found)) :
    e.nulled.Undeclared (.entry found entry) := by
  simp only [Undeclared, not_forall, not_not, exists_prop] at hheader
  obtain ⟨s', hs', hname'⟩ := hheader
  obtain ⟨t, ht, -, rfl⟩ := mem_nulled_sections.mp hs'
  obtain ⟨s, hs, hname, hnone⟩ := h
  obtain rfl := hsound.keyed.eq_of_key_eq ht hs (hname'.trans hname.symm)
  refine ⟨t.nulled, hs', hname', ?_⟩
  intro v hv
  obtain ⟨w, hw, rfl⟩ := Section.mem_nulled_declared.mp hv
  exact hnone w hw

end Environment

/-! ## A text for the sections that have a name -/

namespace Source.Writes

variable {source : Source} {e : Environment} {s : Section}

theorem nothing_undeclared (h : source.Writes e.nulled) (hsound : e.Sound) :
    ∀ item ∈ source.items, ¬ e.Undeclared item := by
  have hnulled : ∀ item ∈ source.items, ¬ e.nulled.Undeclared item := by
    have hreport := h.undeclared_eq_nil hsound.nulled
    rw [Environment.undeclared_eq hsound.nulled] at hreport
    simpa using hreport
  intro item hitem hundeclared
  cases item with
  | header found => exact hnulled _ hitem hundeclared.nulled_header
  | entry found entry =>
      obtain ⟨hfound, -⟩ := entry_mem_items.mp hitem
      have hheader := hnulled _ (header_mem_items.mpr hfound)
      exact hnulled _ hitem (hundeclared.nulled_entry hsound hheader)

theorem accepts_named (h : source.Writes e.nulled) (hs : s ∈ e.sections.values)
    (hnamed : s.isNamed = true) : s.Accepts source := by
  intro v hv
  have hs' : s.nulled ∈ e.nulled.sections.values :=
    Environment.mem_nulled_sections.mpr ⟨s, hs, hnamed, rfl⟩
  have hv' : v.nulled ∈ s.nulled.declared.values := Section.mem_nulled_declared.mpr ⟨v, hv, rfl⟩
  have hdefault : v.nulled.default = some .null := rfl
  obtain ⟨entry, hentry, hread⟩ := h.exists_entry hs' hv' hdefault
  have hget : source.get? s.name v.ident = some entry := hentry
  rw [hget]
  exact ⟨.null, hread⟩

end Source.Writes

theorem Section.accepts_of_blank {s : Section} {source : Source}
    (hsource : [] ∉ source.sections.keys) (hname : s.isNamed = false) :
    s.Accepts source ↔ ∀ v ∈ s.declared.values, v.isRequired = false := by
  have hnone : source.section? s.name = none := by
    rw [Source.section?, Section.isNamed_eq_false_iff.mp hname]
    exact OrderedMap.get?_eq_none_iff.mpr hsource
  refine forall₂_congr fun v _ => ?_
  rw [Source.get?, hnone]
  simp [Variable.Takes, Variable.isRequired, Option.isSome_iff_exists]

/-- The environment asks for nothing in a section that no text can open. -/
def Environment.Writable (e : Environment) : Prop :=
  ∀ s ∈ e.sections.values, (∀ c ∈ s.name, isBlank c = true) →
    ∀ v ∈ s.declared.values, v.isRequired = false

theorem Environment.exists_text_iff {e : Environment} (hsound : e.Sound) (path : Option Text) :
    (∃ text source t, Source.ofText text path = .ok source ∧ e.validate source true = .ok t) ↔
      e.Writable := by
  constructor
  · rintro ⟨text, source, t, hsource, ht⟩ s hs hblank
    have haccepts := exists_settings_iff.mp ⟨t, settings_of_validate ht⟩ s hs
    have hname : s.isNamed = false := by simpa [Section.isNamed] using hblank
    exact (Section.accepts_of_blank (Source.Reader.nil_notMem_keys_of_ofText hsource) hname).mp
      haccepts
  · intro hwritable
    have hnames : ∀ s ∈ e.nulled.sections.values, ∃ c ∈ s.name, isBlank c = false := by
      intro s hs
      obtain ⟨t, -, hnamed, rfl⟩ := mem_nulled_sections.mp hs
      exact Section.isNamed_iff.mp hnamed
    obtain ⟨source, hsource, hwrites⟩ :=
      Source.exists_ofText_template hsound.nulled
        (List.not_mem_nil : '\n' ∉ ([] : Text)) hnames path
    have haccepts : e.Accepts source := by
      intro s hs
      cases hname : s.isNamed with
      | true => exact hwrites.accepts_named hs hname
      | false =>
          have hblank : ∀ c ∈ s.name, isBlank c = true := by simpa [Section.isNamed] using hname
          exact (Section.accepts_of_blank (Source.Reader.nil_notMem_keys_of_ofText hsource)
            hname).mpr (hwritable s hs hblank)
    obtain ⟨t, ht⟩ := exists_settings_iff.mpr haccepts
    refine ⟨_, source, t, hsource, ?_⟩
    rw [validate_strict_of_forall hsound (hwrites.nothing_undeclared hsound)]
    exact ht

/-! ## Loading -/

/-- Loads a text strictly for the environment with the name. -/
def Loading.strictly (s : Schema) (places : SearchPlaces) (environment text : Text) : Loading :=
  { ofSchema s places with environment := some environment, text := some text, strict := true }

theorem Loading.exists_strictly_iff {s : Schema} (hsound : s.Sound) {e : Environment}
    (he : e ∈ s.environments.values) (places : SearchPlaces) (files : FileView) :
    (∃ text t, (strictly s places e.name text).load files = .ok t) ↔ e.Writable := by
  have hload : ∀ text, (strictly s places e.name text).load files =
      (Source.ofText text none).bind fun source => e.validate source true := by
    intro text
    simp only [← Schema.validate_of_key_eq hsound he rfl]
    rfl
  rw [← Environment.exists_text_iff (hsound.environments e he) none]
  refine exists_congr fun text => ?_
  rw [hload, exists_comm]
  refine exists_congr fun t => ?_
  cases Source.ofText text none <;> simp [Except.bind]

/-- Every environment has a text that loads strictly, but for those that require a variable in a
section with a blank name. -/
theorem Schema.satisfiable_iff {manual : Text} {s : Schema} (hs : Schema.ofManual manual = .ok s)
    {e : Environment} (he : e ∈ s.environments.values) (places : SearchPlaces) (files : FileView) :
    (∃ text t, (Loading.strictly s places e.name text).load files = .ok t) ↔ e.Writable :=
  Loading.exists_strictly_iff (sound_of_ofManual hs) he places files

theorem Schema.satisfiable_iff_server :
    ∃ text t, (Loading.strictly serverSchema (.ofVariables none none none) "default" text).load
      (fun _ => none) = .ok t := by
  refine (satisfiable_iff ofManual_serverManual serverEnvironment_mem _ _).mpr ?_
  intro sec hsec hblank
  rw [values_serverEnvironment, List.mem_singleton] at hsec
  subst hsec
  exact absurd (hblank 'm' (by decide)) (by decide)

/-- A section with a blank name, and a required variable in it. -/
def blankManual : Text := "name: app\n\x7bdefault\x7d\n[ ]\nx (int): y\n"

def blankSection : Section :=
  ⟨" ", OrderedMap.empty.insert "x" ⟨"X", "x", .integer, none, "y"⟩⟩

def blankEnvironment : Environment := ⟨"default", OrderedMap.empty.insert [] blankSection⟩

theorem Schema.unsatisfiable_blank :
    ∃ s, Schema.ofManual blankManual = .ok s ∧ s.environments.values = [blankEnvironment] ∧
      ∀ places files text t, (Loading.strictly s places "default" text).load files ≠ .ok t := by
  obtain ⟨s, hs, hvalues⟩ : ∃ s, Schema.ofManual blankManual = .ok s ∧
      s.environments.values = [blankEnvironment] := ⟨_, rfl, rfl⟩
  refine ⟨s, hs, hvalues, ?_⟩
  have he : blankEnvironment ∈ s.environments.values := by simp [hvalues]
  intro places files text t ht
  have hwritable := (Loading.exists_strictly_iff (sound_of_ofManual hs) he places files).mp
    ⟨text, t, ht⟩
  have hspace : isBlank ' ' = true := by decide
  have hrequired := hwritable blankSection (.head _) (by simp [blankSection, hspace]) _ (.head _)
  cases hrequired

end IniSchema
