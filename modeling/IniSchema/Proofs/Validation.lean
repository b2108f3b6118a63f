import IniSchema.Proofs.Schema
import IniSchema.Validation

/-!
# What lenient validation gives

Each variable takes the value of its entry, or its default if it has no entry.  Validation succeeds
exactly if all variables take something, and then gives every section and every variable once, in
the order of declaration.  Otherwise it blames the first section with a variable that takes
nothing.
-/

namespace IniSchema

/-! ## Variables -/

/-- The value that a variable gets from its entry. -/
def Variable.Takes (v : Variable) (entry : Option Entry) (value : Value) : Prop :=
  match entry with
  | some e => v.type.read e.value = .ok value
  | none => v.default = some value

/-- Why a variable gets no value from its entry. -/
def Variable.Complains (v : Variable) (entry : Option Entry) (reason : Text) : Prop :=
  match entry with
  | some e => ∃ fault, v.type.read e.value = .error fault ∧
      reason = v.name ++ " = " ++ e.value.quoted ++ " (line " ++ Text.ofNat e.line ++ "): " ++
        fault.message
  | none => v.default = none ∧ reason = "missing required variable " ++ v.name

namespace Variable

variable {v : Variable} {sectionName : Text} {entry : Option Entry}

theorem setting_ok_iff {setting : Setting} :
    v.setting sectionName entry = .ok setting ↔
      setting.name = v.name ∧ v.Takes entry setting.value := by
  obtain ⟨name, value⟩ := setting
  cases entry with
  | some e => cases hread : v.type.read e.value <;> simp [Variable.setting, Takes, hread, eq_comm]
  | none => cases hdefault : v.default <;> simp [Variable.setting, Takes, hdefault, eq_comm]

theorem setting_error_iff {fault : Fault} :
    v.setting sectionName entry = .error fault ↔ ∃ reason, v.Complains entry reason ∧
      fault = .badConfig sectionName (some v.name) (entry.map Entry.value) reason := by
  cases entry with
  | some e =>
      cases hread : v.type.read e.value <;> simp [Variable.setting, Complains, hread, eq_comm]
  | none => cases hdefault : v.default <;> simp [Variable.setting, Complains, hdefault, eq_comm]

end Variable

/-! ## Sections -/

namespace Section

def Accepts (s : Section) (source : Source) : Prop :=
  ∀ v ∈ s.declared.values, ∃ value, v.Takes (source.get? s.name v.ident) value

/-- What validation blames a section for. -/
inductive Fails (s : Section) (source : Source) : Fault → Prop
  | absent (hsection : source.section? s.name = none)
      (hrequired : ∃ v ∈ s.declared.values, v.default = none) :
      Fails s source (.badConfig s.name none none
        ("section is missing but declares required variables: " ++
          Text.join ", " (s.required.map Variable.name)))
  | variable {found : SourceSection} (hsection : source.section? s.name = some found)
      {before after : List Variable} {v : Variable}
      (hvariables : s.declared.values = before ++ v :: after)
      (hbefore : ∀ w ∈ before, ∃ value, w.Takes (found.get? w.ident) value) {reason : Text}
      (hreason : v.Complains (found.get? v.ident) reason) :
      Fails s source
        (.badConfig s.name (some v.name) ((found.get? v.ident).map Entry.value) reason)

end Section

/-- Each variable with what it takes from the source, in the order of declaration. -/
def SectionSettings.Fills (t : SectionSettings) (s : Section) (source : Source) : Prop :=
  t.name = s.name ∧
    t.settings.Lists
      (fun setting v => setting.name = v.name ∧
        v.Takes (source.get? s.name v.ident) setting.value)
      Variable.ident s.declared.values

namespace Section

variable {s : Section} {source : Source}

private theorem settings_eq_foldlM (h : ¬(source.section? s.name = none ∧ s.hasRequired)) :
    s.settings source = s.declared.values.foldlM
      (fun settings v =>
        (v.setting s.name (source.get? s.name v.ident)).map (settings.set v.ident))
      (SectionSettings.blank s.name) := by
  unfold settings
  rw [← Option.isNone_iff_eq_none, ← Bool.and_eq_true] at h
  exact if_neg h

private theorem settings_absent (hsection : source.section? s.name = none)
    (hrequired : s.hasRequired) : s.settings source = .error s.absence := by
  simp [settings, hsection, hrequired]

theorem hasRequired_iff : s.hasRequired = true ↔ ∃ v ∈ s.declared.values, v.default = none := by
  simp [hasRequired, Variable.isRequired]

theorem exists_settings_iff : (∃ t, s.settings source = .ok t) ↔ s.Accepts source := by
  by_cases habsent : source.section? s.name = none ∧ s.hasRequired
  · rw [settings_absent habsent.1 habsent.2]
    constructor
    · rintro ⟨t, ht⟩
      cases ht
    · intro haccepts
      obtain ⟨v, hv, hdefault⟩ := hasRequired_iff.mp habsent.2
      obtain ⟨value, hvalue⟩ := haccepts v hv
      simp [Source.get?, habsent.1, Variable.Takes, hdefault] at hvalue
  · rw [settings_eq_foldlM habsent, Run.exists_ok_map_iff]
    refine forall₂_congr fun v hv => ?_
    constructor
    · rintro ⟨setting, hsetting⟩
      exact ⟨setting.value, (Variable.setting_ok_iff.mp hsetting).2⟩
    · rintro ⟨value, hvalue⟩
      exact ⟨⟨v.name, value⟩, Variable.setting_ok_iff.mpr ⟨rfl, hvalue⟩⟩

theorem fills_of_settings {t : SectionSettings} (hsound : s.Sound)
    (h : s.settings source = .ok t) : t.Fills s source := by
  have hpresent : ¬(source.section? s.name = none ∧ s.hasRequired) := by
    rintro ⟨hsection, hrequired⟩
    rw [settings_absent hsection hrequired] at h
    cases h
  rw [settings_eq_foldlM hpresent] at h
  refine Run.invariant_of_ok_map
    (fun before t => t.name = s.name ∧ t.settings.Lists
      (fun setting v => setting.name = v.name ∧
        v.Takes (source.get? s.name v.ident) setting.value) Variable.ident before)
    ⟨rfl, .empty⟩ ?_ h
  rintro before v after t setting hvalues ⟨hname, hlists⟩ hsetting
  refine ⟨hname, hlists.insert v ?_ (Variable.setting_ok_iff.mp hsetting)⟩
  rw [hlists.keys_eq]
  exact hsound.keyed.notMem_before hvalues

theorem accepts_of_fills {t : SectionSettings} (h : t.Fills s source) : s.Accepts source := by
  intro v hv
  obtain ⟨setting, -, -, hvalue⟩ := h.2.get?_of_mem hv
  exact ⟨setting.value, hvalue⟩

theorem fills_unique {t t' : SectionSettings} (h : t.Fills s source) (h' : t'.Fills s source) :
    t = t' := by
  obtain ⟨name, settings⟩ := t
  obtain ⟨name', settings'⟩ := t'
  obtain ⟨rfl, hlists⟩ := h
  obtain ⟨rfl, hlists'⟩ := h'
  congr 1
  apply hlists.unique hlists'
  rintro setting setting' v ⟨hname, hvalue⟩ ⟨hname', hvalue'⟩
  have hsetting : v.setting s.name (source.get? s.name v.ident) = .ok setting :=
    Variable.setting_ok_iff.mpr ⟨hname, hvalue⟩
  rw [Variable.setting_ok_iff.mpr ⟨hname', hvalue'⟩] at hsetting
  cases hsetting
  rfl

theorem settings_error_iff {fault : Fault} :
    s.settings source = .error fault ↔ s.Fails source fault := by
  cases hsection : source.section? s.name with
  | none =>
      cases hrequired : s.hasRequired with
      | true =>
          rw [settings_absent hsection hrequired]
          constructor
          · intro h
            cases h
            exact .absent hsection (hasRequired_iff.mp hrequired)
          · rintro (_ | ⟨hfound, -, -, -⟩)
            · rfl
            · rw [hsection] at hfound
              cases hfound
      | false =>
          -- Without required variables an absent section gets its defaults.
          have haccepts : s.Accepts source := by
            intro v hv
            cases hdefault : v.default with
            | none => simp [hasRequired_iff.mpr ⟨v, hv, hdefault⟩] at hrequired
            | some value => exact ⟨value, by simp [Source.get?, hsection, Variable.Takes, hdefault]⟩
          obtain ⟨t, ht⟩ := exists_settings_iff.mpr haccepts
          rw [ht]
          constructor
          · intro h
            cases h
          · rintro (⟨-, hrequired'⟩ | ⟨hfound, -, -, -⟩)
            · simp [hasRequired_iff.mpr hrequired'] at hrequired
            · rw [hsection] at hfound
              cases hfound
  | some found =>
      have hget : ∀ v : Variable, source.get? s.name v.ident = found.get? v.ident := by
        intro v
        simp [Source.get?, hsection]
      rw [settings_eq_foldlM (by simp [hsection]), Run.error_map_iff]
      simp only [hget, Variable.setting_error_iff]
      constructor
      · rintro ⟨before, v, after, hvalues, hbefore, reason, hreason, rfl⟩
        refine .variable hsection hvalues ?_ hreason
        intro w hw
        obtain ⟨setting, hsetting⟩ := hbefore w hw
        exact ⟨setting.value, (Variable.setting_ok_iff.mp hsetting).2⟩
      · rintro (⟨hnone, -⟩ | ⟨hfound, hvalues, hbefore, hreason⟩)
        · rw [hsection] at hnone
          cases hnone
        · rw [hsection] at hfound
          cases hfound
          refine ⟨_, _, _, hvalues, ?_, _, hreason, rfl⟩
          intro w hw
          obtain ⟨value, hvalue⟩ := hbefore w hw
          exact ⟨⟨w.name, value⟩, Variable.setting_ok_iff.mpr ⟨rfl, hvalue⟩⟩

/-- An entry without a value of the variable's type is blamed if all before it have values. -/
theorem Fails.misread {before after : List Variable} {v : Variable}
    (hvariables : s.declared.values = before ++ v :: after)
    (hbefore : ∀ w ∈ before, ∃ value, w.Takes (source.get? s.name w.ident) value) {entry : Entry}
    (hentry : source.get? s.name v.ident = some entry) {fault : Fault}
    (hread : v.type.read entry.value = .error fault) :
    s.Fails source (.badConfig s.name (some v.name) (some entry.value)
      (v.name ++ " = " ++ entry.value.quoted ++ " (line " ++ Text.ofNat entry.line ++ "): " ++
        fault.message)) := by
  obtain ⟨found, hfound, hget⟩ := Option.bind_eq_some_iff.mp hentry
  have hsame : ∀ w : Variable, source.get? s.name w.ident = found.get? w.ident := by
    intro w
    rw [Source.get?, hfound, Option.bind_some]
  simp only [hsame] at hbefore
  have hcomplains : v.Complains (found.get? v.ident)
      (v.name ++ " = " ++ entry.value.quoted ++ " (line " ++ Text.ofNat entry.line ++ "): " ++
        fault.message) := by
    rw [hget]
    exact ⟨fault, hread, rfl⟩
  have hfails := Fails.variable hfound hvariables hbefore hcomplains
  rwa [hget] at hfails

end Section

/-! ## Environments -/

namespace Environment

def Accepts (e : Environment) (source : Source) : Prop :=
  ∀ s ∈ e.sections.values, s.Accepts source

def Fails (e : Environment) (source : Source) (fault : Fault) : Prop :=
  ∃ before s after, e.sections.values = before ++ s :: after ∧
    (∀ t ∈ before, t.Accepts source) ∧ s.Fails source fault

end Environment

/-- Each section with what its variables take, in the order of declaration. -/
def Settings.Fills (t : Settings) (e : Environment) (source : Source) : Prop :=
  t.environment = e.name ∧
    t.sections.Lists (fun u s => u.Fills s source) Section.name e.sections.values

theorem Settings.Fills.of_takes {t : Settings} {e : Environment} {source source' : Source}
    (h : t.Fills e source)
    (htakes : ∀ s ∈ e.sections.values, ∀ v ∈ s.declared.values, ∀ value,
      v.Takes (source.get? s.name v.ident) value →
        v.Takes (source'.get? s.name v.ident) value) : t.Fills e source' := by
  obtain ⟨hname, hsections⟩ := h
  refine ⟨hname, hsections.imp ?_⟩
  rintro s hs u ⟨hu, hsettings⟩
  refine ⟨hu, hsettings.imp ?_⟩
  rintro v hv setting ⟨hsetting, hvalue⟩
  exact ⟨hsetting, htakes s hs v hv setting.value hvalue⟩

namespace Environment

variable {e : Environment} {source : Source}

theorem exists_settings_iff : (∃ t, e.settings source = .ok t) ↔ e.Accepts source := by
  unfold settings Accepts
  rw [Run.exists_ok_map_iff]
  exact forall₂_congr fun s _ => Section.exists_settings_iff

theorem settings_error_iff {fault : Fault} :
    e.settings source = .error fault ↔ e.Fails source fault := by
  unfold settings Fails
  rw [Run.error_map_iff]
  simp only [Section.exists_settings_iff, Section.settings_error_iff]

theorem fills_of_settings {t : Settings} (hsound : e.Sound) (h : e.settings source = .ok t) :
    t.Fills e source := by
  refine Run.invariant_of_ok_map
    (fun before t => t.environment = e.name ∧
      t.sections.Lists (fun u s => u.Fills s source) Section.name before)
    ⟨rfl, .empty⟩ ?_ h
  rintro before s after t u hvalues ⟨hname, hlists⟩ hsettings
  have hmem : s ∈ e.sections.values := by simp [hvalues]
  have hfills := Section.fills_of_settings (hsound.sections s hmem) hsettings
  refine ⟨hname, ?_⟩
  unfold Settings.push
  rw [hfills.1]
  refine hlists.insert s ?_ hfills
  rw [hlists.keys_eq]
  exact hsound.keyed.notMem_before hvalues

theorem settings_of_validate {strict : Bool} {t : Settings}
    (h : e.validate source strict = .ok t) : e.settings source = .ok t := by
  unfold validate at h
  split at h
  · cases h
  · exact h

theorem accepts_of_fills {t : Settings} (h : t.Fills e source) : e.Accepts source := by
  intro s hs
  obtain ⟨u, -, hu⟩ := h.2.get?_of_mem hs
  exact Section.accepts_of_fills hu

theorem fills_unique {t t' : Settings} (h : t.Fills e source) (h' : t'.Fills e source) :
    t = t' := by
  obtain ⟨name, sections⟩ := t
  obtain ⟨name', sections'⟩ := t'
  obtain ⟨rfl, hlists⟩ := h
  obtain ⟨rfl, hlists'⟩ := h'
  congr 1
  exact hlists.unique hlists' fun _ _ _ hu hu' => Section.fills_unique hu hu'

theorem settings_ok_iff {t : Settings} (hsound : e.Sound) :
    e.settings source = .ok t ↔ t.Fills e source := by
  constructor
  · exact fills_of_settings hsound
  · intro h
    obtain ⟨t', ht'⟩ := exists_settings_iff.mpr (accepts_of_fills h)
    rw [ht', fills_unique (fills_of_settings hsound ht') h]

end Environment

/-! ## Schemas -/

namespace Schema

variable {s : Schema}

theorem environment_of_key_eq (hsound : s.Sound) {e : Environment}
    (he : e ∈ s.environments.values) {name : Text} (hname : Name.key e.name = Name.key name) :
    s.environment name = .ok e := by
  have hfound : s.environment? name = some e := hsound.keyed.get?_eq_some_iff.mpr ⟨he, hname⟩
  rw [environment, hfound]

theorem validate_of_key_eq (hsound : s.Sound) {e : Environment} (he : e ∈ s.environments.values)
    {name : Text} (hname : Name.key e.name = Name.key name) (source : Source) (strict : Bool) :
    s.validate name source strict = e.validate source strict := by
  rw [validate, environment_of_key_eq hsound he hname]
  rfl

theorem validate_lenient_of_key_eq (hsound : s.Sound) {e : Environment}
    (he : e ∈ s.environments.values) {name : Text} (hname : Name.key e.name = Name.key name)
    (source : Source) : s.validate name source false = e.settings source := by
  rw [validate_of_key_eq hsound he hname]
  rfl

theorem validate_of_key_ne (hsound : s.Sound) {name : Text}
    (hname : ∀ e ∈ s.environments.values, Name.key e.name ≠ Name.key name) (source : Source)
    (strict : Bool) :
    s.validate name source strict = .error (.undefinedEnvironment name s.environmentNames) := by
  have hmissing : s.environment? name = none := hsound.keyed.get?_eq_none_iff.mpr hname
  simp [validate, environment, hmissing, Except.bind]

theorem exists_environment_of_validate (hsound : s.Sound) {name : Text} {source : Source}
    {strict : Bool} {t : Settings} (h : s.validate name source strict = .ok t) :
    ∃ e ∈ s.environments.values, Name.key e.name = Name.key name ∧
      e.validate source strict = .ok t := by
  by_contra hnone
  have hmissing : ∀ e ∈ s.environments.values, Name.key e.name ≠ Name.key name := by
    intro e he hname
    apply hnone
    rw [validate_of_key_eq hsound he hname] at h
    exact ⟨e, he, hname, h⟩
  rw [validate_of_key_ne hsound hmissing] at h
  cases h

/-- Lenient validation against a compiled schema, for every name and every source. -/
theorem validate_lenient_iff {manual : Text} {s : Schema} (hs : Schema.ofManual manual = .ok s)
    (name : Text) (source : Source) :
    (∀ n available, s.validate name source false = .error (.undefinedEnvironment n available) ↔
      (∀ e ∈ s.environments.values, Name.key e.name ≠ Name.key name) ∧
        n = name ∧ available = s.environmentNames) ∧
    ∀ e ∈ s.environments.values, Name.key e.name = Name.key name →
      ((∃ t, s.validate name source false = .ok t) ↔ e.Accepts source) ∧
      (∀ t, s.validate name source false = .ok t ↔ t.Fills e source) ∧
      ∀ fault, s.validate name source false = .error fault ↔ e.Fails source fault := by
  have hsound := sound_of_ofManual hs
  constructor
  · intro n available
    constructor
    · intro herror
      have hmissing : ∀ e ∈ s.environments.values, Name.key e.name ≠ Name.key name := by
        intro e he hname
        rw [validate_lenient_of_key_eq hsound he hname, Environment.settings_error_iff] at herror
        obtain ⟨before, sec, after, -, -, hfails⟩ := herror
        cases hfails
      rw [validate_of_key_ne hsound hmissing] at herror
      cases herror
      exact ⟨hmissing, rfl, rfl⟩
    · rintro ⟨hmissing, rfl, rfl⟩
      exact validate_of_key_ne hsound hmissing source false
  · intro e he hname
    rw [validate_lenient_of_key_eq hsound he hname]
    exact ⟨Environment.exists_settings_iff,
      fun t => Environment.settings_ok_iff (hsound.environments e he),
      fun fault => Environment.settings_error_iff⟩

theorem validate_lenient_iff_server :
    Schema.ofManual serverManual = .ok serverSchema ∧
      Name.key serverEnvironment.name = Name.key "DEFAULT" ∧
      serverEnvironment.Fails (.blank none) (.badConfig "main" none none
        "section is missing but declares required variables: HOST") := by
  have hname : Name.key serverEnvironment.name = Name.key "DEFAULT" := by decide
  have hspec := (validate_lenient_iff ofManual_serverManual "DEFAULT" (.blank none)).2
    serverEnvironment serverEnvironment_mem hname
  exact ⟨ofManual_serverManual, hname, (hspec.2.2 _).mp rfl⟩

end Schema

end IniSchema
