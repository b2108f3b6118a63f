import IniSchema.Proofs.Listing
import Mathlib.Data.List.Forall2

/-!
# Answers of a look-up

A key that is asked for is cut at its first point into a section and a variable, in any spelling.
If the environment declares the variable there, the answer is its pair of the listing, with the
description that this environment has for it.  No other key is found.
-/

namespace IniSchema

/-- The variables in the order of their declaration, each with its section. -/
def Environment.variables (e : Environment) : List (Section × Variable) :=
  e.sections.values.flatMap fun s => s.declared.values.map fun v => (s, v)

/-- The key is a name of the section, a point and a name of the variable. -/
def Environment.Names (e : Environment) (key : Text) (s : Section) (v : Variable) : Prop :=
  ∃ front back, key = front ++ '.' :: back ∧ '.' ∉ front ∧ s ∈ e.sections.values ∧
    Name.key s.name = Name.key front ∧ v ∈ s.declared.values ∧ Name.key v.ident = Name.key back

/-- The lines that explain the variable. -/
def Variable.documentation (v : Variable) : List Text :=
  if v.description = [] then [] else [v.description]

theorem Schema.documentation_eq {schema : Schema} (hsound : schema.Sound) {e : Environment}
    (he : e ∈ schema.environments.values) {s : Section} (hs : s ∈ e.sections.values)
    {v : Variable} (hv : v ∈ s.declared.values) {sectionName variableName : Text}
    (hname : Name.key s.name = Name.key sectionName)
    (hident : Name.key v.ident = Name.key variableName) :
    schema.documentation e.name sectionName variableName = v.documentation := by
  have hesound := hsound.environments e he
  have henvironment : schema.environment? e.name = some e := hsound.keyed.get?_name he
  have hsection : e.section? sectionName = some s :=
    hesound.keyed.get?_eq_some_iff.mpr ⟨hs, hname⟩
  have hvariable : s.get? variableName = some v :=
    (hesound.sections s hs).keyed.get?_eq_some_iff.mpr ⟨hv, hident⟩
  simp [documentation, henvironment, hsection, hvariable, Variable.documentation]

namespace Settings.Fills

variable {schema : Schema} {t : Settings} {e : Environment} {source : Source} {key : Text}
  {s : Section} {v : Variable}

/-- The listing has the pairs of all variables in the order of their declaration. -/
theorem forall₂_listing (h : t.Fills e source) :
    List.Forall₂ (fun pair item => e.Shows t item.1 item.2 pair) t.listing e.variables := by
  have hsections : List.Forall₂ (fun u s => s ∈ e.sections.values ∧ u.Fills s source)
      t.sections.values e.sections.values :=
    (h.2.imp fun s hs u hu => ⟨hs, hu⟩).forall₂_values
  refine List.rel_flatMap hsections ?_
  rintro u s ⟨hs, hname, hsettings⟩
  rw [List.forall₂_map_left_iff, List.forall₂_map_right_iff]
  refine (hsettings.imp ?_).forall₂_values
  rintro v hv setting ⟨hvname, htakes⟩
  refine ⟨hs, hv, setting.value, ?_, by rw [SectionSettings.qualified, hname, hvname]⟩
  exact h.value?_eq_some_iff.mpr ⟨v, ⟨s, hs, rfl, hv, rfl⟩, htakes⟩

theorem lookUp_of_names (h : t.Fills e source) (hsound : schema.Sound)
    (he : e ∈ schema.environments.values) (hnames : e.Names key s v) :
    ∃ pair, e.Shows t s v pair ∧
      schema.lookUp t key = .ok (.keyValue pair.1 pair.2 v.documentation) := by
  obtain ⟨front, back, rfl, hfront, hs, hname, hv, hident⟩ := hnames
  obtain ⟨value, hvalue⟩ := h.exists_value?_iff.mpr ⟨v, s, hs, rfl, hv, rfl⟩
  obtain ⟨u, -, setting, -, hu, hsetting, huname, hvname, rfl⟩ := h.exists_setting hs hv hvalue
  have hshows : e.Shows t s v (u.name ++ '.' :: setting.name, setting.value.display) :=
    ⟨hs, hv, setting.value, hvalue, by rw [huname, hvname]⟩
  refine ⟨_, hshows, ?_⟩
  -- The settings are found by the names that were asked for as well.
  rw [section?, hname] at hu
  rw [SectionSettings.setting?, hident] at hsetting
  rw [Schema.lookUp_of_setting? hfront hu hsetting, h.1,
    Schema.documentation_eq hsound he hs hv hname hident]

theorem exists_names_or_keyNotFound (h : t.Fills e source) (schema : Schema) (key : Text) :
    (∃ s v, e.Names key s v) ∨ schema.lookUp t key = .error (.keyNotFound key) := by
  rcases schema.lookUp_cases t key with
    ⟨front, back, u, setting, hkey, hfront, hu, hsetting, -⟩ | herror
  · obtain ⟨s, hs, v, hv, hname, hident, -⟩ := h.exists_variable hu hsetting
    exact .inl ⟨s, v, front, back, hkey, hfront, hs, hname, hv, hident⟩
  · exact .inr herror

end Settings.Fills

/-- A look-up finds exactly the variables of the environment that was asked for.  It answers with
the pair that the listing has for the variable and with its description in that environment. -/
theorem Schema.lookUp_declared {manual : Text} {s : Schema} (hs : Schema.ofManual manual = .ok s)
    {name : Text} {source : Source} {strict : Bool} {t : Settings}
    (ht : s.validate name source strict = .ok t) :
    ∃ e ∈ s.environments.values, Name.key e.name = Name.key name ∧
      (∀ f ∈ s.environments.values, Name.key f.name = Name.key name → f = e) ∧
      List.Forall₂ (fun pair item => e.Shows t item.1 item.2 pair) t.listing e.variables ∧
      ∀ key,
        ((∃ report, s.lookUp t key = .ok report) ↔ ∃ sec v, e.Names key sec v) ∧
        (∀ sec v, e.Names key sec v → ∃ pair ∈ t.listing, e.Shows t sec v pair ∧
          s.lookUp t key = .ok (.keyValue pair.1 pair.2 v.documentation)) ∧
        ((∀ sec v, ¬ e.Names key sec v) → s.lookUp t key = .error (.keyNotFound key)) := by
  have hsound := sound_of_ofManual hs
  obtain ⟨e, he, hname, hvalidate⟩ := exists_environment_of_validate hsound ht
  have hesound := hsound.environments e he
  have hfills := Environment.fills_of_settings hesound (Environment.settings_of_validate hvalidate)
  refine ⟨e, he, hname, ?_, hfills.forall₂_listing, ?_⟩
  · intro f hf hfname
    exact hsound.keyed.eq_of_key_eq hf he (hfname.trans hname.symm)
  · intro key
    have hnone := hfills.exists_names_or_keyNotFound s key
    refine ⟨⟨?_, ?_⟩, ?_, ?_⟩
    · rintro ⟨report, hreport⟩
      apply hnone.resolve_right
      simp [hreport]
    · rintro ⟨sec, v, hnames⟩
      obtain ⟨pair, -, hfound⟩ := hfills.lookUp_of_names hsound he hnames
      exact ⟨_, hfound⟩
    · intro sec v hnames
      obtain ⟨pair, hshows, hfound⟩ := hfills.lookUp_of_names hsound he hnames
      exact ⟨pair, hfills.mem_listing_iff.mpr ⟨sec, v, hshows⟩, hshows, hfound⟩
    · intro hno
      exact hnone.resolve_left fun ⟨sec, v, hnames⟩ => hno sec v hnames

/-- Two environments with a variable of the same name in a section of the same name. -/
def stagedManual : Text :=
  "name: app\n\x7bdefault\x7d\n[main]\nport (int:80): Port\n" ++
    "\x7bstaging\x7d\n[main]\nport (int:81): Spare\n"

def stagedPort : Variable := ⟨"PORT", "port", .integer, some (.integer 81), "Spare"⟩

def stagedSection : Section := ⟨"main", OrderedMap.empty.insert "port" stagedPort⟩

def stagedEnvironment : Environment := ⟨"staging", OrderedMap.empty.insert "main" stagedSection⟩

theorem Schema.lookUp_declared_staged :
    ∃ s t, Schema.ofManual stagedManual = .ok s ∧
      s.validate "Staging" (.blank none) false = .ok t ∧
      s.lookUp t " MAIN .Port" = .ok (.keyValue "main.PORT" "81" ["Spare"]) := by
  obtain ⟨s, t, hs, hmem, ht, hvalue⟩ : ∃ s t, Schema.ofManual stagedManual = .ok s ∧
      stagedEnvironment ∈ s.environments.values ∧
      s.validate "Staging" (.blank none) false = .ok t ∧
      t.value? "main" "port" = some (.integer 81) :=
    ⟨_, _, rfl, .tail _ (.head _), rfl, rfl⟩
  obtain ⟨e, -, -, hunique, -, hanswers⟩ := lookUp_declared hs ht
  obtain rfl := hunique stagedEnvironment hmem (by decide)
  have hnames : stagedEnvironment.Names " MAIN .Port" stagedSection stagedPort :=
    ⟨" MAIN ", "Port", by decide, by decide, .head _, by decide, .head _, by decide⟩
  obtain ⟨pair, -, ⟨-, -, value, hshown, rfl⟩, hfound⟩ :=
    (hanswers " MAIN .Port").2.1 stagedSection stagedPort hnames
  obtain rfl : Value.integer 81 = value := Option.some.inj (hvalue.symm.trans hshown)
  exact ⟨s, t, hs, ht, hfound⟩

end IniSchema
