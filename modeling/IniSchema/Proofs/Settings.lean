import IniSchema.Proofs.Validation
import Mathlib.Tactic.TFAE

/-!
# What settings hold

Settings that come from validation have a value under a section name and a variable name exactly if
the environment declares a variable there.  It is the value that the variable takes from the
source, and has the type of the variable.
-/

namespace IniSchema

/-- The names lead to the variable, in whatever spelling they are given. -/
def Environment.Declares (e : Environment) (sectionName variableName : Text) (v : Variable) :
    Prop :=
  ∃ s ∈ e.sections.values, Name.key s.name = Name.key sectionName ∧
    v ∈ s.declared.values ∧ Name.key v.ident = Name.key variableName

theorem Environment.Declares.unique {e : Environment} (hsound : e.Sound)
    {sectionName variableName : Text} {v w : Variable} (h : e.Declares sectionName variableName v)
    (h' : e.Declares sectionName variableName w) : v = w := by
  obtain ⟨s, hs, hname, hv, hident⟩ := h
  obtain ⟨s', hs', hname', hw, hident'⟩ := h'
  obtain rfl := hsound.keyed.eq_of_key_eq hs hs' (hname.trans hname'.symm)
  exact (hsound.sections s hs).keyed.eq_of_key_eq hv hw (hident.trans hident'.symm)

theorem Environment.Declares.sound {e : Environment} (hsound : e.Sound)
    {sectionName variableName : Text} {v : Variable} (h : e.Declares sectionName variableName v) :
    v.Sound := by
  obtain ⟨s, hs, -, hv, -⟩ := h
  exact (hsound.sections s hs).declared v hv

theorem Source.get?_of_key_eq (source : Source) {sectionName sectionName' key key' : Text}
    (hsection : Name.key sectionName = Name.key sectionName')
    (hkey : Name.key key = Name.key key') :
    source.get? sectionName key = source.get? sectionName' key' := by
  unfold get? section? SourceSection.get?
  rw [hsection, hkey]

/-! ## Values of a variable -/

namespace Variable.Takes

variable {v : Variable} {entry : Option Entry} {value value' : Value}

theorem unique (h : v.Takes entry value) (h' : v.Takes entry value') : value = value' := by
  cases entry with
  | some e => exact Except.ok.inj (h.symm.trans h')
  | none => exact Option.some.inj (h.symm.trans h')

theorem hasType (hsound : v.Sound) (h : v.Takes entry value) : value.hasType v.type := by
  cases entry with
  | some e => exact ValueType.hasType_of_read h
  | none => exact hsound.default_hasType value h

end Variable.Takes

/-! ## Look-ups -/

namespace Settings

variable {t : Settings} {sectionName variableName : Text} {value : Value}

theorem value?_eq_some_iff : t.value? sectionName variableName = some value ↔
    ∃ sec setting, t.section? sectionName = some sec ∧ sec.setting? variableName = some setting ∧
      setting.value = value := by
  simp [value?, SectionSettings.value?, Option.bind_eq_some_iff]

theorem exists_value?_iff_contains :
    (∃ value, t.value? sectionName variableName = some value) ↔
      t.contains sectionName = true ∧
        ∃ sec, t.section? sectionName = some sec ∧ sec.contains variableName = true := by
  simp only [value?_eq_some_iff, contains, SectionSettings.contains, Option.isSome_iff_exists]
  constructor
  · rintro ⟨value, sec, setting, hsec, hsetting, -⟩
    exact ⟨⟨sec, hsec⟩, sec, hsec, setting, hsetting⟩
  · rintro ⟨-, sec, hsec, setting, hsetting⟩
    exact ⟨setting.value, sec, setting, hsec, hsetting, rfl⟩

theorem index_eq_ok_iff :
    (t.index sectionName).bind (·.index variableName) = .ok value ↔
      t.value? sectionName variableName = some value := by
  unfold index value?
  cases t.section? sectionName with
  | none => simp [Except.bind]
  | some sec =>
      simp only [Except.bind, Option.bind_some, SectionSettings.index]
      cases sec.value? variableName with
      | none => simp
      | some found => simp

namespace Fills

variable {e : Environment} {source : Source}

theorem value?_eq_some_iff (h : t.Fills e source) :
    t.value? sectionName variableName = some value ↔
      ∃ v, e.Declares sectionName variableName v ∧
        v.Takes (source.get? sectionName variableName) value := by
  rw [Settings.value?_eq_some_iff]
  constructor
  · rintro ⟨sec, setting, hsec, hsetting, rfl⟩
    obtain ⟨s, hs, hname, hfills⟩ := h.2.exists_of_get? hsec
    obtain ⟨v, hv, hident, -, htakes⟩ := hfills.2.exists_of_get? hsetting
    refine ⟨v, ⟨s, hs, hname.symm, hv, hident.symm⟩, ?_⟩
    rwa [source.get?_of_key_eq hname hident]
  · rintro ⟨v, ⟨s, hs, hname, hv, hident⟩, htakes⟩
    obtain ⟨sec, hsec, hfills⟩ := h.2.get?_of_mem hs
    obtain ⟨setting, hsetting, -, htakes'⟩ := hfills.2.get?_of_mem hv
    rw [source.get?_of_key_eq hname hident] at htakes'
    rw [hname] at hsec
    rw [hident] at hsetting
    exact ⟨sec, setting, hsec, hsetting, htakes'.unique htakes⟩

theorem exists_value?_iff (h : t.Fills e source) :
    (∃ value, t.value? sectionName variableName = some value) ↔
      ∃ v, e.Declares sectionName variableName v := by
  constructor
  · rintro ⟨value, hvalue⟩
    obtain ⟨v, hdeclares, -⟩ := h.value?_eq_some_iff.mp hvalue
    exact ⟨v, hdeclares⟩
  · rintro ⟨v, s, hs, hname, hv, hident⟩
    obtain ⟨value, htakes⟩ := Environment.accepts_of_fills h s hs v hv
    rw [source.get?_of_key_eq hname hident] at htakes
    exact ⟨value, h.value?_eq_some_iff.mpr ⟨v, ⟨s, hs, hname, hv, hident⟩, htakes⟩⟩

theorem hasType (h : t.Fills e source) (hsound : e.Sound) {v : Variable}
    (hdeclares : e.Declares sectionName variableName v)
    (hvalue : t.value? sectionName variableName = some value) : value.hasType v.type := by
  obtain ⟨w, hw, htakes⟩ := h.value?_eq_some_iff.mp hvalue
  obtain rfl := hw.unique hsound hdeclares
  exact htakes.hasType (hw.sound hsound)

end Fills

end Settings

/-! ## Settings of compiled schemas -/

/-- Settings hold exactly what the environment that was asked for declares, whichever way they are
looked at, and each value is null or of the declared type. -/
theorem Schema.validate_declares_iff {manual : Text} {s : Schema}
    (hs : Schema.ofManual manual = .ok s) {name : Text} {source : Source} {strict : Bool}
    {t : Settings} (ht : s.validate name source strict = .ok t) :
    ∃ e ∈ s.environments.values, Name.key e.name = Name.key name ∧
      (∀ f ∈ s.environments.values, Name.key f.name = Name.key name → f = e) ∧
      ∀ sectionName variableName,
        [∃ v, e.Declares sectionName variableName v,
          ∃ value, t.value? sectionName variableName = some value,
          t.contains sectionName = true ∧
            ∃ sec, t.section? sectionName = some sec ∧ sec.contains variableName = true,
          ∃ value, (t.index sectionName).bind (·.index variableName) = .ok value].TFAE ∧
        ∀ v value, e.Declares sectionName variableName v →
          t.value? sectionName variableName = some value → value.hasType v.type = true := by
  have hsound := sound_of_ofManual hs
  obtain ⟨e, he, hname, hvalidate⟩ := exists_environment_of_validate hsound ht
  have hesound := hsound.environments e he
  have hfills := Environment.fills_of_settings hesound (Environment.settings_of_validate hvalidate)
  refine ⟨e, he, hname, ?_, ?_⟩
  · intro f hf hfname
    exact hsound.keyed.eq_of_key_eq hf he (hfname.trans hname.symm)
  · intro sectionName variableName
    refine ⟨?_, fun v value => hfills.hasType hesound⟩
    tfae_have 1 ↔ 2 := hfills.exists_value?_iff.symm
    tfae_have 2 ↔ 3 := Settings.exists_value?_iff_contains
    tfae_have 2 ↔ 4 := exists_congr fun value => Settings.index_eq_ok_iff.symm
    tfae_finish

theorem Schema.validate_declares_iff_server :
    ∃ t, serverSchema.validate "Default" ((Source.blank none).insert " MAIN" "Host" "none") true =
        .ok t ∧
      (∃ value, (t.index "main").bind (·.index "PORT") = .ok value) ∧
      ∀ value, t.value? "main" "PORT" = some value → value.hasType .integer = true := by
  obtain ⟨t, ht⟩ : ∃ t, serverSchema.validate "Default"
      ((Source.blank none).insert " MAIN" "Host" "none") true = .ok t := ⟨_, rfl⟩
  obtain ⟨e, he, -, -, hlookups⟩ := validate_declares_iff ofManual_serverManual ht
  rw [values_serverSchema, List.mem_singleton] at he
  subst he
  obtain ⟨hpresent, htyped⟩ := hlookups "main" "PORT"
  have hindexed := hpresent.out 0 3
  have hport : serverEnvironment.Declares "main" "PORT"
      ⟨"PORT", "port", .integer, some (.integer 80), "Port"⟩ :=
    ⟨serverSection, by simp [values_serverEnvironment], by decide, .tail _ (.head _), by decide⟩
  exact ⟨t, ht, hindexed.mp ⟨_, hport⟩, fun value => htyped _ value hport⟩

end IniSchema
