import IniSchema.Proofs.Settings
import IniSchema.Report

/-!
# Keys of a listing

A listing shows each variable as `section.NAME`, and a look-up takes such a key apart at its first
point.  A listed key leads back to its variable if the name of the section has no point and the
name of the variable is another spelling of its identifier.  Every other key is lost.  With a point
in the name of the section nothing is found, and a name that reads back differently, as the
capitals of a sharp s do, leads to the variable that is spelled so or to none.
-/

namespace IniSchema

theorem Name.point_mem_key_iff {name : Text} : '.' ∈ key name ↔ '.' ∈ name :=
  mem_key_iff (by decide) (by decide)

theorem Variable.Sound.ident_point {v : Variable} (h : v.Sound) : '.' ∉ v.ident := by
  intro hmem
  exact absurd (h.ident_isWord _ hmem) (by decide)

/-! ## Keys taken apart -/

theorem Text.cut?_point {front back : Text} (hfront : '.' ∉ front) :
    (front ++ '.' :: back).cut? (· == '.') = some (front, back) := by
  refine cut?_eq_some_iff.mpr ⟨'.', rfl, rfl, ?_⟩
  intro x hx
  rw [beq_eq_false_iff_ne]
  rintro rfl
  exact hfront hx

namespace Schema

variable {s : Schema} {t : Settings} {front back : Text}

theorem lookUp_cases (s : Schema) (t : Settings) (key : Text) :
    (∃ front back u setting, key = front ++ '.' :: back ∧ '.' ∉ front ∧
      t.section? front = some u ∧ u.setting? back = some setting ∧
      s.lookUp t key = .ok (.keyValue (u.name ++ '.' :: setting.name) setting.value.display
        (s.documentation t.environment front back))) ∨
    s.lookUp t key = .error (.keyNotFound key) := by
  unfold lookUp
  cases hcut : key.cut? (· == '.') with
  | none => exact .inr rfl
  | some cut =>
      obtain ⟨front, back⟩ := cut
      obtain ⟨point, rfl, hpoint, hfront⟩ := Text.cut?_eq_some_iff.mp hcut
      obtain rfl := beq_iff_eq.mp hpoint
      cases hu : t.section? front with
      | none => exact .inr (by simp [hu])
      | some u =>
          cases hsetting : u.setting? back with
          | none => exact .inr (by simp [hu, hsetting])
          | some setting =>
              have hfront : '.' ∉ front := fun hmem => by simpa using hfront '.' hmem
              exact .inl ⟨front, back, u, setting, rfl, hfront, hu, hsetting,
                by simp [hu, hsetting, SectionSettings.qualified]⟩

theorem exists_of_lookUp {key name shown : Text} {doc : List Text}
    (h : s.lookUp t key = .ok (.keyValue name shown doc)) :
    ∃ front back u setting, key = front ++ '.' :: back ∧ '.' ∉ front ∧
      t.section? front = some u ∧ u.setting? back = some setting ∧
      name = u.name ++ '.' :: setting.name ∧ shown = setting.value.display := by
  rcases s.lookUp_cases t key with
    ⟨front, back, u, setting, hkey, hfront, hu, hsetting, hok⟩ | herror
  · cases hok.symm.trans h
    exact ⟨front, back, u, setting, hkey, hfront, hu, hsetting, rfl, rfl⟩
  · cases herror.symm.trans h

theorem lookUp_of_setting? (hfront : '.' ∉ front) {u : SectionSettings} {setting : Setting}
    (hu : t.section? front = some u) (hsetting : u.setting? back = some setting) :
    s.lookUp t (front ++ '.' :: back) =
      .ok (.keyValue (u.name ++ '.' :: setting.name) setting.value.display
        (s.documentation t.environment front back)) := by
  simp [lookUp, Text.cut?_point hfront, hu, hsetting, SectionSettings.qualified]

theorem lookUp_of_setting?_eq_none (hfront : '.' ∉ front)
    (hnone : ∀ u, t.section? front = some u → u.setting? back = none) :
    s.lookUp t (front ++ '.' :: back) = .error (.keyNotFound (front ++ '.' :: back)) := by
  cases hu : t.section? front with
  | none => simp [lookUp, Text.cut?_point hfront, hu]
  | some u => simp [lookUp, Text.cut?_point hfront, hu, hnone u hu]

end Schema

/-! ## Variables and their pairs -/

/-- The listing has the pair for the variable. -/
def Environment.Shows (e : Environment) (t : Settings) (s : Section) (v : Variable)
    (pair : Text × Text) : Prop :=
  s ∈ e.sections.values ∧ v ∈ s.declared.values ∧
    ∃ value, t.value? s.name v.ident = some value ∧
      pair = (s.name ++ '.' :: v.name, value.display)

/-- The section can be told from the variable in the key, and the name of the variable is a
spelling of its identifier. -/
def Section.Addresses (s : Section) (v : Variable) : Prop :=
  '.' ∉ s.name ∧ Name.key v.name = Name.key v.ident

namespace Settings.Fills

variable {t : Settings} {e : Environment} {source : Source} {pair : Text × Text} {s : Section}
  {v : Variable} {value : Value}

theorem exists_setting (h : t.Fills e source) (hs : s ∈ e.sections.values)
    (hv : v ∈ s.declared.values) (hvalue : t.value? s.name v.ident = some value) :
    ∃ u ∈ t.sections.values, ∃ setting ∈ u.settings.values, t.section? s.name = some u ∧
      u.setting? v.ident = some setting ∧ u.name = s.name ∧ setting.name = v.name ∧
      setting.value = value := by
  obtain ⟨u, hu, hname, hsettings⟩ := h.2.get?_of_mem hs
  obtain ⟨setting, hsetting, hvname, -⟩ := hsettings.get?_of_mem hv
  refine ⟨u, OrderedMap.mem_values_of_get? hu, setting, OrderedMap.mem_values_of_get? hsetting,
    hu, hsetting, hname, hvname, ?_⟩
  obtain ⟨u', setting', hu', hsetting', rfl⟩ := Settings.value?_eq_some_iff.mp hvalue
  obtain rfl : u = u' := Option.some.inj (hu.symm.trans hu')
  obtain rfl : setting = setting' := Option.some.inj (hsetting.symm.trans hsetting')
  rfl

theorem exists_variable (h : t.Fills e source) {front back : Text} {u : SectionSettings}
    {setting : Setting} (hu : t.section? front = some u)
    (hsetting : u.setting? back = some setting) :
    ∃ s ∈ e.sections.values, ∃ v ∈ s.declared.values, Name.key s.name = Name.key front ∧
      Name.key v.ident = Name.key back ∧ u.name = s.name ∧ setting.name = v.name ∧
      t.value? s.name v.ident = some setting.value := by
  obtain ⟨s, hs, hfront, hname, hsettings⟩ := h.2.exists_of_get? hu
  obtain ⟨v, hv, hback, hvname, htakes⟩ := hsettings.exists_of_get? hsetting
  refine ⟨s, hs, v, hv, hfront.symm, hback.symm, hname, hvname, ?_⟩
  exact h.value?_eq_some_iff.mpr ⟨v, ⟨s, hs, rfl, hv, rfl⟩, htakes⟩

theorem mem_listing_iff (h : t.Fills e source) :
    pair ∈ t.listing ↔ ∃ s v, e.Shows t s v pair := by
  simp only [listing, List.mem_flatMap, List.mem_map, SectionSettings.qualified]
  constructor
  · rintro ⟨u, hu, setting, hsetting, rfl⟩
    obtain ⟨s, hs, hname, hsettings⟩ := h.2.exists_of_mem_values hu
    obtain ⟨v, hv, hvname, htakes⟩ := hsettings.exists_of_mem_values hsetting
    refine ⟨s, v, hs, hv, setting.value, ?_, by rw [hname, hvname]⟩
    exact h.value?_eq_some_iff.mpr ⟨v, ⟨s, hs, rfl, hv, rfl⟩, htakes⟩
  · rintro ⟨s, v, hs, hv, value, hvalue, rfl⟩
    obtain ⟨u, hu, setting, hsetting, -, -, hname, hvname, rfl⟩ := h.exists_setting hs hv hvalue
    exact ⟨u, hu, setting, hsetting, by rw [hname, hvname]⟩

theorem exists_lookUp_iff (h : t.Fills e source) {schema : Schema} :
    (∃ doc, schema.lookUp t pair.1 = .ok (.keyValue pair.1 pair.2 doc)) ↔
      ∃ s v, e.Shows t s v pair ∧ s.Addresses v := by
  constructor
  · rintro ⟨doc, hfound⟩
    obtain ⟨front, back, u, setting, hkey, hfront, hu, hsetting, hsame, hshown⟩ :=
      Schema.exists_of_lookUp hfound
    obtain ⟨s, hs, v, hv, hsname, hident, hname, hvname, hvalue⟩ := h.exists_variable hu hsetting
    rw [hname, hvname] at hsame
    have hpoint : '.' ∉ s.name := by
      rwa [← Name.point_mem_key_iff, hsname, Name.point_mem_key_iff]
    -- The key is cut at the same point, whether it was asked for or is answered.
    have hcut : (front ++ '.' :: back).cut? (· == '.') = some (front, back) :=
      Text.cut?_point hfront
    rw [← hkey, hsame, Text.cut?_point hpoint, Option.some.injEq, Prod.mk.injEq] at hcut
    refine ⟨s, v, ⟨hs, hv, setting.value, hvalue, Prod.ext hsame hshown⟩, hpoint, ?_⟩
    rw [hcut.2, hident]
  · rintro ⟨s, v, ⟨hs, hv, value, hvalue, rfl⟩, hpoint, hkey⟩
    obtain ⟨u, -, setting, -, hu, hsetting, hname, hvname, rfl⟩ := h.exists_setting hs hv hvalue
    rw [SectionSettings.setting?, ← hkey] at hsetting
    rw [← hname, ← hvname]
    rw [← hname] at hu hpoint
    rw [← hvname] at hsetting
    exact ⟨_, Schema.lookUp_of_setting? hpoint hu hsetting⟩

theorem lookUp_of_point (h : t.Fills e source) (hsound : e.Sound) {schema : Schema}
    (hshows : e.Shows t s v pair) (hpoint : '.' ∈ s.name) :
    schema.lookUp t pair.1 = .error (.keyNotFound pair.1) := by
  obtain ⟨-, -, value, -, rfl⟩ := hshows
  obtain ⟨front, rest, hsplit, hfront⟩ := List.eq_append_cons_of_mem hpoint
  -- What is left of the section's name goes to the variable, with the point between them.
  have hkey : s.name ++ '.' :: v.name = front ++ '.' :: (rest ++ '.' :: v.name) := by
    simp [hsplit]
  simp only [hkey]
  apply Schema.lookUp_of_setting?_eq_none hfront
  intro u hu
  cases hsetting : u.setting? (rest ++ '.' :: v.name) with
  | none => rfl
  | some setting =>
      obtain ⟨s', hs', v', hv', -, hident, -⟩ := h.exists_variable hu hsetting
      have hback : '.' ∈ v'.ident := by
        rw [← Name.point_mem_key_iff, hident, Name.point_mem_key_iff]
        simp
      exact absurd hback (((hsound.sections s' hs').declared v' hv').ident_point)

end Settings.Fills

/-! ## Settings of compiled schemas -/

/-- The listing has one pair for each variable.  A pair is fetched under its own key, with its own
value, exactly if it is the pair of a variable that the key addresses, and a key with a point in
the name of its section is never found. -/
theorem Schema.lookUp_listed_iff {manual : Text} {s : Schema} (hs : Schema.ofManual manual = .ok s)
    {name : Text} {source : Source} {strict : Bool} {t : Settings}
    (ht : s.validate name source strict = .ok t) :
    ∃ e ∈ s.environments.values, Name.key e.name = Name.key name ∧
      (∀ pair, pair ∈ t.listing ↔ ∃ sec v, e.Shows t sec v pair) ∧
      (∀ pair, (∃ doc, s.lookUp t pair.1 = .ok (.keyValue pair.1 pair.2 doc)) ↔
        ∃ sec v, e.Shows t sec v pair ∧ sec.Addresses v) ∧
      ∀ pair sec v, e.Shows t sec v pair → '.' ∈ sec.name →
        s.lookUp t pair.1 = .error (.keyNotFound pair.1) := by
  have hsound := sound_of_ofManual hs
  obtain ⟨e, he, hname, hvalidate⟩ := exists_environment_of_validate hsound ht
  have hesound := hsound.environments e he
  have hfills := Environment.fills_of_settings hesound (Environment.settings_of_validate hvalidate)
  refine ⟨e, he, hname, fun pair => hfills.mem_listing_iff,
    fun pair => hfills.exists_lookUp_iff, ?_⟩
  intro pair sec v hshows hpoint
  exact hfills.lookUp_of_point hesound hshows hpoint

theorem Schema.lookUp_listed_iff_server :
    ∃ t, serverSchema.validate "default" ((Source.blank none).insert "main" "host" "h") true =
        .ok t ∧
      ∃ doc, serverSchema.lookUp t "main.PORT" = .ok (.keyValue "main.PORT" "80" doc) := by
  obtain ⟨t, ht⟩ : ∃ t, serverSchema.validate "default"
      ((Source.blank none).insert "main" "host" "h") true = .ok t := ⟨_, rfl⟩
  refine ⟨t, ht, ?_⟩
  obtain ⟨e, he, -, -, hfetched, -⟩ := lookUp_listed_iff ofManual_serverManual ht
  rw [values_serverSchema, List.mem_singleton] at he
  subst he
  cases ht
  exact (hfetched ("main.PORT".toList, "80".toList)).mpr
    ⟨serverSection, ⟨"PORT", "port", .integer, some (.integer 80), "Port"⟩,
      ⟨by simp [values_serverEnvironment], .tail _ (.head _), .integer 80, rfl, rfl⟩,
      by decide, by decide⟩

/-- One section with a point in its name, and one identifier that its capitals do not give back. -/
def lostManual : Text :=
  "name: app\n\x7bdefault\x7d\n[a.b]\nx (int:1): y\n[main]\nß (int:2): y\n"

theorem Schema.listed_key_not_found :
    ∃ s t, Schema.ofManual lostManual = .ok s ∧
      s.validate "default" (.blank none) false = .ok t ∧
      t.listing = [("a.b.X".toList, "1".toList), ("main.SS".toList, "2".toList)] ∧
      s.lookUp t "a.b.X" = .error (.keyNotFound "a.b.X") ∧
      s.lookUp t "main.SS" = .error (.keyNotFound "main.SS") :=
  ⟨_, _, rfl, rfl, rfl, rfl, rfl⟩

end IniSchema
