import IniSchema.Proofs.Settings

/-!
# What one insertion changes

An entry that is inserted into a source with settings counts for the variable that it names and for
nothing else.  The settings stay as they are if there is no such variable.  Otherwise they have its
new value in the place of the old one, or the entry is to blame.
-/

namespace IniSchema

/-! ## Another value -/

def SectionSettings.assign (s : SectionSettings) (variableName : Text) (value : Value) :
    SectionSettings :=
  { s with
    settings := s.settings.modify (Name.key variableName) fun setting =>
      { setting with value := value } }

/-- The settings with another value for a variable, in its place. -/
def Settings.assign (t : Settings) (sectionName variableName : Text) (value : Value) : Settings :=
  { t with
    sections := t.sections.modify (Name.key sectionName) fun s => s.assign variableName value }

theorem SectionSettings.value?_assign (s : SectionSettings) (variableName : Text) (value : Value)
    (other : Text) : (s.assign variableName value).value? other =
      if Name.key other = Name.key variableName then (s.value? other).map fun _ => value
      else s.value? other := by
  unfold value? setting? assign
  rw [OrderedMap.get?_modify]
  split
  · simp [Function.comp_def]
  · rfl

theorem Settings.value?_assign (t : Settings) (sectionName variableName : Text) (value : Value)
    (otherSection other : Text) :
    (t.assign sectionName variableName value).value? otherSection other =
      if Name.key otherSection = Name.key sectionName ∧ Name.key other = Name.key variableName then
        (t.value? otherSection other).map fun _ => value
      else t.value? otherSection other := by
  unfold value? section? assign
  rw [OrderedMap.get?_modify]
  by_cases hsection : Name.key otherSection = Name.key sectionName
  · rw [if_pos hsection]
    cases t.sections.get? (Name.key otherSection) with
    | none => simp
    | some s => simp [SectionSettings.value?_assign, hsection]
  · simp [hsection]

/-! ## Validation after an insertion -/

namespace Settings.Fills

variable {e : Environment} {source : Source} {t : Settings} {sectionName key text : Text}
  {s : Section} {v : Variable}

theorem insert_undeclared (h : t.Fills e source) (hnone : ∀ v, ¬ e.Declares sectionName key v) :
    t.Fills e (source.insert sectionName key text) := by
  apply h.of_takes
  intro s hs v hv value htakes
  have hother : ¬(Name.key s.name = Name.key sectionName ∧ Name.key v.ident = Name.key key) :=
    fun hboth => hnone v ⟨s, hs, hboth.1, hv, hboth.2⟩
  rwa [Source.get?_insert, if_neg hother]

theorem insert_declared (h : t.Fills e source) (hsound : e.Sound)
    (hv : e.Declares sectionName key v) {value : Value} (hread : v.type.read text = .ok value) :
    (t.assign sectionName key value).Fills e (source.insert sectionName key text) := by
  refine ⟨h.1, h.2.modify_at ?_ ?_⟩
  · rintro s hs hname u ⟨hu, hsettings⟩
    refine ⟨hu, hsettings.imp fun w hw setting hsetting => ?_⟩
    rwa [Source.get?_insert, if_neg fun hboth => hname hboth.1]
  · rintro s hs hname u ⟨hu, hsettings⟩
    refine ⟨hu, hsettings.modify_at ?_ ?_⟩
    · intro w hw hident setting hsetting
      rwa [Source.get?_insert, if_neg fun hboth => hident hboth.2]
    · rintro w hw hident setting ⟨hsetting, -⟩
      have hdeclares : e.Declares sectionName key w := ⟨s, hs, hname, hw, hident⟩
      obtain rfl := hdeclares.unique hsound hv
      rw [Source.get?_insert, if_pos ⟨hname, hident⟩]
      exact ⟨hsetting, hread⟩

/-- Everything before the variable takes what it took, so the entry is the first that is wrong. -/
theorem insert_misread (h : t.Fills e source) (hsound : e.Sound) (hs : s ∈ e.sections.values)
    (hname : Name.key s.name = Name.key sectionName) (hv : v ∈ s.declared.values)
    (hident : Name.key v.ident = Name.key key) {fault : Fault}
    (hread : v.type.read text = .error fault) :
    e.Fails (source.insert sectionName key text) (.badConfig s.name (some v.name) (some text)
      (v.name ++ " = " ++ text.quoted ++ " (line 0): " ++ fault.message)) := by
  have haccepts := Environment.accepts_of_fills h
  obtain ⟨before, after, hsections⟩ := List.append_of_mem hs
  obtain ⟨before', after', hvariables⟩ := List.append_of_mem hv
  refine ⟨before, s, after, hsections, ?_, ?_⟩
  · intro s' hs' w hw
    have hother := hsound.keyed.ne_of_mem_before hsections hs'
    rw [hname] at hother
    rw [Source.get?_insert, if_neg fun hboth => hother hboth.1]
    exact haccepts s' (by simp [hsections, hs']) w hw
  · have hentry : (source.insert sectionName key text).get? s.name v.ident =
        some ⟨key.trim, text, 0⟩ := by
      rw [Source.get?_insert, if_pos ⟨hname, hident⟩]
    have hbefore : ∀ w ∈ before', ∃ value,
        w.Takes ((source.insert sectionName key text).get? s.name w.ident) value := by
      intro w hw
      have hother := (hsound.sections s hs).keyed.ne_of_mem_before hvariables hw
      rw [hident] at hother
      rw [Source.get?_insert, if_neg fun hboth => hother hboth.2]
      exact haccepts s hs w (by simp [hvariables, hw])
    have hfails := Section.Fails.misread hvariables hbefore hentry hread
    simpa [Text.ofNat] using hfails

end Settings.Fills

/-- An insertion for no variable leaves valid settings as they are.  An insertion for a variable
gives it the value of the text and changes no other, or is blamed if the text has no such value. -/
theorem Schema.validate_insert {manual : Text} {s : Schema} (hs : Schema.ofManual manual = .ok s)
    {e : Environment} (he : e ∈ s.environments.values) {name : Text}
    (hname : Name.key e.name = Name.key name) {source : Source} {t : Settings}
    (ht : s.validate name source false = .ok t) (sectionName key text : Text) :
    ((∀ v, ¬ e.Declares sectionName key v) →
      s.validate name (source.insert sectionName key text) false = .ok t) ∧
    ∀ sec ∈ e.sections.values, Name.key sec.name = Name.key sectionName →
      ∀ v ∈ sec.declared.values, Name.key v.ident = Name.key key →
        (∀ value, v.type.read text = .ok value →
          s.validate name (source.insert sectionName key text) false =
              .ok (t.assign sectionName key value) ∧
            ∀ otherSection other,
              (t.assign sectionName key value).value? otherSection other =
                if Name.key otherSection = Name.key sectionName ∧ Name.key other = Name.key key then
                  some value
                else t.value? otherSection other) ∧
        ∀ fault, v.type.read text = .error fault →
          s.validate name (source.insert sectionName key text) false =
            .error (.badConfig sec.name (some v.name) (some text)
              (v.name ++ " = " ++ text.quoted ++ " (line 0): " ++ fault.message)) := by
  have hsound := sound_of_ofManual hs
  have hesound := hsound.environments e he
  simp only [validate_lenient_of_key_eq hsound he hname] at ht ⊢
  have hfills := Environment.fills_of_settings hesound ht
  refine ⟨fun hnone => (Environment.settings_ok_iff hesound).mpr (hfills.insert_undeclared hnone),
    ?_⟩
  intro sec hsec hsecname v hv hident
  have hdeclares : e.Declares sectionName key v := ⟨sec, hsec, hsecname, hv, hident⟩
  constructor
  · intro value hread
    refine ⟨(Environment.settings_ok_iff hesound).mpr
      (hfills.insert_declared hesound hdeclares hread), ?_⟩
    intro otherSection other
    rw [Settings.value?_assign]
    split
    · rename_i hboth
      have hother : e.Declares otherSection other v :=
        ⟨sec, hsec, hsecname.trans hboth.1.symm, hv, hident.trans hboth.2.symm⟩
      obtain ⟨old, hold⟩ := hfills.exists_value?_iff.mpr ⟨v, hother⟩
      rw [hold, Option.map_some]
    · rfl
  · intro fault hread
    exact Environment.settings_error_iff.mpr
      (hfills.insert_misread hesound hsec hsecname hv hident hread)

theorem Schema.validate_insert_server :
    ∃ t, serverSchema.validate "default" ((Source.blank none).insert "main" "host" "h") false =
        .ok t ∧
      serverSchema.validate "default"
          (((Source.blank none).insert "main" "host" "h").insert " MAIN" "Port" "0x1F") false =
        .ok (t.assign " MAIN" "Port" (.integer 31)) ∧
      serverSchema.validate "default"
          (((Source.blank none).insert "main" "host" "h").insert " MAIN" "Port" "many") false =
        .error (.badConfig "main" (some "PORT") (some "many")
          ("PORT" ++ " = " ++ Text.quoted "many" ++ " (line 0): " ++
            (Fault.misread "many" "int" "not a numeric literal").message)) := by
  obtain ⟨t, ht⟩ : ∃ t, serverSchema.validate "default"
      ((Source.blank none).insert "main" "host" "h") false = .ok t := ⟨_, rfl⟩
  have hname : Name.key serverEnvironment.name = Name.key "default" := by decide
  have hmain : Name.key serverSection.name = Name.key " MAIN" := by decide
  have hport : ∀ text : Text, _ := fun text =>
    (validate_insert ofManual_serverManual serverEnvironment_mem hname ht " MAIN" "Port" text).2
      serverSection (by simp [values_serverEnvironment]) hmain
      ⟨"PORT", "port", .integer, some (.integer 80), "Port"⟩ (.tail _ (.head _)) (by decide)
  exact ⟨t, ht, ((hport "0x1F").1 (.integer 31) rfl).1,
    (hport "many").2 (.misread "many" "int" "not a numeric literal") rfl⟩

end IniSchema
