import IniSchema.Proofs.LookUp

/-!
# Names in capitals

A section keeps its variables apart by their identifiers in small letters and shows them in
capitals.  Small letters may be different where the capitals are the same: a sharp s has the
capitals of a double one, and both small forms of a sigma have one capital.  Two variables of a
section can therefore have one name, which then stands twice in every listing and in the JSON
object of the section.  Of the variables with one name at most one has an identifier that is read
back from the name.  All identifiers of ASCII characters are.
-/

namespace IniSchema.Unicode

/-! ## Capitals that are read back -/

/-- The capital is one character with the same small letter.  No sigma is steady, because the small
letter of its capital is a matter of the characters around it. -/
def isSteady (c : Char) : Bool :=
  match upperChar c with
  | [u] => u != capitalSigma && lowerChar u == lowerChar c
  | _ => false

variable {c : Char} {t : List Char}

theorem isSteady_iff : isSteady c = true ↔
    ∃ u, upperChar c = [u] ∧ u ≠ capitalSigma ∧ lowerChar u = lowerChar c := by
  unfold isSteady
  split
  · rename_i u hu
    simp [hu]
  · rename_i hmany
    simp only [Bool.false_eq_true, false_iff]
    rintro ⟨u, hu, -⟩
    exact hmany u hu

theorem isSteady_of_lt (hc : c.toNat < 0x80) : isSteady c = true :=
  forall_lt_of_ofNat (P := fun c => isSteady c = true) (by decide) c hc

theorem lowerAfter_of_notMem (before : List Char) (h : capitalSigma ∉ t) :
    lowerAfter before t = t.flatMap lowerChar := by
  induction t generalizing before with
  | nil => rfl
  | cons c cs ih =>
      rw [List.mem_cons, not_or] at h
      rw [lowerAfter, if_neg (Ne.symm h.1), ih (c :: before) h.2, List.flatMap_cons]

theorem lower_upper (h : ∀ c ∈ t, isSteady c = true) : lower (upper t) = lower t := by
  have hsteady : ∀ c ∈ t, ∃ u, upperChar c = [u] ∧ u ≠ capitalSigma ∧ lowerChar u = lowerChar c :=
    fun c hc => isSteady_iff.mp (h c hc)
  have hsmall : capitalSigma ∉ t := fun hmem => absurd (h _ hmem) (by decide)
  have hcapital : capitalSigma ∉ upper t := by
    rw [upper, List.mem_flatMap]
    rintro ⟨c, hc, hmem⟩
    obtain ⟨u, hu, hne, -⟩ := hsteady c hc
    rw [hu, List.mem_singleton] at hmem
    exact hne hmem.symm
  rw [lower, lower, lowerAfter_of_notMem [] hcapital, lowerAfter_of_notMem [] hsmall, upper,
    List.flatMap_assoc]
  apply List.flatMap_congr
  intro c hc
  obtain ⟨u, hu, -, hlower⟩ := hsteady c hc
  rw [hu, List.flatMap_singleton, hlower]

end IniSchema.Unicode

namespace IniSchema

open Unicode

/-! ## Names of one section -/

def Section.names (s : Section) : List Text := s.declared.values.map Variable.name

namespace Variable.Sound

variable {v : Variable}

theorem key_ident (h : v.Sound) : Name.key v.ident = lower v.ident := by
  have htrimmed : Text.IsTrimmed v.ident :=
    Text.isTrimmed_of_forall fun c hc => isBlank_of_isWord (h.ident_isWord c hc)
  rw [Name.key, Text.trim_eq_self_iff.mpr htrimmed]

theorem name_point (h : v.Sound) : '.' ∉ v.name := by
  rw [h.name_eq, Name.canonical, mem_upper_iff (by decide)]
  exact h.ident_point

theorem lower_name (h : v.Sound) (hsteady : ∀ c ∈ v.ident, isSteady c = true) :
    lower v.name = lower v.ident := by
  rw [h.name_eq, Name.canonical, lower_upper hsteady]

end Variable.Sound

namespace Section.Sound

variable {s : Section} {v w : Variable}

theorem nodup_lower (h : s.Sound) : (s.declared.values.map fun v => lower v.ident).Nodup := by
  have hkeys : (s.declared.values.map fun v => Name.key v.ident) =
      s.declared.values.map fun v => lower v.ident :=
    List.map_congr_left fun v hv => (h.declared v hv).key_ident
  rw [← hkeys]
  exact h.keyed.nodup

theorem eq_of_lower_eq (h : s.Sound) (hv : v ∈ s.declared.values) (hw : w ∈ s.declared.values)
    (hlower : lower v.ident = lower w.ident) : v = w :=
  List.inj_on_of_nodup_map h.nodup_lower hv hw hlower

theorem nodup_names_iff_eq (h : s.Sound) : s.names.Nodup ↔
    ∀ v ∈ s.declared.values, ∀ w ∈ s.declared.values, v.name = w.name → v = w :=
  List.nodup_map_iff_inj_on (List.Nodup.of_map _ h.nodup_lower)

theorem nodup_names_iff (h : s.Sound) : s.names.Nodup ↔
    ∀ v ∈ s.declared.values, ∀ w ∈ s.declared.values,
      upper v.ident = upper w.ident → lower v.ident = lower w.ident := by
  rw [h.nodup_names_iff_eq]
  refine forall₂_congr fun v hv => forall₂_congr fun w hw => ?_
  rw [(h.declared v hv).name_eq, (h.declared w hw).name_eq]
  refine imp_congr_right fun _ => ⟨?_, h.eq_of_lower_eq hv hw⟩
  rintro rfl
  rfl

/-- At most one of the variables with a name is read back from it. -/
theorem eq_of_name_eq (h : s.Sound) (hv : v ∈ s.declared.values) (hw : w ∈ s.declared.values)
    (hname : v.name = w.name) (hvback : lower v.name = lower v.ident)
    (hwback : lower w.name = lower w.ident) : v = w := by
  apply h.eq_of_lower_eq hv hw
  rw [← hvback, hname, hwback]

theorem nodup_names_of_ascii (h : s.Sound)
    (hascii : ∀ v ∈ s.declared.values, ∀ c ∈ v.ident, c.toNat < 0x80) : s.names.Nodup := by
  have hback : ∀ v ∈ s.declared.values, lower v.name = lower v.ident :=
    fun v hv => (h.declared v hv).lower_name fun c hc => isSteady_of_lt (hascii v hv c hc)
  rw [h.nodup_names_iff_eq]
  intro v hv w hw hname
  exact h.eq_of_name_eq hv hw hname (hback v hv) (hback w hw)

end Section.Sound

/-! ## Listings and JSON -/

/-- The names of the members of an object, in their order. -/
def Json.names : Json → List Text
  | .leaf _ => []
  | .object members => members.map Prod.fst

/-- The keys that a listing has for the variables of the section. -/
def Section.qualifiedNames (s : Section) : List Text :=
  s.names.map fun name => s.name ++ '.' :: name

theorem Section.nodup_qualifiedNames_iff {s : Section} :
    s.qualifiedNames.Nodup ↔ s.names.Nodup := by
  refine List.nodup_map_iff ?_
  intro name other hsame
  simpa using hsame

theorem SectionSettings.Fills.names_toJson {t : SectionSettings} {s : Section} {source : Source}
    (h : t.Fills s source) : t.toJson.names = s.names := by
  have hnames : t.toJson.names = t.settings.values.map Setting.name := by
    simp [toJson, Json.names, Function.comp_def]
  rw [hnames, Section.names, ← List.forall₂_eq_eq_eq, List.forall₂_map_left_iff,
    List.forall₂_map_right_iff]
  exact h.2.forall₂_values.imp fun _ _ hsetting => hsetting.1

namespace Settings.Fills

variable {t : Settings} {e : Environment} {source : Source}

theorem forall₂_names (h : t.Fills e source) :
    List.Forall₂ (fun u s => u.name = s.name ∧ u.toJson.names = s.names) t.sections.values
      e.sections.values :=
  h.2.forall₂_values.imp fun _ _ hsection => ⟨hsection.1, hsection.names_toJson⟩

theorem names_toJson (h : t.Fills e source) :
    t.toJson.names = e.sections.values.map Section.name := by
  have hnames : t.toJson.names = t.sections.values.map SectionSettings.name := by
    simp [toJson, Json.names, Function.comp_def]
  rw [hnames, ← List.forall₂_eq_eq_eq, List.forall₂_map_left_iff, List.forall₂_map_right_iff]
  exact h.forall₂_names.imp fun _ _ hsection => hsection.1

theorem map_fst_listing (h : t.Fills e source) :
    t.listing.map Prod.fst = e.sections.values.flatMap Section.qualifiedNames := by
  have hvariables : e.sections.values.flatMap Section.qualifiedNames =
      e.variables.map fun item => item.1.name ++ '.' :: item.2.name := by
    rw [Environment.variables, List.map_flatMap]
    apply List.flatMap_congr
    intro s _
    simp [Section.qualifiedNames, Section.names, Function.comp_def]
  rw [hvariables, ← List.forall₂_eq_eq_eq, List.forall₂_map_left_iff, List.forall₂_map_right_iff]
  refine h.forall₂_listing.imp fun pair item hshows => ?_
  obtain ⟨-, -, value, -, rfl⟩ := hshows
  rfl

end Settings.Fills

/-- A key that is listed can be cut at its last point, since no name of a variable has one. -/
theorem Text.append_point_inj {front front' back back' : Text} (hback : '.' ∉ back)
    (hback' : '.' ∉ back') (h : front ++ '.' :: back = front' ++ '.' :: back') :
    front = front' ∧ back = back' := by
  have hreverse := congrArg List.reverse h
  simp only [List.reverse_append, List.reverse_cons, List.append_assoc, List.singleton_append]
    at hreverse
  have hcut := congrArg (Text.cut? (· == '.')) hreverse
  rw [cut?_point (by simpa using hback), cut?_point (by simpa using hback')] at hcut
  simpa [and_comm] using hcut

theorem Environment.Sound.nodup_qualifiedNames_iff {e : Environment} (h : e.Sound) :
    (e.sections.values.flatMap Section.qualifiedNames).Nodup ↔
      ∀ s ∈ e.sections.values, s.names.Nodup := by
  rw [List.nodup_flatMap]
  simp only [Section.nodup_qualifiedNames_iff, and_iff_left_iff_imp]
  intro _
  have hkeys := List.pairwise_map.mp h.keyed.nodup
  refine hkeys.imp_of_mem ?_
  intro s s' hs hs' hne key hkey hkey'
  obtain ⟨name, hname, rfl⟩ := List.mem_map.mp hkey
  obtain ⟨name', hname', hsame⟩ := List.mem_map.mp hkey'
  obtain ⟨v, hv, rfl⟩ := List.mem_map.mp hname
  obtain ⟨v', hv', rfl⟩ := List.mem_map.mp hname'
  have hpoint := ((h.sections s hs).declared v hv).name_point
  have hpoint' := ((h.sections s' hs').declared v' hv').name_point
  obtain ⟨hsection, -⟩ := Text.append_point_inj hpoint' hpoint hsame
  exact hne (by rw [hsection])

/-! ## Names of compiled schemas -/

/-- The identifiers of a section are distinct in small letters.  Its names are distinct exactly if
capitals tell these identifiers apart as well, which they do where identifiers are read back from
names.  The settings have the names of the section in its JSON object and in the listing, so that
keys are distinct there exactly if the names are. -/
theorem Schema.ofManual_nodup_names_iff {manual : Text} {s : Schema}
    (hs : Schema.ofManual manual = .ok s) :
    (∀ e ∈ s.environments.values, ∀ sec ∈ e.sections.values,
      (sec.declared.values.map fun v => lower v.ident).Nodup ∧
      (sec.names.Nodup ↔ ∀ v ∈ sec.declared.values, ∀ w ∈ sec.declared.values,
        upper v.ident = upper w.ident → lower v.ident = lower w.ident) ∧
      (∀ v ∈ sec.declared.values, ∀ w ∈ sec.declared.values, v.name = w.name →
        lower v.name = lower v.ident → lower w.name = lower w.ident → v = w) ∧
      (∀ v ∈ sec.declared.values, (∀ c ∈ v.ident, isSteady c = true) →
        lower v.name = lower v.ident) ∧
      ((∀ v ∈ sec.declared.values, ∀ c ∈ v.ident, c.toNat < 0x80) → sec.names.Nodup)) ∧
    ∀ name source strict t, s.validate name source strict = .ok t →
      ∃ e ∈ s.environments.values, Name.key e.name = Name.key name ∧
        t.toJson.names = e.sections.values.map Section.name ∧ t.toJson.names.Nodup ∧
        List.Forall₂ (fun u sec => u.name = sec.name ∧ u.toJson.names = sec.names)
          t.sections.values e.sections.values ∧
        t.listing.map Prod.fst = e.sections.values.flatMap Section.qualifiedNames ∧
        ((t.listing.map Prod.fst).Nodup ↔ ∀ sec ∈ e.sections.values, sec.names.Nodup) := by
  have hsound := sound_of_ofManual hs
  constructor
  · intro e he sec hsec
    have hsecsound := (hsound.environments e he).sections sec hsec
    refine ⟨hsecsound.nodup_lower, hsecsound.nodup_names_iff, ?_, ?_,
      hsecsound.nodup_names_of_ascii⟩
    · intro v hv w hw
      exact hsecsound.eq_of_name_eq hv hw
    · intro v hv
      exact (hsecsound.declared v hv).lower_name
  · intro name source strict t ht
    obtain ⟨e, he, hname, hvalidate⟩ := exists_environment_of_validate hsound ht
    have hesound := hsound.environments e he
    have hfills :=
      Environment.fills_of_settings hesound (Environment.settings_of_validate hvalidate)
    have hsections : (e.sections.values.map Section.name).Nodup := by
      apply List.Nodup.of_map Name.key
      rw [List.map_map]
      exact hesound.keyed.nodup
    refine ⟨e, he, hname, hfills.names_toJson, hfills.names_toJson ▸ hsections,
      hfills.forall₂_names, hfills.map_fst_listing, ?_⟩
    rw [hfills.map_fst_listing]
    exact hesound.nodup_qualifiedNames_iff

/-- Two identifiers that are not read back from their names, and that have different names. -/
def streetManual : Text := "name: app\n\x7bdefault\x7d\n[main]\nstraße (int:3): y\nοδός (int:4): z"

def streetSection : Section :=
  ⟨"main",
    (OrderedMap.empty.insert "straße"
      ⟨"STRASSE", "straße", .integer, some (.integer 3), "y"⟩).insert "οδός"
      ⟨"ΟΔΌΣ", "οδός", .integer, some (.integer 4), "z"⟩⟩

def streetSchema : Schema :=
  ⟨"app", OrderedMap.empty.insert "default"
    ⟨"default", OrderedMap.empty.insert "main" streetSection⟩⟩

theorem Schema.ofManual_nodup_names_iff_street :
    ∃ t, Schema.ofManual streetManual = .ok streetSchema ∧
      streetSchema.validate "Default" (.blank none) false = .ok t ∧
      t.listing.map Prod.fst = ["main.STRASSE".toList, "main.ΟΔΌΣ".toList] ∧
      (t.listing.map Prod.fst).Nodup := by
  have hs : Schema.ofManual streetManual = .ok streetSchema := by rfl
  obtain ⟨t, ht, hkeys⟩ : ∃ t, streetSchema.validate "Default" (.blank none) false = .ok t ∧
      t.listing.map Prod.fst = ["main.STRASSE".toList, "main.ΟΔΌΣ".toList] := ⟨_, rfl, rfl⟩
  have hdistinct : ∀ e ∈ streetSchema.environments.values, ∀ sec ∈ e.sections.values,
      ∀ v ∈ sec.declared.values, ∀ w ∈ sec.declared.values,
        upper v.ident = upper w.ident → lower v.ident = lower w.ident := by
    decide +kernel
  obtain ⟨hsections, hsettings⟩ := ofManual_nodup_names_iff hs
  obtain ⟨e, he, -, -, -, -, -, hlisted⟩ := hsettings _ _ _ _ ht
  refine ⟨t, hs, ht, hkeys, hlisted.mpr ?_⟩
  intro sec hsec
  obtain ⟨-, hnames, -⟩ := hsections e he sec hsec
  exact hnames.mpr (hdistinct e he sec hsec)

/-- A sharp s beside a double one. -/
def sharpManual : Text :=
  "name: app\n\x7bdefault\x7d\n[main]\nß (int:1): y\nss (int:2): y\n"

theorem Schema.names_not_distinct :
    ∃ s t, Schema.ofManual sharpManual = .ok s ∧
      s.environments.values.map (fun e => e.sections.values.map Section.names) =
        [[["SS".toList, "SS".toList]]] ∧
      s.validate "default" (.blank none) false = .ok t ∧
      t.listing = [("main.SS".toList, "1".toList), ("main.SS".toList, "2".toList)] ∧
      t.toJson = .object [("main", .object
        [("SS", .leaf (.integer 1)), ("SS", .leaf (.integer 2))])] :=
  ⟨_, _, rfl, rfl, rfl, rfl, rfl⟩

end IniSchema
