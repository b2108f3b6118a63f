import IniSchema.Proofs.Settings
import IniSchema.Proofs.Source.Built

/-!
# What strict validation refuses

Strict validation refuses a source with a section or an entry that its environment does not
declare, and reports all of them in the order of the source.  Any other source is validated as
leniently, and each of its entries gives the value of its variable.
-/

namespace IniSchema

/-! ## Items of a source -/

namespace Source

inductive Item where
  | header (found : SourceSection)
  | entry (found : SourceSection) (e : Entry)

/-- Each section and the entries in it, in their order. -/
def items (source : Source) : List Item :=
  source.sections.values.flatMap fun found =>
    .header found :: found.entries.values.map (.entry found)

/-- The complaint that the item is not declared. -/
def Item.fault : Item → Fault
  | .header found => .unknownSection found.name found.line
  | .entry found e => .unknownKey found.name e.key e.line

variable {source : Source} {found : SourceSection}

theorem header_mem_items : .header found ∈ source.items ↔ found ∈ source.sections.values := by
  simp [items]

theorem entry_mem_items {entry : Entry} : .entry found entry ∈ source.items ↔
    found ∈ source.sections.values ∧ entry ∈ found.entries.values := by
  simp [items]

end Source

open Source

namespace Environment

variable {e : Environment} {source : Source} {found : SourceSection} {entry : Entry}

/-- No section has the name, or the section that has it has no variable with the key.  Entries of a
section that is not declared are not counted. -/
def Undeclared (e : Environment) : Item → Prop
  | .header found => ∀ s ∈ e.sections.values, Name.key s.name ≠ Name.key found.name
  | .entry found entry => ∃ s ∈ e.sections.values, Name.key s.name = Name.key found.name ∧
      ∀ v ∈ s.declared.values, Name.key v.ident ≠ Name.key entry.key

instance (e : Environment) : DecidablePred e.Undeclared
  | .header found =>
      inferInstanceAs (Decidable (∀ s ∈ e.sections.values, Name.key s.name ≠ Name.key found.name))
  | .entry found entry =>
      inferInstanceAs (Decidable (∃ s ∈ e.sections.values, Name.key s.name = Name.key found.name ∧
        ∀ v ∈ s.declared.values, Name.key v.ident ≠ Name.key entry.key))

/-! ## The report -/

theorem undeclared_header_iff (hsound : e.Sound) :
    e.Undeclared (.header found) ↔ e.section? found.name = none :=
  hsound.keyed.get?_eq_none_iff.symm

theorem undeclared_entry_iff (hsound : e.Sound) :
    e.Undeclared (.entry found entry) ↔
      ∃ s, e.section? found.name = some s ∧ s.get? entry.key = none := by
  constructor
  · rintro ⟨s, hs, hname, hnone⟩
    exact ⟨s, hsound.keyed.get?_eq_some_iff.mpr ⟨hs, hname⟩,
      (hsound.sections s hs).keyed.get?_eq_none_iff.mpr hnone⟩
  · rintro ⟨s, hsection, hnone⟩
    obtain ⟨hs, hname⟩ := hsound.keyed.get?_eq_some_iff.mp hsection
    exact ⟨s, hs, hname, (hsound.sections s hs).keyed.get?_eq_none_iff.mp hnone⟩

theorem undeclared_eq (hsound : e.Sound) (source : Source) :
    e.undeclared source =
      (source.items.filter fun item => e.Undeclared item).map Item.fault := by
  unfold undeclared items
  rw [List.filter_flatMap, List.map_flatMap]
  congr 1
  funext found
  cases hsection : e.section? found.name with
  | none =>
      have hheader := (undeclared_header_iff hsound).mpr hsection
      have hentries : ∀ entry, ¬ e.Undeclared (.entry found entry) := by
        simp [undeclared_entry_iff hsound, hsection]
      simp [hheader, hentries, List.filter_map, Function.comp_def, Item.fault]
  | some s =>
      have hheader : ¬ e.Undeclared (.header found) := by
        simp [undeclared_header_iff hsound, hsection]
      have hentries : ∀ entry, e.Undeclared (.entry found entry) ↔ s.get? entry.key = none := by
        simp [undeclared_entry_iff hsound, hsection]
      simp [hheader, hentries, List.filter_map, Function.comp_def, Section.undeclared, Item.fault,
        ← Option.isNone_iff_eq_none]

theorem validate_strict_of_exists (hsound : e.Sound)
    (h : ∃ item ∈ source.items, e.Undeclared item) :
    e.validate source true = .error
      (.unknownKeys ((source.items.filter fun item => e.Undeclared item).map Item.fault)) := by
  have hreport : (e.undeclared source).isEmpty = false := by
    rw [undeclared_eq hsound]
    simpa using h
  rw [validate, hreport, ← undeclared_eq hsound]
  rfl

theorem validate_strict_of_forall (hsound : e.Sound)
    (h : ∀ item ∈ source.items, ¬ e.Undeclared item) :
    e.validate source true = e.validate source false := by
  have hreport : (e.undeclared source).isEmpty = true := by
    rw [undeclared_eq hsound]
    simpa using h
  rw [validate, validate, hreport]
  rfl

theorem forall_of_validate_strict (hsound : e.Sound) {t : Settings}
    (h : e.validate source true = .ok t) : ∀ item ∈ source.items, ¬ e.Undeclared item := by
  intro item hitem hundeclared
  rw [validate_strict_of_exists hsound ⟨item, hitem, hundeclared⟩] at h
  cases h

/-! ## Entries that are declared -/

theorem exists_declares (h : ∀ item ∈ source.items, ¬ e.Undeclared item)
    (hfound : found ∈ source.sections.values) (hentry : entry ∈ found.entries.values) :
    ∃ v, e.Declares found.name entry.key v := by
  have hheader := h _ (header_mem_items.mpr hfound)
  have hkey := h _ (entry_mem_items.mpr ⟨hfound, hentry⟩)
  simp only [Undeclared, not_forall, not_not, exists_prop] at hheader
  obtain ⟨s, hs, hname⟩ := hheader
  simp only [Undeclared, not_exists, not_and, not_forall, not_not, exists_prop] at hkey
  obtain ⟨v, hv, hident⟩ := hkey s hs hname
  exact ⟨v, s, hs, hname, hv, hident⟩

theorem exists_value_of_entry (hsound : e.Sound) (hsource : source.Sound) {t : Settings}
    (h : e.validate source true = .ok t) (hfound : found ∈ source.sections.values)
    (hentry : entry ∈ found.entries.values) :
    ∃ v value, e.Declares found.name entry.key v ∧ v.type.read entry.value = .ok value ∧
      t.value? found.name entry.key = some value := by
  have hfills := fills_of_settings hsound (settings_of_validate h)
  obtain ⟨v, hv⟩ := exists_declares (forall_of_validate_strict hsound h) hfound hentry
  obtain ⟨value, hvalue⟩ := hfills.exists_value?_iff.mpr ⟨v, hv⟩
  obtain ⟨w, hw, htakes⟩ := hfills.value?_eq_some_iff.mp hvalue
  rw [hsource.get?_key hfound hentry] at htakes
  exact ⟨w, value, hw, htakes, hvalue⟩

end Environment

/-- Strict validation reports what is not declared, all of it and in the order of the source.
Otherwise it does what lenient validation does, and no entry is left unread. -/
theorem Schema.validate_strict_iff {manual : Text} {s : Schema}
    (hs : Schema.ofManual manual = .ok s) {e : Environment} (he : e ∈ s.environments.values)
    {name : Text} (hname : Name.key e.name = Name.key name) {source : Source}
    (hsource : source.Built) :
    ((∃ item ∈ source.items, e.Undeclared item) →
      s.validate name source true = .error
        (.unknownKeys ((source.items.filter fun item => e.Undeclared item).map Item.fault))) ∧
    ((∀ item ∈ source.items, ¬ e.Undeclared item) →
      s.validate name source true = s.validate name source false) ∧
    ∀ t, s.validate name source true = .ok t →
      ∀ found ∈ source.sections.values, ∀ entry ∈ found.entries.values,
        ∃ v value, e.Declares found.name entry.key v ∧ v.type.read entry.value = .ok value ∧
          t.value? found.name entry.key = some value := by
  have hsound := sound_of_ofManual hs
  have hesound := hsound.environments e he
  simp only [validate_of_key_eq hsound he hname]
  refine ⟨Environment.validate_strict_of_exists hesound,
    Environment.validate_strict_of_forall hesound, ?_⟩
  intro t ht found hfound entry hentry
  exact Environment.exists_value_of_entry hesound hsource.sound ht hfound hentry

theorem Schema.validate_strict_iff_server :
    serverSchema.validate "DEFAULT"
        ((((Source.blank none).insert " Main " "HOST" "h").insert "extra" "k" "v").insert "main"
          "prot" "1") true =
      .error (.unknownKeys [.unknownKey "Main" "prot" 0, .unknownSection "extra" 0]) := by
  have hbuilt : ((((Source.blank none).insert " Main " "HOST" "h").insert "extra" "k" "v").insert
      "main" "prot" "1").Built :=
    ((Built.blank.insert _ _ _).insert _ _ _).insert _ _ _
  have hname : Name.key serverEnvironment.name = Name.key "DEFAULT" := by decide
  exact (validate_strict_iff ofManual_serverManual serverEnvironment_mem hname hbuilt).1 (by decide)

end IniSchema
