import IniSchema.Proofs.Source.Reader

/-!
# Sources however they are built

Sources are read from texts and added to by insertion.  At every step their sections and entries
stand under the keys of their own names, so that each is what its name leads to.
-/

namespace IniSchema.Source

/-- What reading and insertion give, in any order. -/
inductive Built : Source → Prop where
  | blank : Built (.blank none)
  | read {text : Text} {path : Option Text} {source : Source}
      (h : Source.ofText text path = .ok source) : Built source
  | insert {source : Source} (h : Built source) (sectionName key value : Text) :
      Built (source.insert sectionName key value)
  | addSection {source : Source} (h : Built source) (name : Text) : Built (source.addSection name)

structure Sound (source : Source) : Prop where
  keyed : source.sections.Keyed SourceSection.name
  entries_keyed : ∀ s ∈ source.sections.entries, s.2.entries.Keyed Entry.key

/-! ## What each step keeps -/

variable {source : Source}

theorem sound_blank (path : Option Text) : (blank path).Sound :=
  ⟨OrderedMap.Keyed.empty, by simp [blank, OrderedMap.empty]⟩

theorem sound_of_ofText {text : Text} {path : Option Text}
    (h : Source.ofText text path = .ok source) : source.Sound := by
  obtain ⟨r, rfl, htracks⟩ := tracks_of_ofText h
  have hkeyed := htracks.records.keyed
  refine ⟨hkeyed, ?_⟩
  rintro ⟨key, found⟩ hmem
  have hfound : r.source.section? found.name = some found :=
    hkeyed.get?_name (OrderedMap.mem_values.mpr ⟨key, hmem⟩)
  exact htracks.records.entries_keyed hfound

namespace Sound

theorem ensureSection (h : source.Sound) (name : Text) (line : Nat) :
    (source.ensureSection name line).Sound := by
  unfold Source.ensureSection
  split
  · exact h
  · have hkey : Name.key name = Name.key name.trim := (Name.key_trim name).symm
    exact ⟨h.keyed.insert hkey,
      OrderedMap.forall_entries_insert h.entries_keyed OrderedMap.Keyed.empty⟩

theorem put (h : source.Sound) (sectionName : Text) (sectionLine : Nat) (key value : Text)
    (line : Nat) : (source.put sectionName sectionLine key value line).Sound := by
  have hensured := h.ensureSection sectionName sectionLine
  have hkey : Name.key key = Name.key key.trim := (Name.key_trim key).symm
  exact ⟨hensured.keyed.modify _ fun _ => rfl,
    OrderedMap.forall_entries_modify hensured.entries_keyed fun _ hentries => hentries.insert hkey⟩

/-! ## Look-ups by the source's own spelling -/

variable {found : SourceSection}

theorem section?_name (h : source.Sound) (hfound : found ∈ source.sections.values) :
    source.section? found.name = some found :=
  h.keyed.get?_name hfound

theorem get?_key (h : source.Sound) (hfound : found ∈ source.sections.values) {entry : Entry}
    (hentry : entry ∈ found.entries.values) : source.get? found.name entry.key = some entry := by
  obtain ⟨key, hmem⟩ := OrderedMap.mem_values.mp hfound
  rw [get?, h.section?_name hfound]
  exact (h.entries_keyed _ hmem).get?_name hentry

end Sound

theorem Built.sound (h : source.Built) : source.Sound := by
  induction h with
  | blank => exact sound_blank none
  | read h => exact sound_of_ofText h
  | insert _ sectionName key value ih => exact ih.put sectionName 0 key value 0
  | addSection _ name ih => exact ih.ensureSection name 0

end IniSchema.Source
