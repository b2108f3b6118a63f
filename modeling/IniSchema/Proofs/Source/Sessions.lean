import IniSchema.Proofs.Source.Built
import IniSchema.Proofs.Source.Steps

/-!
# Sources over a session

A session starts from nothing or from a text, and inserts entries and sections in any order.  All
the while names and keys are stored trimmed, each under its own key, and each leads to what is
stored.  An insertion sets one entry and leaves every other as it is.  What it adds comes last, and
a section that is there keeps its name, its line and its place.
-/

namespace IniSchema.OrderedMap

variable {α : Type}

theorem keys_prefix_insert (m : OrderedMap α) (key : Text) (value : α) :
    m.keys <+: (m.insert key value).keys := by
  rw [keys_insert]
  split
  · exact List.prefix_rfl
  · exact List.prefix_append ..

end IniSchema.OrderedMap

namespace IniSchema.Source

variable {source : Source}

/-! ## Stored names -/

/-- No stored name or key has white space around it. -/
def Trimmed (source : Source) : Prop :=
  ∀ s ∈ source.sections.entries,
    Text.IsTrimmed s.2.name ∧ ∀ e ∈ s.2.entries.entries, Text.IsTrimmed e.2.key

theorem trimmed_blank (path : Option Text) : (blank path).Trimmed :=
  List.forall_mem_nil _

namespace Trimmed

theorem ensureSection (h : source.Trimmed) (name : Text) (line : Nat) :
    (source.ensureSection name line).Trimmed := by
  unfold Source.ensureSection
  split
  · exact h
  · exact OrderedMap.forall_entries_insert h ⟨Text.isTrimmed_trim name, List.forall_mem_nil _⟩

theorem put (h : source.Trimmed) (sectionName : Text) (sectionLine : Nat) (key value : Text)
    (line : Nat) : (source.put sectionName sectionLine key value line).Trimmed := by
  apply OrderedMap.forall_entries_modify (h.ensureSection sectionName sectionLine)
  intro found hfound
  exact ⟨hfound.1, OrderedMap.forall_entries_insert hfound.2 (Text.isTrimmed_trim key)⟩

theorem appendLine (h : source.Trimmed) (sectionKey entryKey text : Text) :
    (source.appendLine sectionKey entryKey text).Trimmed := by
  apply OrderedMap.forall_entries_modify h
  intro found hfound
  exact ⟨hfound.1, OrderedMap.forall_entries_modify hfound.2 fun _ hentry => hentry⟩

theorem next {r r' : Reader} {number : Nat} (h : r.source.Trimmed) (hnext : r.Next number r') :
    r'.source.Trimmed := by
  cases hnext with
  | skipped => exact h
  | continued hentry text => exact h.appendLine _ _ text
  | header hname => exact h.ensureSection _ number
  | entry hopen key value indent => exact h.put _ number key value number

end Trimmed

theorem trimmed_of_ofText {text : Text} {path : Option Text}
    (h : Source.ofText text path = .ok source) : source.Trimmed := by
  obtain ⟨r, hread, rfl⟩ := ofText_eq_ok_iff.mp h
  exact Reader.invariant_of_readLines (P := fun r => r.source.Trimmed) Trimmed.next
    (trimmed_blank path) hread

theorem Built.trimmed (h : source.Built) : source.Trimmed := by
  induction h with
  | blank => exact trimmed_blank none
  | read h => exact trimmed_of_ofText h
  | insert _ sectionName key value ih => exact ih.put sectionName 0 key value 0
  | addSection _ name ih => exact ih.ensureSection name 0

/-- Everything is stored trimmed under its own key, no key is stored twice, and each name leads to
what it names. -/
structure Tidy (source : Source) : Prop extends source.Sound where
  name_trimmed : ∀ found ∈ source.sections.values, Text.IsTrimmed found.name
  key_trimmed : ∀ found ∈ source.sections.values, ∀ entry ∈ found.entries.values,
    Text.IsTrimmed entry.key
  names_nodup : (source.sections.values.map fun found => Name.key found.name).Nodup
  keys_nodup : ∀ found ∈ source.sections.values,
    (found.entries.values.map fun entry => Name.key entry.key).Nodup
  name_found : ∀ found ∈ source.sections.values, source.section? found.name = some found
  key_found : ∀ found ∈ source.sections.values, ∀ entry ∈ found.entries.values,
    found.get? entry.key = some entry

theorem Built.tidy (h : source.Built) : source.Tidy := by
  have hsound := h.sound
  have hentries : ∀ found ∈ source.sections.values, found.entries.Keyed Entry.key ∧
      Text.IsTrimmed found.name ∧ ∀ e ∈ found.entries.entries, Text.IsTrimmed e.2.key := by
    intro found hfound
    obtain ⟨key, hmem⟩ := OrderedMap.mem_values.mp hfound
    exact ⟨hsound.entries_keyed _ hmem, h.trimmed _ hmem⟩
  exact {
    toSound := hsound
    name_trimmed := fun found hfound => (hentries found hfound).2.1
    key_trimmed := by
      intro found hfound entry hentry
      obtain ⟨key, hmem⟩ := OrderedMap.mem_values.mp hentry
      exact (hentries found hfound).2.2 _ hmem
    names_nodup := hsound.keyed.nodup
    keys_nodup := fun found hfound => (hentries found hfound).1.nodup
    name_found := fun found hfound => hsound.section?_name hfound
    key_found := fun found hfound entry hentry => (hentries found hfound).1.get?_name hentry }

/-! ## What insertions change -/

/-- The result has the section, and all else as it was. -/
structure Opens (source : Source) (name : Text) (result : Source) : Prop where
  path : result.path = source.path
  new : source.section? name = none → result.section? name = some ⟨name.trim, 0, .empty⟩
  others : ∀ other, Name.key other ≠ Name.key name →
    result.section? other = source.section? other
  unchanged : source.sections.entries <+: result.sections.entries

/-- The result has the entry on line 0, and all else as it was. -/
structure Sets (source : Source) (sectionName key value : Text) (result : Source) : Prop where
  path : result.path = source.path
  entry : result.get? sectionName key = some ⟨key.trim, value, 0⟩
  other_entries : ∀ otherSection other,
    ¬(Name.key otherSection = Name.key sectionName ∧ Name.key other = Name.key key) →
      result.get? otherSection other = source.get? otherSection other
  other_sections : ∀ other, Name.key other ≠ Name.key sectionName →
    result.section? other = source.section? other
  section_kept : ∀ name found, source.section? name = some found →
    ∃ found', result.section? name = some found' ∧ found'.name = found.name ∧
      found'.line = found.line ∧ found.entries.keys <+: found'.entries.keys
  section_order : source.sections.keys <+: result.sections.keys

theorem entries_prefix_ensureSection (source : Source) (name : Text) (line : Nat) :
    source.sections.entries <+: (source.ensureSection name line).sections.entries := by
  unfold ensureSection
  split
  · exact List.prefix_rfl
  · rename_i hnew
    rw [OrderedMap.contains_iff] at hnew
    dsimp only
    rw [OrderedMap.entries_insert_of_notMem hnew]
    exact List.prefix_append ..

theorem path_ensureSection (source : Source) (name : Text) (line : Nat) :
    (source.ensureSection name line).path = source.path := by
  unfold ensureSection
  split
  · rfl
  · rfl

theorem section?_put_of_key_ne (sectionLine : Nat) (key value : Text) (line : Nat)
    {sectionName other : Text} (h : Name.key other ≠ Name.key sectionName) :
    (source.put sectionName sectionLine key value line).section? other =
      source.section? other := by
  have hsection := section?_ensureSection source sectionName other sectionLine
  rw [if_neg h] at hsection
  rw [put, section?, OrderedMap.get?_modify, if_neg h]
  exact hsection

theorem opens_addSection (source : Source) (name : Text) :
    Opens source name (source.addSection name) where
  path := path_ensureSection source name 0
  new := by
    intro hnone
    rw [addSection, section?_ensureSection, if_pos rfl, hnone]
    rfl
  others := by
    intro other hother
    rw [addSection, section?_ensureSection, if_neg hother]
  unchanged := entries_prefix_ensureSection source name 0

theorem sets_insert (source : Source) (sectionName key value : Text) :
    Sets source sectionName key value (source.insert sectionName key value) where
  path := path_ensureSection source sectionName 0
  entry := by rw [get?_insert, if_pos ⟨rfl, rfl⟩]
  other_entries := by
    intro otherSection other hother
    rw [get?_insert, if_neg hother]
  other_sections := fun other hother => section?_put_of_key_ne 0 key value 0 hother
  section_kept := by
    intro name found hfound
    by_cases hname : Name.key name = Name.key sectionName
    · have hsame : source.section? sectionName = some found := by
        rw [section?, ← hname]
        exact hfound
      rw [insert, section?_put sectionName 0 key value 0 hsame, if_pos hname]
      exact ⟨_, rfl, rfl, rfl, OrderedMap.keys_prefix_insert ..⟩
    · rw [insert, section?_put_of_key_ne 0 key value 0 hname]
      exact ⟨found, hfound, rfl, rfl, List.prefix_rfl⟩
  section_order := by
    rw [insert, put, OrderedMap.keys_modify]
    exact (entries_prefix_ensureSection source sectionName 0).map Prod.fst

/-! ## Sessions -/

/-- A session keeps its source tidy.  Each insertion sets the one entry that it names, and adding a
section changes none that is there. -/
theorem built_session (h : source.Built) :
    source.Tidy ∧
    (∀ sectionName key value,
      Sets source sectionName key value (source.insert sectionName key value)) ∧
    ∀ name, Opens source name (source.addSection name) :=
  ⟨h.tidy, sets_insert source, opens_addSection source⟩

theorem built_session_reread :
    ∃ source, Source.ofText "[Main]\nhost = h\nport = 1\n  2" none = .ok source ∧
      (source.insert "main" " Host " "").get? "main" " Host " = some ⟨"Host", "", 0⟩ ∧
      (source.insert "main" " Host " "").get? "main" "port" = some ⟨"port", "1\n2", 3⟩ ∧
      ∃ found, (source.insert "main" " Host " "").section? "main" = some found ∧
        found.name = "Main" ∧ found.line = 1 := by
  obtain ⟨source, hsource, hport, hmain⟩ : ∃ source,
      Source.ofText "[Main]\nhost = h\nport = 1\n  2" none = .ok source ∧
        source.get? "main" "port" = some ⟨"port", "1\n2", 3⟩ ∧
        (source.section? "main").map (fun found => (found.name, found.line)) =
          some ("Main".toList, 1) :=
    ⟨_, rfl, by decide, by decide⟩
  obtain ⟨old, hold, heq⟩ := Option.map_eq_some_iff.mp hmain
  obtain ⟨hname, hline⟩ := Prod.mk.inj heq
  have hkey : Name.key "port" ≠ Name.key " Host " := by decide
  obtain ⟨-, hinsert, -⟩ := built_session (.read hsource)
  have hsets := hinsert "main" " Host " ""
  obtain ⟨found, hfound, hname', hline', -⟩ := hsets.section_kept "main" old hold
  refine ⟨source, hsource, hsets.entry, ?_, found, hfound, hname'.trans hname,
    hline'.trans hline⟩
  rw [hsets.other_entries "main" "port" fun hboth => hkey hboth.2, hport]

end IniSchema.Source
