import IniSchema.Proofs.Source.Built
import IniSchema.Proofs.Source.Labels

/-!
# Sources laid over each other

A source that is laid over another gives its entries where both have one, and adds what the other
does not have.  What is there already keeps its place, and a section keeps its name and line.
-/

namespace IniSchema.OrderedMap

variable {α β : Type} {m n : OrderedMap α} {key : Text}

/-! ## Maps laid over each other -/

/-- The keys of the first map, then the new ones of the second.  Two values of one key are
combined. -/
def merge (combine : α → α → α) (m n : OrderedMap α) : OrderedMap α where
  entries := m.entries.map (fun e => (e.1, ((n.get? e.1).map (combine e.2)).getD e.2)) ++
    n.entries.filter fun e => !m.contains e.1
  nodup := by
    have hfront : (m.entries.map fun e =>
        (e.1, ((n.get? e.1).map (combine e.2)).getD e.2)).map Prod.fst = m.keys := by
      simp [keys, Function.comp_def]
    rw [List.map_append, hfront, List.nodup_append]
    refine ⟨m.nodup, n.nodup.sublist (List.filter_sublist.map Prod.fst), ?_⟩
    rintro key hkey other hother rfl
    obtain ⟨e, he, rfl⟩ := List.mem_map.mp hother
    simp [contains_iff.mpr hkey] at he

variable {combine : α → α → α}

theorem keys_merge :
    (m.merge combine n).keys = m.keys ++ n.keys.filter fun key => !m.contains key := by
  simp [keys, merge, Function.comp_def, List.filter_map]

theorem get?_merge (key : Text) : (m.merge combine n).get? key =
    Option.merge combine (m.get? key) (n.get? key) := by
  cases hm : m.get? key with
  | some a =>
      have hmem : (key, ((n.get? key).map (combine a)).getD a) ∈ (m.merge combine n).entries :=
        List.mem_append_left _ (List.mem_map.mpr ⟨(key, a), get?_eq_some_iff.mp hm, rfl⟩)
      rw [get?_eq_some_iff.mpr hmem]
      cases n.get? key <;> rfl
  | none =>
      have hnew : key ∉ m.keys := get?_eq_none_iff.mp hm
      cases hn : n.get? key with
      | some b =>
          rw [Option.merge_none_left]
          refine get?_eq_some_iff.mpr (List.mem_append_right _ ?_)
          exact List.mem_filter.mpr ⟨get?_eq_some_iff.mp hn, by simp [contains, hm]⟩
      | none =>
          refine get?_eq_none_iff.mpr ?_
          rw [keys_merge]
          simp [hnew, get?_eq_none_iff.mp hn]

theorem map_values_merge {view : α → β} (hview : ∀ a b, view (combine a b) = view a) :
    (m.merge combine n).values.map view = m.values.map view ++
      (n.entries.filter fun e => !m.contains e.1).map fun e => view e.2 := by
  have hfront : ∀ e : Text × α, view (((n.get? e.1).map (combine e.2)).getD e.2) = view e.2 := by
    intro e
    cases n.get? e.1 with
    | none => rfl
    | some b => exact hview e.2 b
  simp [values, merge, Function.comp_def, hfront]

theorem merge_empty : m.merge combine .empty = m := by
  apply ext_get?
  · rw [keys_merge]
    simp [keys, empty]
  · intro key
    rw [get?_merge, get?_empty, Option.merge_none_right]

theorem merge_modify {f : α → α} {b : α} (hb : n.get? key = some b)
    (hf : ∀ a, f (combine a b) = combine a (f b)) :
    (m.merge combine n).modify key f = m.merge combine (n.modify key f) := by
  apply ext_get?
  · simp only [keys_modify, keys_merge]
  · intro other
    rw [get?_modify, get?_merge, get?_merge, get?_modify]
    by_cases hkey : other = key
    · subst hkey
      cases hm : m.get? other with
      | none => simp [hb]
      | some a => simp [hb, hf]
    · simp [hkey]

theorem merge_insert {a : α} (ha : ∀ old, m.get? key = some old → combine old a = a) :
    (m.merge combine n).insert key a = m.merge combine (n.insert key a) := by
  apply ext_get?
  · simp only [keys_insert, keys_merge]
    cases hm : m.contains key with
    | true =>
        have hmem : key ∈ m.keys := contains_iff.mp hm
        by_cases hn : key ∈ n.keys <;> simp [hm, hmem, hn]
    | false =>
        have hmem : key ∉ m.keys := by simp [← contains_iff, hm]
        by_cases hn : key ∈ n.keys <;> simp [hm, hmem, hn]
  · intro other
    rw [get?_insert, get?_merge, get?_merge, get?_insert]
    by_cases hkey : other = key
    · subst hkey
      cases hm : m.get? other with
      | none => simp
      | some old => simp [ha old hm]
    · simp [hkey]

theorem merge_insert_of_get? {a old : α} (hm : m.get? key = some old) (hn : key ∉ n.keys)
    (ha : combine old a = old) :
    m.merge combine (n.insert key a) = m.merge combine n := by
  apply ext_get?
  · have hmem : m.contains key = true := contains_iff.mpr (mem_keys_of_get? hm)
    simp [keys_merge, keys_insert, hn, hmem]
  · intro other
    rw [get?_merge, get?_merge, get?_insert]
    by_cases hkey : other = key
    · subst hkey
      simp [hm, ha, get?_eq_none_iff.mpr hn]
    · simp [hkey]

end IniSchema.OrderedMap

namespace IniSchema

def Entry.shift (k : Nat) (e : Entry) : Entry := { e with line := e.line + k }

def SourceSection.shift (k : Nat) (s : SourceSection) : SourceSection :=
  { s with line := s.line + k, entries := s.entries.map (Entry.shift k) }

def SourceSection.overlay (base top : SourceSection) : SourceSection :=
  { base with entries := base.entries.merge (fun _ later => later) top.entries }

namespace Source

/-- The source of the same lines with `k` more lines before them. -/
def shift (k : Nat) (s : Source) : Source :=
  { s with sections := s.sections.map (SourceSection.shift k) }

def overlay (base top : Source) : Source :=
  { base with sections := base.sections.merge SourceSection.overlay top.sections }

def HasEntry (s : Source) (sectionKey entryKey : Text) : Prop :=
  ∃ sec entry, s.sections.get? sectionKey = some sec ∧ sec.entries.get? entryKey = some entry

theorem exists_section_ensureSection (s : Source) (name : Text) (line : Nat) :
    ∃ sec, (s.ensureSection name line).sections.get? (Name.key name) = some sec := by
  have hsection := s.section?_ensureSection name name line
  rw [if_pos rfl] at hsection
  exact ⟨_, hsection⟩

/-! ## Lines further down -/

variable {s base top : Source} {k : Nat}

theorem shift_ensureSection (s : Source) (name : Text) (line k : Nat) :
    (s.ensureSection name line).shift k = (s.shift k).ensureSection name (line + k) :=
  respelling_id.relabel_ensureSection (· + k) s name line

theorem shift_put (s : Source) (name key value : Text) (number k : Nat) :
    (s.put name number key value number).shift k =
      (s.shift k).put name (number + k) key value (number + k) :=
  respelling_id.relabel_put (· + k) s name number key value number

theorem shift_appendLine (s : Source) (sectionKey entryKey text : Text) (k : Nat) :
    (s.appendLine sectionKey entryKey text).shift k =
      (s.shift k).appendLine sectionKey entryKey text :=
  relabel_appendLine id (· + k) s sectionKey entryKey text

theorem HasEntry.shift {sectionKey entryKey : Text} (h : s.HasEntry sectionKey entryKey) (k : Nat) :
    (s.shift k).HasEntry sectionKey entryKey := by
  obtain ⟨sec, entry, hsec, hentry⟩ := h
  refine ⟨sec.shift k, entry.shift k, ?_, ?_⟩
  · simp [Source.shift, OrderedMap.get?_map, hsec]
  · simp [SourceSection.shift, OrderedMap.get?_map, hentry]

/-! ## Sources laid over each other -/

theorem overlay_ensureSection (base top : Source) (name : Text) (line : Nat) :
    base.overlay (top.ensureSection name line) = (base.overlay top).ensureSection name line := by
  have hcontains : (base.overlay top).sections.contains (Name.key name) =
      (base.sections.contains (Name.key name) || top.sections.contains (Name.key name)) := by
    simp [overlay, OrderedMap.contains, OrderedMap.get?_merge]
  unfold ensureSection
  rw [hcontains]
  cases htop : top.sections.contains (Name.key name) with
  | true => simp
  | false =>
      have hnew : Name.key name ∉ top.sections.keys := by
        rw [← OrderedMap.contains_iff, htop]
        simp
      cases hbase : base.sections.contains (Name.key name) with
      | true =>
          obtain ⟨sec, hsec⟩ := Option.isSome_iff_exists.mp hbase
          have hblank : sec.overlay ⟨name.trim, line, .empty⟩ = sec := by
            simp [SourceSection.overlay, OrderedMap.merge_empty]
          simp [overlay, OrderedMap.merge_insert_of_get? hsec hnew hblank]
      | false =>
          have hnone : base.sections.get? (Name.key name) = none := by
            simpa [OrderedMap.contains] using hbase
          simp [overlay, OrderedMap.merge_insert, hnone]

theorem overlay_put (base top : Source) (name : Text) (sectionLine : Nat) (key value : Text)
    (line : Nat) : base.overlay (top.put name sectionLine key value line) =
      (base.overlay top).put name sectionLine key value line := by
  obtain ⟨sec, hsec⟩ := top.exists_section_ensureSection name sectionLine
  unfold put
  rw [← overlay_ensureSection]
  simp only [overlay]
  congr 1
  refine (OrderedMap.merge_modify hsec ?_).symm
  intro a
  simp only [SourceSection.overlay]
  congr 1
  exact OrderedMap.merge_insert fun _ _ => rfl

theorem overlay_appendLine {sectionKey entryKey : Text} (base : Source)
    (h : top.HasEntry sectionKey entryKey) (text : Text) :
    base.overlay (top.appendLine sectionKey entryKey text) =
      (base.overlay top).appendLine sectionKey entryKey text := by
  obtain ⟨sec, entry, hsec, hentry⟩ := h
  simp only [overlay, appendLine]
  congr 1
  refine (OrderedMap.merge_modify hsec ?_).symm
  intro a
  simp only [SourceSection.overlay]
  congr 1
  exact OrderedMap.merge_modify hentry fun _ => rfl

/-! ## What is laid over -/

/-- The entries of `top` count before those of `base`, with their lines further down.  The sections
of `base` come first and keep their names and lines. -/
structure Overrides (base top : Source) (k : Nat) (s : Source) : Prop where
  path : s.path = base.path
  entries : ∀ name key, s.get? name key =
    ((top.get? name key).map (Entry.shift k)).or (base.get? name key)
  sections : ∀ name, (s.section? name).map (fun sec => (sec.name, sec.line)) =
    ((base.section? name).map fun sec => (sec.name, sec.line)).or
      ((top.section? name).map fun sec => (sec.name, sec.line + k))
  order : s.sections.values.map (fun sec => (sec.name, sec.line)) =
    base.sections.values.map (fun sec => (sec.name, sec.line)) ++
      (top.sections.values.filter fun sec => base.section? sec.name = none).map
        fun sec => (sec.name, sec.line + k)

theorem get?_shift (s : SourceSection) (k : Nat) (key : Text) :
    (s.shift k).get? key = (s.get? key).map (Entry.shift k) :=
  OrderedMap.get?_map ..

theorem get?_overlay (base top : SourceSection) (key : Text) :
    (base.overlay top).get? key = (top.get? key).or (base.get? key) := by
  rw [SourceSection.get?, SourceSection.overlay, OrderedMap.get?_merge]
  unfold SourceSection.get?
  cases base.entries.get? (Name.key key) with
  | none => simp
  | some e => cases top.entries.get? (Name.key key) <;> rfl

theorem section?_overlay_shift (base top : Source) (k : Nat) (name : Text) :
    (base.overlay (top.shift k)).section? name =
      Option.merge SourceSection.overlay (base.section? name)
        ((top.section? name).map (SourceSection.shift k)) := by
  simp only [section?, overlay, shift, OrderedMap.get?_merge, OrderedMap.get?_map]

theorem overrides_overlay_shift (base : Source) (htop : top.Sound) (k : Nat) :
    Overrides base top k (base.overlay (top.shift k)) where
  path := rfl
  entries := by
    intro name key
    simp only [get?, section?_overlay_shift]
    cases base.section? name with
    | none => cases top.section? name <;> simp [get?_shift]
    | some found => cases top.section? name <;> simp [get?_shift, get?_overlay]
  sections := by
    intro name
    rw [section?_overlay_shift]
    cases base.section? name with
    | none => simp [Function.comp_def, SourceSection.shift]
    | some found => cases top.section? name <;> rfl
  order := by
    have hnew : ∀ e ∈ top.sections.entries,
        (!base.sections.contains e.1) = decide (base.section? e.2.name = none) := by
      intro e he
      rw [OrderedMap.contains, section?, htop.keyed e he]
      cases base.sections.get? (Name.key e.2.name) <;> simp
    simp only [overlay]
    rw [OrderedMap.map_values_merge (by intros; rfl)]
    simp only [shift, OrderedMap.map, OrderedMap.values, List.filter_map, List.map_map,
      Function.comp_def, List.filter_congr hnew]
    rfl

end Source

end IniSchema
