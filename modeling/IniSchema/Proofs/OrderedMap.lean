import IniSchema.Name
import IniSchema.OrderedMap
import Mathlib.Data.List.Forall2

/-!
# Maps as catalogues of named things

Schemas, sources and settings keep things in ordered maps under the key of their names.
`Lists R name m items` says that the map `m` has one value for each item, in the order of the
items, under the key of the item's name, and that value and item are related by `R`.  Insertion
of a new name and a change of the last value keep a catalogue, and look-ups find what is listed.
-/

namespace IniSchema.OrderedMap

variable {α β : Type}

/-! ## Entries -/

theorem lookup_eq_none_iff {key : Text} {entries : List (Text × α)} :
    lookup key entries = none ↔ key ∉ entries.map Prod.fst := by
  induction entries with
  | nil => simp [lookup]
  | cons e rest ih =>
      obtain ⟨k, v⟩ := e
      by_cases hk : k = key
      · simp [lookup, hk]
      · simp [lookup, hk, ih, Ne.symm hk]

theorem mem_of_lookup {key : Text} {value : α} {entries : List (Text × α)}
    (h : lookup key entries = some value) : (key, value) ∈ entries := by
  induction entries with
  | nil => simp [lookup] at h
  | cons e rest ih =>
      obtain ⟨k, v⟩ := e
      by_cases hk : k = key
      · simp only [lookup, hk, if_true, Option.some.injEq] at h
        simp [hk, h]
      · simp only [lookup, hk, if_false] at h
        exact List.mem_cons_of_mem _ (ih h)

theorem lookup_of_mem {key : Text} {value : α} {entries : List (Text × α)}
    (hnodup : (entries.map Prod.fst).Nodup) (h : (key, value) ∈ entries) :
    lookup key entries = some value := by
  induction entries with
  | nil => cases h
  | cons e rest ih =>
      obtain ⟨k, v⟩ := e
      rw [List.map_cons, List.nodup_cons] at hnodup
      rcases List.mem_cons.mp h with heq | hrest
      · cases heq
        simp [lookup]
      · have hk : k ≠ key := by
          rintro rfl
          exact hnodup.1 (List.mem_map.mpr ⟨_, hrest, rfl⟩)
        simp only [lookup, hk, if_false]
        exact ih hnodup.2 hrest

theorem put_of_notMem {key : Text} {value : α} {entries : List (Text × α)}
    (h : key ∉ entries.map Prod.fst) : put key value entries = entries ++ [(key, value)] := by
  induction entries with
  | nil => rfl
  | cons e rest ih =>
      obtain ⟨k, v⟩ := e
      simp only [List.map_cons, List.mem_cons, not_or] at h
      simp [put, Ne.symm h.1, ih h.2]

theorem adjust_of_notMem {key : Text} {f : α → α} {entries : List (Text × α)}
    (h : key ∉ entries.map Prod.fst) : adjust key f entries = entries := by
  unfold adjust
  conv_rhs => rw [← List.map_id entries]
  apply List.map_congr_left
  intro e he
  have hkey : e.1 ≠ key := fun heq => h (heq ▸ List.mem_map.mpr ⟨e, he, rfl⟩)
  simp [hkey]

theorem get?_eq_none_iff {m : OrderedMap α} {key : Text} : m.get? key = none ↔ key ∉ m.keys :=
  lookup_eq_none_iff

theorem contains_iff {m : OrderedMap α} {key : Text} : m.contains key = true ↔ key ∈ m.keys := by
  rw [contains, Option.isSome_iff_ne_none, ne_eq, get?_eq_none_iff, not_not]

theorem get?_eq_some_iff {m : OrderedMap α} {key : Text} {value : α} :
    m.get? key = some value ↔ (key, value) ∈ m.entries :=
  ⟨mem_of_lookup, lookup_of_mem m.nodup⟩

theorem entries_insert_of_notMem {m : OrderedMap α} {key : Text} {value : α}
    (h : key ∉ m.keys) : (m.insert key value).entries = m.entries ++ [(key, value)] :=
  put_of_notMem h

theorem entries_modify_of_concat {m : OrderedMap α} {key : Text} {value : α} {f : α → α}
    {entries : List (Text × α)} (hentries : m.entries = entries ++ [(key, value)])
    (h : key ∉ entries.map Prod.fst) :
    (m.modify key f).entries = entries ++ [(key, f value)] := by
  change adjust key f m.entries = _
  rw [hentries]
  unfold adjust
  rw [List.map_append]
  congr 1
  · exact adjust_of_notMem h
  · simp

theorem forall_entries_insert {m : OrderedMap α} {P : Text × α → Prop}
    (h : ∀ e ∈ m.entries, P e) {key : Text} {value : α} (hnew : P (key, value)) :
    ∀ e ∈ (m.insert key value).entries, P e := by
  change ∀ e ∈ put key value m.entries, P e
  generalize m.entries = entries at h
  induction entries with
  | nil => simpa [put] using hnew
  | cons first rest ih =>
      obtain ⟨k, v⟩ := first
      rw [List.forall_mem_cons] at h
      rw [put]
      split
      · rename_i hk
        rw [hk]
        exact List.forall_mem_cons.mpr ⟨hnew, h.2⟩
      · exact List.forall_mem_cons.mpr ⟨h.1, ih h.2⟩

theorem forall_entries_modify {m : OrderedMap α} {P : Text × α → Prop}
    (h : ∀ e ∈ m.entries, P e) {key : Text} {f : α → α} (hf : ∀ a, P (key, a) → P (key, f a)) :
    ∀ e ∈ (m.modify key f).entries, P e := by
  intro e he
  obtain ⟨⟨k, a⟩, hmem, rfl⟩ := List.mem_map.mp he
  by_cases hk : k = key
  · subst hk
    simpa using hf a (h _ hmem)
  · simpa [hk] using h _ hmem

theorem mem_values {m : OrderedMap α} {value : α} :
    value ∈ m.values ↔ ∃ key, (key, value) ∈ m.entries := by
  simp [values]

theorem mem_values_of_get? {m : OrderedMap α} {key : Text} {value : α}
    (h : m.get? key = some value) : value ∈ m.values :=
  mem_values.mpr ⟨key, get?_eq_some_iff.mp h⟩

theorem mem_keys_of_get? {m : OrderedMap α} {key : Text} {a : α} (h : m.get? key = some a) :
    key ∈ m.keys :=
  contains_iff.mp (by rw [contains, h]; rfl)

/-- Maps with the same keys and look-ups are equal. -/
theorem ext_get? {m n : OrderedMap α} (hkeys : m.keys = n.keys)
    (hget : ∀ key, m.get? key = n.get? key) : m = n := by
  apply OrderedMap.ext
  have hvalue : ∀ (o : OrderedMap α), ∀ e ∈ o.entries, o.get? e.1 = some e.2 :=
    fun o e he => get?_eq_some_iff.mpr he
  apply List.ext_getElem
  · simpa [keys] using congrArg List.length hkeys
  · intro i hm hn
    have hkey : (m.entries[i]).1 = (n.entries[i]).1 := by
      have hsame := List.getElem_of_eq hkeys (i := i) (by simpa [keys] using hm)
      simpa [keys] using hsame
    have hsame := hvalue m _ (List.getElem_mem hm)
    rw [hget, hkey, hvalue n _ (List.getElem_mem hn)] at hsame
    exact Prod.ext hkey (Option.some.inj hsame).symm

/-! ## Order of first appearance -/

theorem eraseDups_concat (keys : List Text) (key : Text) :
    (keys ++ [key]).eraseDups =
      if key ∈ keys then keys.eraseDups else keys.eraseDups ++ [key] := by
  rw [List.eraseDups_append]
  by_cases h : key ∈ keys
  · simp [h, List.removeAll]
  · simp [h, List.removeAll, List.eraseDups_cons]

theorem keys_insert_of_eraseDups {m : OrderedMap α} {keys : List Text}
    (h : m.keys = keys.eraseDups) (key : Text) (value : α) :
    (m.insert key value).keys = (keys ++ [key]).eraseDups := by
  rw [keys_insert, eraseDups_concat, h]
  simp

/-! ## Maps with other values -/

/-- The values changed, under the same keys. -/
def map (f : α → β) (m : OrderedMap α) : OrderedMap β :=
  ⟨m.entries.map fun e => (e.1, f e.2), by
    rw [List.map_map]
    exact m.nodup⟩

/-- The values with the property, under the same keys. -/
def filter (p : α → Bool) (m : OrderedMap α) : OrderedMap α :=
  ⟨m.entries.filter fun e => p e.2, m.nodup.sublist (List.filter_sublist.map Prod.fst)⟩

theorem values_map (f : α → β) (m : OrderedMap α) : (m.map f).values = m.values.map f := by
  simp [values, map, Function.comp_def]

theorem values_filter (p : α → Bool) (m : OrderedMap α) :
    (m.filter p).values = m.values.filter p := by
  simp [values, filter, List.filter_map, Function.comp_def]

theorem keys_map (f : α → β) (m : OrderedMap α) : (m.map f).keys = m.keys := by
  simp [keys, map, Function.comp_def]

theorem get?_map (f : α → β) (m : OrderedMap α) (key : Text) :
    (m.map f).get? key = (m.get? key).map f := by
  unfold get? map
  dsimp only
  generalize m.entries = entries
  induction entries with
  | nil => rfl
  | cons e rest ih =>
      by_cases hkey : e.1 = key
      · simp [lookup, hkey]
      · simp [lookup, hkey, ih]

theorem map_insert (f : α → β) (m : OrderedMap α) (key : Text) (a : α) :
    (m.insert key a).map f = (m.map f).insert key (f a) := by
  apply ext_get?
  · simp only [keys_map, keys_insert]
  · intro other
    simp only [get?_map, get?_insert]
    split <;> rfl

theorem map_modify {f : α → β} {g : α → α} {g' : β → β} (hg : ∀ a, f (g a) = g' (f a))
    (m : OrderedMap α) (key : Text) : (m.modify key g).map f = (m.map f).modify key g' := by
  apply ext_get?
  · simp only [keys_map, keys_modify]
  · intro other
    simp only [get?_map, get?_modify]
    split
    · simp [Function.comp_def, hg]
    · rfl

theorem map_id (m : OrderedMap α) : m.map id = m := by
  simp [map]

/-! ## Catalogues -/

def Lists (R : α → β → Prop) (name : β → Text) (m : OrderedMap α) (items : List β) : Prop :=
  List.Forall₂ (fun entry item => entry.1 = Name.key (name item) ∧ R entry.2 item) m.entries items

namespace Lists

variable {R : α → β → Prop} {name : β → Text} {m : OrderedMap α} {items : List β}

theorem empty : Lists R name (OrderedMap.empty : OrderedMap α) [] := List.Forall₂.nil

theorem keys_eq (h : Lists R name m items) :
    m.keys = items.map fun item => Name.key (name item) := by
  unfold keys
  unfold Lists at h
  generalize m.entries = entries at h
  induction h with
  | nil => rfl
  | cons hhead _ ih => rw [List.map_cons, List.map_cons, hhead.1, ih]

theorem forall₂_values (h : Lists R name m items) : List.Forall₂ R m.values items := by
  rw [values, List.forall₂_map_left_iff]
  exact List.Forall₂.imp (fun _ _ hentry => hentry.2) h

theorem imp {S : α → β → Prop} (h : Lists R name m items)
    (himp : ∀ item ∈ items, ∀ a, R a item → S a item) : Lists S name m items := by
  unfold Lists at h ⊢
  generalize m.entries = entries at h ⊢
  induction h with
  | nil => exact .nil
  | @cons e item entries rest hhead _ ih =>
      have hitem := himp item List.mem_cons_self e.2 hhead.2
      exact .cons ⟨hhead.1, hitem⟩ (ih fun i hi => himp i (List.mem_cons_of_mem _ hi))

theorem insert (h : Lists R name m items) {a : α} (item : β)
    (hnew : Name.key (name item) ∉ m.keys) (hR : R a item) :
    Lists R name (m.insert (Name.key (name item)) a) (items ++ [item]) := by
  unfold Lists
  rw [entries_insert_of_notMem hnew]
  exact List.rel_append h (.cons ⟨rfl, hR⟩ .nil)

private theorem entries_concat {item : β} (h : Lists R name m (items ++ [item])) :
    ∃ entries a, m.entries = entries ++ [(Name.key (name item), a)] ∧ R a item ∧
      List.Forall₂ (fun entry item => entry.1 = Name.key (name item) ∧ R entry.2 item)
        entries items := by
  have hfront := List.forall₂_take_append m.entries items [item] h
  have hback := List.forall₂_drop_append m.entries items [item] h
  obtain ⟨e, rest, ⟨hkey, hR⟩, hrest, heq⟩ := List.forall₂_cons_right_iff.mp hback
  obtain rfl := List.forall₂_nil_right_iff.mp hrest
  obtain ⟨key, a⟩ := e
  subst hkey
  refine ⟨m.entries.take items.length, a, ?_, hR, hfront⟩
  rw [← heq, List.take_append_drop]

theorem modify {item : β} (h : Lists R name m (items ++ [item])) {f : α → α} (item' : β)
    (hname : name item' = name item) (hR : ∀ a, R a item → R (f a) item') :
    Lists R name (m.modify (Name.key (name item)) f) (items ++ [item']) := by
  obtain ⟨entries, a, hentries, ha, hfront⟩ := entries_concat h
  have hnew : Name.key (name item) ∉ entries.map Prod.fst := by
    have hnodup := m.nodup
    rw [hentries, List.map_append, List.nodup_append] at hnodup
    intro hmem
    exact hnodup.2.2 _ hmem _ (by simp) rfl
  unfold Lists
  rw [entries_modify_of_concat hentries hnew]
  exact List.rel_append hfront (.cons ⟨by rw [hname], hR a ha⟩ .nil)

/-- The value of one name is changed to suit another relation, which the others have without. -/
theorem modify_at {S : α → β → Prop} (h : Lists R name m items) {key : Text} {f : α → α}
    (hothers : ∀ item ∈ items, Name.key (name item) ≠ key → ∀ a, R a item → S a item)
    (hat : ∀ item ∈ items, Name.key (name item) = key → ∀ a, R a item → S (f a) item) :
    Lists S name (m.modify key f) items := by
  unfold Lists at h ⊢
  change List.Forall₂ _ (adjust key f m.entries) items
  generalize m.entries = entries at h ⊢
  induction h with
  | nil => exact .nil
  | @cons e item entries rest hhead _ ih =>
      rw [List.forall_mem_cons] at hothers hat
      refine .cons ?_ (ih hothers.2 hat.2)
      obtain ⟨hkey, hR⟩ := hhead
      by_cases hitem : Name.key (name item) = key
      · simpa [hkey, hitem] using hat.1 hitem e.2 hR
      · simpa [hkey, hitem] using hothers.1 hitem e.2 hR

theorem replace_last {item : β} (h : Lists R name m (items ++ [item])) (item' : β)
    (hname : name item' = name item) (hR : ∀ a, R a item → R a item') :
    Lists R name m (items ++ [item']) := by
  obtain ⟨entries, a, hentries, ha, hfront⟩ := entries_concat h
  unfold Lists
  rw [hentries]
  exact List.rel_append hfront (.cons ⟨by rw [hname], hR a ha⟩ .nil)

theorem get?_of_mem (h : Lists R name m items) {item : β} (hitem : item ∈ items) :
    ∃ a, m.get? (Name.key (name item)) = some a ∧ R a item := by
  simp only [get?_eq_some_iff]
  unfold Lists at h
  generalize m.entries = entries at h
  induction h with
  | nil => cases hitem
  | @cons e first entries rest hhead _ ih =>
      rcases List.mem_cons.mp hitem with rfl | hrest
      · refine ⟨e.2, ?_, hhead.2⟩
        rw [← hhead.1]
        exact List.mem_cons_self
      · obtain ⟨a, ha, hR⟩ := ih hrest
        exact ⟨a, List.mem_cons_of_mem _ ha, hR⟩

theorem exists_of_get? (h : Lists R name m items) {key : Text} {a : α}
    (ha : m.get? key = some a) : ∃ item ∈ items, key = Name.key (name item) ∧ R a item := by
  rw [get?_eq_some_iff] at ha
  unfold Lists at h
  generalize m.entries = entries at h ha
  induction h with
  | nil => cases ha
  | @cons e first entries rest hhead _ ih =>
      rcases List.mem_cons.mp ha with rfl | hrest
      · exact ⟨first, List.mem_cons_self, hhead⟩
      · obtain ⟨item, hitem, hkey, hR⟩ := ih hrest
        exact ⟨item, List.mem_cons_of_mem _ hitem, hkey, hR⟩

theorem exists_of_mem_values (h : Lists R name m items) {a : α} (ha : a ∈ m.values) :
    ∃ item ∈ items, R a item := by
  obtain ⟨key, hmem⟩ := mem_values.mp ha
  obtain ⟨item, hitem, -, hR⟩ := h.exists_of_get? (get?_eq_some_iff.mpr hmem)
  exact ⟨item, hitem, hR⟩

theorem unique {m' : OrderedMap α} (h : Lists R name m items) (h' : Lists R name m' items)
    (hR : ∀ a a' item, R a item → R a' item → a = a') : m = m' := by
  apply OrderedMap.ext
  unfold Lists at h h'
  generalize m.entries = entries at h
  generalize m'.entries = entries' at h'
  induction h generalizing entries' with
  | nil => exact (List.forall₂_nil_right_iff.mp h').symm
  | @cons e item entries rest hhead _ ih =>
      obtain ⟨e', rest', hhead', hrest', rfl⟩ := List.forall₂_cons_right_iff.mp h'
      rw [ih rest' hrest']
      congr 1
      exact Prod.ext (hhead.1.trans hhead'.1.symm) (hR _ _ _ hhead.2 hhead'.2)

end Lists

/-! ## Maps under the names of their values -/

def Keyed (name : α → Text) (m : OrderedMap α) : Prop :=
  ∀ e ∈ m.entries, e.1 = Name.key (name e.2)

theorem Lists.keyed {R : α → β → Prop} {name : β → Text} {m : OrderedMap α} {items : List β}
    (h : Lists R name m items) {name' : α → Text} (hR : ∀ a item, R a item → name' a = name item) :
    m.Keyed name' := by
  intro e he
  obtain ⟨item, -, hkey, hitem⟩ := h.exists_of_get? (get?_eq_some_iff.mpr he)
  rw [hkey, hR e.2 item hitem]

namespace Keyed

variable {name : α → Text} {m : OrderedMap α}

theorem empty : (OrderedMap.empty : OrderedMap α).Keyed name := by
  intro e he
  cases he

theorem insert (h : m.Keyed name) {key : Text} {a : α} (hkey : key = Name.key (name a)) :
    (m.insert key a).Keyed name :=
  forall_entries_insert h hkey

theorem modify (h : m.Keyed name) (key : Text) {f : α → α} (hf : ∀ a, name (f a) = name a) :
    (m.modify key f).Keyed name := by
  apply forall_entries_modify h
  intro a ha
  rw [hf, ha]

theorem map (h : m.Keyed name) {f : α → β} {name' : β → Text} (hf : ∀ a, name' (f a) = name a) :
    (m.map f).Keyed name' := by
  intro e he
  obtain ⟨old, hold, rfl⟩ := List.mem_map.mp he
  rw [hf]
  exact h old hold

theorem filter (h : m.Keyed name) (p : α → Bool) : (m.filter p).Keyed name :=
  fun e he => h e (List.mem_filter.mp he).1

theorem keys_eq (h : m.Keyed name) : m.keys = m.values.map fun a => Name.key (name a) := by
  rw [keys, values, List.map_map]
  exact List.map_congr_left h

theorem nodup (h : m.Keyed name) : (m.values.map fun a => Name.key (name a)).Nodup :=
  h.keys_eq ▸ m.nodup

theorem notMem_before (h : m.Keyed name) {before after : List α} {a : α}
    (hvalues : m.values = before ++ a :: after) :
    Name.key (name a) ∉ before.map fun b => Name.key (name b) := by
  have hnodup := h.nodup
  rw [hvalues, List.map_append, List.map_cons, List.nodup_append] at hnodup
  intro hmem
  exact hnodup.2.2 _ hmem _ List.mem_cons_self rfl

theorem ne_of_mem_before (h : m.Keyed name) {before after : List α} {a b : α}
    (hvalues : m.values = before ++ a :: after) (hb : b ∈ before) :
    Name.key (name b) ≠ Name.key (name a) := by
  intro hkey
  exact h.notMem_before hvalues (List.mem_map.mpr ⟨b, hb, hkey⟩)

theorem get?_eq_some_iff (h : m.Keyed name) {key : Text} {a : α} :
    m.get? key = some a ↔ a ∈ m.values ∧ Name.key (name a) = key := by
  rw [OrderedMap.get?_eq_some_iff, mem_values]
  constructor
  · intro hmem
    exact ⟨⟨key, hmem⟩, (h _ hmem).symm⟩
  · rintro ⟨⟨other, hmem⟩, rfl⟩
    have hkey : other = Name.key (name a) := h _ hmem
    rwa [hkey] at hmem

theorem get?_name (h : m.Keyed name) {a : α} (ha : a ∈ m.values) :
    m.get? (Name.key (name a)) = some a :=
  h.get?_eq_some_iff.mpr ⟨ha, rfl⟩

theorem eq_of_key_eq (h : m.Keyed name) {a b : α} (ha : a ∈ m.values) (hb : b ∈ m.values)
    (hkey : Name.key (name a) = Name.key (name b)) : a = b := by
  have hfound := h.get?_name ha
  rw [hkey, h.get?_name hb, Option.some.injEq] at hfound
  exact hfound.symm

theorem get?_eq_none_iff (h : m.Keyed name) {key : Text} :
    m.get? key = none ↔ ∀ a ∈ m.values, Name.key (name a) ≠ key := by
  rw [OrderedMap.get?_eq_none_iff, h.keys_eq]
  simp

end Keyed

end IniSchema.OrderedMap
