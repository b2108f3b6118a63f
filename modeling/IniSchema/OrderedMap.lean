import IniSchema.Text

/-!
# Maps that keep the order of insertion

Names map to values, each name once. A new name goes to the end, a present one keeps its place.
-/

namespace IniSchema

structure OrderedMap (α : Type) where
  entries : List (Text × α)
  nodup : (entries.map Prod.fst).Nodup
  deriving DecidableEq

namespace OrderedMap

variable {α : Type}

/-! ## Lists of entries -/

/-- The value of the first entry with the key. -/
def lookup (key : Text) : List (Text × α) → Option α
  | [] => none
  | (k, v) :: rest => if k = key then some v else lookup key rest

/-- The entries with the value of `key` replaced, or added at the end. -/
def put (key : Text) (value : α) : List (Text × α) → List (Text × α)
  | [] => [(key, value)]
  | (k, v) :: rest => if k = key then (k, value) :: rest else (k, v) :: put key value rest

def adjust (key : Text) (f : α → α) (entries : List (Text × α)) : List (Text × α) :=
  entries.map fun e => if e.1 = key then (e.1, f e.2) else e

theorem map_fst_adjust (key : Text) (f : α → α) (entries : List (Text × α)) :
    (adjust key f entries).map Prod.fst = entries.map Prod.fst := by
  simp only [adjust, List.map_map]
  apply List.map_congr_left
  intro e _
  by_cases h : e.1 = key <;> simp [h]

theorem map_fst_put (key : Text) (value : α) (entries : List (Text × α)) :
    (put key value entries).map Prod.fst =
      if key ∈ entries.map Prod.fst then entries.map Prod.fst
      else entries.map Prod.fst ++ [key] := by
  induction entries with
  | nil => simp [put]
  | cons e rest ih =>
      obtain ⟨k, v⟩ := e
      by_cases h : k = key
      · simp [put, h]
      · have hk : ¬ key = k := fun e => h e.symm
        simp only [put, h, if_false, List.map_cons, ih, List.mem_cons, hk, false_or]
        split <;> simp

theorem nodup_put {key : Text} {value : α} {entries : List (Text × α)}
    (h : (entries.map Prod.fst).Nodup) : ((put key value entries).map Prod.fst).Nodup := by
  rw [map_fst_put]
  split
  · exact h
  · rename_i hkey
    rw [List.nodup_append]
    refine ⟨h, by simp, ?_⟩
    intro a ha b hb hab
    rw [List.mem_singleton] at hb
    subst hb hab
    exact hkey ha

/-! ## The map -/

def empty : OrderedMap α := ⟨[], by simp⟩

def get? (m : OrderedMap α) (key : Text) : Option α := lookup key m.entries

def contains (m : OrderedMap α) (key : Text) : Bool := (m.get? key).isSome

def insert (m : OrderedMap α) (key : Text) (value : α) : OrderedMap α :=
  ⟨put key value m.entries, nodup_put m.nodup⟩

/-- Changes the value of a key in its place. A key that is not there changes nothing. -/
def modify (m : OrderedMap α) (key : Text) (f : α → α) : OrderedMap α :=
  ⟨adjust key f m.entries, by rw [map_fst_adjust]; exact m.nodup⟩

def keys (m : OrderedMap α) : List Text := m.entries.map Prod.fst

def values (m : OrderedMap α) : List α := m.entries.map Prod.snd

def isEmpty (m : OrderedMap α) : Bool := m.entries.isEmpty

def size (m : OrderedMap α) : Nat := m.entries.length

/-- The same keys with the same values, in any order. -/
def sameAs (same : α → α → Bool) (m n : OrderedMap α) : Bool :=
  m.size == n.size && m.entries.all fun e => (n.get? e.1).any (same e.2)

instance : Inhabited (OrderedMap α) := ⟨empty⟩

/-! ## What each operation does to lookups -/

@[ext] theorem ext {m n : OrderedMap α} (h : m.entries = n.entries) : m = n := by
  cases m
  cases n
  subst h
  rfl

theorem lookup_put (key other : Text) (value : α) (entries : List (Text × α)) :
    lookup other (put key value entries) =
      if other = key then some value else lookup other entries := by
  induction entries with
  | nil =>
      by_cases h : other = key
      · simp [put, lookup, h]
      · have hk : ¬ key = other := fun e => h e.symm
        simp [put, lookup, h, hk]
  | cons e rest ih =>
      obtain ⟨k, v⟩ := e
      by_cases hk : k = key
      · subst hk
        by_cases ho : k = other
        · simp [put, lookup, ho]
        · have ho' : ¬ other = k := fun e => ho e.symm
          simp [put, lookup, ho, ho']
      · by_cases ho : k = other
        · subst ho
          simp [put, lookup, hk]
        · simp [put, lookup, hk, ho, ih]

theorem lookup_adjust (key other : Text) (f : α → α) (entries : List (Text × α)) :
    lookup other (adjust key f entries) =
      if other = key then (lookup other entries).map f else lookup other entries := by
  induction entries with
  | nil => simp [adjust, lookup]
  | cons e rest ih =>
      obtain ⟨k, v⟩ := e
      change lookup other ((if k = key then (k, f v) else (k, v)) :: adjust key f rest) = _
      by_cases hk : k = key
      · by_cases ho : k = other
        · have hok : other = key := ho ▸ hk
          simp [lookup, hk, hok]
        · rw [if_pos hk]
          simp only [lookup, ho, if_false]
          exact ih
      · rw [if_neg hk]
        by_cases ho : k = other
        · have hok : ¬ other = key := ho ▸ hk
          simp [lookup, ho, hok]
        · simp only [lookup, ho, if_false]
          exact ih

@[simp] theorem get?_empty (key : Text) : (empty : OrderedMap α).get? key = none := rfl

theorem get?_insert (m : OrderedMap α) (key other : Text) (value : α) :
    (m.insert key value).get? other = if other = key then some value else m.get? other :=
  lookup_put key other value m.entries

theorem get?_modify (m : OrderedMap α) (key other : Text) (f : α → α) :
    (m.modify key f).get? other = if other = key then (m.get? other).map f else m.get? other :=
  lookup_adjust key other f m.entries

@[simp] theorem keys_modify (m : OrderedMap α) (key : Text) (f : α → α) :
    (m.modify key f).keys = m.keys :=
  map_fst_adjust key f m.entries

theorem keys_insert (m : OrderedMap α) (key : Text) (value : α) :
    (m.insert key value).keys = if key ∈ m.keys then m.keys else m.keys ++ [key] :=
  map_fst_put key value m.entries

end OrderedMap

end IniSchema
