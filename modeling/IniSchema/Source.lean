import IniSchema.Fault
import IniSchema.Name
import IniSchema.OrderedMap

/-!
# Sources

The uninterpreted contents of a configuration: sections of entries, in the order of their first
appearance, with the line that each stands on. Sources are built up by insertion or read from a text
in INI format, see `Source.ofText`. Line 0 is that of insertions.
-/

namespace IniSchema

structure Entry where
  key : Text
  value : Text
  line : Nat
  deriving DecidableEq, Repr

structure SourceSection where
  name : Text
  line : Nat
  entries : OrderedMap Entry
  deriving DecidableEq

structure Source where
  path : Option Text
  sections : OrderedMap SourceSection
  deriving DecidableEq

def SourceSection.get? (s : SourceSection) (key : Text) : Option Entry :=
  s.entries.get? (Name.key key)

def SourceSection.sameAs (s t : SourceSection) : Bool :=
  s.name == t.name && s.line == t.line && s.entries.sameAs (· == ·) t.entries

namespace Source

def blank (path : Option Text) : Source := ⟨path, .empty⟩

def section? (s : Source) (name : Text) : Option SourceSection := s.sections.get? (Name.key name)

/-- The entry of a section. -/
def get? (s : Source) (sectionName key : Text) : Option Entry :=
  (s.section? sectionName).bind (·.get? key)

def isEmpty (s : Source) : Bool := s.sections.isEmpty

/-- The source with the section in it. A section that is there keeps its name and its line. -/
def ensureSection (s : Source) (name : Text) (line : Nat) : Source :=
  if s.sections.contains (Name.key name) then s
  else { s with sections := s.sections.insert (Name.key name) ⟨name.trim, line, .empty⟩ }

/-- Sets an entry of a section, which is added if it is not there. -/
def put (s : Source) (sectionName : Text) (sectionLine : Nat) (key value : Text) (line : Nat) :
    Source :=
  let s := s.ensureSection sectionName sectionLine
  { s with
    sections := s.sections.modify (Name.key sectionName) fun sec =>
      { sec with entries := sec.entries.insert (Name.key key) ⟨key.trim, value, line⟩ } }

def insert (s : Source) (sectionName key value : Text) : Source :=
  s.put sectionName 0 key value 0

def addSection (s : Source) (name : Text) : Source := s.ensureSection name 0

/-- Adds a line to the value of an entry. -/
def appendLine (s : Source) (sectionKey entryKey text : Text) : Source :=
  { s with
    sections := s.sections.modify sectionKey fun sec =>
      { sec with
        entries := sec.entries.modify entryKey fun e =>
          { e with value := if e.value.isEmpty then text else e.value ++ '\n' :: text } } }

def sameAs (s t : Source) : Bool :=
  s.path == t.path && s.sections.sameAs SourceSection.sameAs t.sections

/-! ## What insertion does to lookups -/

theorem section?_ensureSection (s : Source) (name other : Text) (line : Nat) :
    (s.ensureSection name line).section? other =
      if Name.key other = Name.key name then
        some ((s.section? name).getD ⟨name.trim, line, .empty⟩)
      else s.section? other := by
  unfold ensureSection section?
  by_cases h : s.sections.contains (Name.key name) = true
  · obtain ⟨sec, hsec⟩ := Option.isSome_iff_exists.1 h
    split <;> simp_all
  · have hnone : s.sections.get? (Name.key name) = none := by
      simpa [OrderedMap.contains] using h
    rw [if_neg h, OrderedMap.get?_insert, hnone, Option.getD_none]

theorem get?_put (s : Source) (sectionName : Text) (sectionLine : Nat) (key value : Text)
    (line : Nat) (otherSection otherKey : Text) :
    (s.put sectionName sectionLine key value line).get? otherSection otherKey =
      if Name.key otherSection = Name.key sectionName ∧ Name.key otherKey = Name.key key then
        some ⟨key.trim, value, line⟩
      else s.get? otherSection otherKey := by
  have hsec := section?_ensureSection s sectionName otherSection sectionLine
  unfold section? at hsec
  unfold get? put section?
  simp only [OrderedMap.get?_modify, hsec]
  by_cases h : Name.key otherSection = Name.key sectionName
  · simp only [h, if_true, true_and, Option.map_some, Option.bind_some, SourceSection.get?,
      OrderedMap.get?_insert]
    split
    · rfl
    · cases s.sections.get? (Name.key sectionName) <;> rfl
  · simp [h]

theorem get?_insert (s : Source) (sectionName key value otherSection otherKey : Text) :
    (s.insert sectionName key value).get? otherSection otherKey =
      if Name.key otherSection = Name.key sectionName ∧ Name.key otherKey = Name.key key then
        some ⟨key.trim, value, 0⟩
      else s.get? otherSection otherKey :=
  get?_put ..

end Source

end IniSchema
