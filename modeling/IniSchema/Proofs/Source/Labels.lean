import IniSchema.Proofs.OrderedMap
import IniSchema.Source

/-!
# Other names and other lines

How names and keys are spelled and which lines they stand on is carried along and never looked at.
So building up a source and then spelling its names another way, or numbering its lines another way,
is the same as building it up from what is spelled and numbered that way.
-/

namespace IniSchema

variable {spell : Text → Text} {number : Nat → Nat}

def Entry.relabel (spell : Text → Text) (number : Nat → Nat) (e : Entry) : Entry :=
  { e with key := spell e.key, line := number e.line }

def SourceSection.relabel (spell : Text → Text) (number : Nat → Nat) (s : SourceSection) :
    SourceSection :=
  ⟨spell s.name, number s.line, s.entries.map (Entry.relabel spell number)⟩

namespace Source

/-- The source with other names for its sections and entries, on other lines. -/
def relabel (spell : Text → Text) (number : Nat → Nat) (s : Source) : Source :=
  { s with sections := s.sections.map (SourceSection.relabel spell number) }

/-- A spelling is still a name of the same thing. -/
structure Respelling (spell : Text → Text) : Prop where
  key : ∀ name, Name.key (spell name) = Name.key name
  trim : ∀ name : Text, (spell name).trim = spell name.trim

theorem respelling_id : Respelling id := ⟨fun _ => rfl, fun _ => rfl⟩

namespace Respelling

theorem relabel_ensureSection (h : Respelling spell) (number : Nat → Nat) (s : Source)
    (name : Text) (line : Nat) : (s.ensureSection name line).relabel spell number =
      (s.relabel spell number).ensureSection (spell name) (number line) := by
  have hcontains : (s.relabel spell number).sections.contains (Name.key name) =
      s.sections.contains (Name.key name) := by
    simp [relabel, OrderedMap.contains, OrderedMap.get?_map]
  unfold ensureSection
  rw [h.key, hcontains, h.trim]
  split
  · rfl
  · simp only [relabel, OrderedMap.map_insert]
    rfl

theorem relabel_put (h : Respelling spell) (number : Nat → Nat) (s : Source) (name : Text)
    (sectionLine : Nat) (key value : Text) (line : Nat) :
    (s.put name sectionLine key value line).relabel spell number =
      (s.relabel spell number).put (spell name) (number sectionLine) (spell key) value
        (number line) := by
  unfold put
  rw [← h.relabel_ensureSection, h.key, h.key, h.trim]
  simp only [relabel]
  congr 1
  apply OrderedMap.map_modify
  intro found
  simp only [SourceSection.relabel, OrderedMap.map_insert]
  rfl

end Respelling

theorem relabel_appendLine (spell : Text → Text) (number : Nat → Nat) (s : Source)
    (sectionKey entryKey text : Text) :
    (s.appendLine sectionKey entryKey text).relabel spell number =
      (s.relabel spell number).appendLine sectionKey entryKey text := by
  simp only [relabel, appendLine]
  congr 1
  apply OrderedMap.map_modify
  intro found
  simp only [SourceSection.relabel]
  congr 1
  apply OrderedMap.map_modify
  intro entry
  rfl

theorem relabel_id (s : Source) : s.relabel id id = s := by
  have hsection : SourceSection.relabel id id = id := by
    funext found
    exact congrArg (SourceSection.mk found.name found.line) found.entries.map_id
  rw [relabel, hsection, OrderedMap.map_id]

end Source

end IniSchema
