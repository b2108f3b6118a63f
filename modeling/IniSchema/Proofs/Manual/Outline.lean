import IniSchema.Manual.Draft
import IniSchema.Proofs.Blocks
import IniSchema.Proofs.OrderedMap
import IniSchema.Proofs.Text

/-!
# What a manual declares, read off its lines

The lines of a manual fall into blocks: environments, in each environment sections, in each
section variables with the continuations of their descriptions.  `DeclaredBy` says of a part of a
schema that it is what a block declares, and `Draft.Follows` that a draft is what the lines so far
declare, with the cursors on the last blocks.
-/

namespace IniSchema.Manual

/-! ## Kinds of lines -/

/-- What a line says about a variable. -/
structure Declaration where
  ident : Text
  spec : Option Text
  description : Text

namespace Line

def applicationName? : Line → Option Text
  | .appName name => some name
  | _ => none

def environmentName? : Line → Option Text
  | .environment name => some name
  | _ => none

def sectionName? : Line → Option Text
  | .sectionHeader name => some name
  | _ => none

def declared? : Line → Option Declaration
  | .declaration ident spec description => some ⟨ident, spec, description⟩
  | _ => none

def continuation? : Line → Option Text
  | .continuation text => some text
  | _ => none

variable {line : Line}

theorem applicationName?_eq_some {name : Text} :
    line.applicationName? = some name ↔ line = .appName name := by
  cases line <;> simp [applicationName?]

theorem environmentName?_eq_some {name : Text} :
    line.environmentName? = some name ↔ line = .environment name := by
  cases line <;> simp [environmentName?]

theorem sectionName?_eq_some {name : Text} :
    line.sectionName? = some name ↔ line = .sectionHeader name := by
  cases line <;> simp [sectionName?]

theorem declared?_eq_some {v : Declaration} :
    line.declared? = some v ↔ line = .declaration v.ident v.spec v.description := by
  cases v
  cases line <;> simp [declared?]

theorem continuation?_eq_some {text : Text} :
    line.continuation? = some text ↔ line = .continuation text := by
  cases line <;> simp [continuation?]

end Line

/-! ## Blocks -/

abbrev environmentBlocks (lines : List Line) : List (Text × List Line) :=
  blocks Line.environmentName? lines

abbrev sectionBlocks (lines : List Line) : List (Text × List Line) :=
  blocks Line.sectionName? lines

abbrev variableBlocks (lines : List Line) : List (Declaration × List Line) :=
  blocks Line.declared? lines

def openEnvironment? (lines : List Line) : Option (Text × List Line) :=
  (environmentBlocks lines).getLast?

def openSection? (lines : List Line) : Option (Text × List Line) :=
  innerBlock? Line.environmentName? Line.sectionName? lines

def openVariable? (lines : List Line) : Option (Declaration × List Line) :=
  (openSection? lines).bind fun block => (variableBlocks block.2).getLast?

/-! ## Declarations -/

def description (first : Text) (lines : List Line) : Text :=
  Text.joinNonempty " " (first :: lines.filterMap Line.continuation?)

/-- The variable of a declaration and the continuations after it. -/
def VariableDeclaredBy (v : Variable) (block : Declaration × List Line) : Prop :=
  v.name = Name.canonical block.1.ident ∧ v.ident = block.1.ident ∧
    Draft.readSpec block.1.spec = .ok (v.type, v.default) ∧
    v.description = description block.1.description block.2

def SectionDeclaredBy (s : Section) (block : Text × List Line) : Prop :=
  s.name = block.1 ∧
    s.declared.Lists VariableDeclaredBy (fun b => b.1.ident) (variableBlocks block.2)

def EnvironmentDeclaredBy (e : Environment) (block : Text × List Line) : Prop :=
  e.name = block.1 ∧ e.sections.Lists SectionDeclaredBy Prod.fst (sectionBlocks block.2)

/-- The draft is what the lines declare, and what they end in is open. -/
structure Follows (d : Draft) (lines : List Line) : Prop where
  appName : d.appName = (lines.filterMap Line.applicationName?).head?
  environments :
    d.environments.Lists EnvironmentDeclaredBy Prod.fst (environmentBlocks lines)
  openEnvironment : d.openEnvironment = (openEnvironment? lines).map (Name.key ·.1)
  openSection : d.openSection = (openSection? lines).map (Name.key ·.1)
  openVariable : d.openVariable = (openVariable? lines).map (Name.key ·.1.ident)

theorem follows_blank : Follows Draft.blank [] where
  appName := rfl
  environments := OrderedMap.Lists.empty
  openEnvironment := rfl
  openSection := rfl
  openVariable := rfl

/-! ## Parts of a block after one more line -/

theorem description_concat (first : Text) (lines : List Line) (text : Text) :
    description first (lines ++ [.continuation text]) =
      if description first lines = [] then text
      else if text = [] then description first lines
      else description first lines ++ " ".toList ++ text := by
  unfold description
  rw [List.filterMap_append]
  exact Text.joinNonempty_concat " " (first :: lines.filterMap Line.continuation?) text

theorem VariableDeclaredBy.concat {v : Variable} {block : Declaration × List Line} {line : Line}
    (h : VariableDeclaredBy v block) (hline : line.continuation? = none) :
    VariableDeclaredBy v (block.1, block.2 ++ [line]) := by
  obtain ⟨hname, hident, hspec, hdescription⟩ := h
  refine ⟨hname, hident, hspec, ?_⟩
  rw [hdescription, description, description, List.filterMap_append]
  simp [hline]

theorem VariableDeclaredBy.extend {v : Variable} {block : Declaration × List Line}
    (h : VariableDeclaredBy v block) (text : Text) :
    VariableDeclaredBy (Draft.extendDescription text v)
      (block.1, block.2 ++ [.continuation text]) := by
  obtain ⟨hname, hident, hspec, hdescription⟩ := h
  refine ⟨hname, hident, hspec, ?_⟩
  rw [description_concat, ← hdescription]
  unfold Draft.extendDescription
  by_cases hempty : v.description = []
  · simp [hempty]
  · by_cases htext : text = []
    · simp [hempty, htext]
    · simp [hempty, htext]

theorem SectionDeclaredBy.concat {s : Section} {block : Text × List Line} {line : Line}
    (h : SectionDeclaredBy s block) (hline : line.declared? = none)
    (hsame : line.continuation? = none ∨ (variableBlocks block.2).getLast? = none) :
    SectionDeclaredBy s (block.1, block.2 ++ [line]) := by
  refine ⟨h.1, lists_same Declaration.ident h.2 hline ?_⟩
  intro last hlast v hv
  rcases hsame with hcontinuation | hnone
  · exact hv.concat hcontinuation
  · rw [hnone] at hlast
    cases hlast

/-! ## What is open after one more line -/

section Open

variable {lines : List Line} {line : Line}

theorem openEnvironment?_environment (lines : List Line) (name : Text) :
    openEnvironment? (lines ++ [.environment name]) = some (name, []) :=
  getLast?_blocks_concat_head lines rfl

theorem openEnvironment?_concat (lines : List Line) (henv : line.environmentName? = none) :
    openEnvironment? (lines ++ [line]) =
      (openEnvironment? lines).map fun block => (block.1, block.2 ++ [line]) :=
  getLast?_blocks_concat_body lines henv

theorem openSection?_environment (lines : List Line) (name : Text) :
    openSection? (lines ++ [.environment name]) = none :=
  innerBlock?_concat_outer lines rfl

theorem openSection?_header (lines : List Line) (name : Text) :
    openSection? (lines ++ [.sectionHeader name]) =
      (openEnvironment? lines).map fun _ => (name, []) :=
  innerBlock?_concat_inner lines rfl rfl

theorem openSection?_concat (lines : List Line) (henv : line.environmentName? = none)
    (hsec : line.sectionName? = none) :
    openSection? (lines ++ [line]) =
      (openSection? lines).map fun block => (block.1, block.2 ++ [line]) :=
  innerBlock?_concat_body lines henv hsec

theorem openVariable?_of_openSection?_nil (name : Text)
    (h : openSection? lines = some (name, []) ∨ openSection? lines = none) :
    openVariable? lines = none := by
  unfold openVariable?
  rcases h with h | h <;> rw [h] <;> rfl

theorem openVariable?_declaration (lines : List Line) (ident : Text) (spec : Option Text)
    (text : Text) :
    openVariable? (lines ++ [.declaration ident spec text]) =
      (openSection? lines).map fun _ => (⟨ident, spec, text⟩, []) := by
  unfold openVariable?
  rw [openSection?_concat lines rfl rfl]
  cases openSection? lines with
  | none => rfl
  | some block => exact getLast?_blocks_concat_head block.2 rfl

theorem openVariable?_concat (lines : List Line) (henv : line.environmentName? = none)
    (hsec : line.sectionName? = none) (hvar : line.declared? = none) :
    openVariable? (lines ++ [line]) =
      (openVariable? lines).map fun block => (block.1, block.2 ++ [line]) := by
  unfold openVariable?
  rw [openSection?_concat lines henv hsec]
  cases openSection? lines with
  | none => rfl
  | some block => exact getLast?_blocks_concat_body block.2 hvar

end Open

/-! ## Changes of a draft -/

namespace Follows

variable {d : Draft} {lines : List Line} {line : Line}

theorem environmentKey_eq (h : Follows d lines) {block : Text × List Line}
    (hopen : openEnvironment? lines = some block) : d.environmentKey = Name.key block.1 := by
  simp [Draft.environmentKey, h.openEnvironment, hopen]

theorem sectionKey_eq (h : Follows d lines) {block : Text × List Line}
    (hopen : openSection? lines = some block) : d.sectionKey = Name.key block.1 := by
  simp [Draft.sectionKey, h.openSection, hopen]

theorem modifySections (h : Follows d lines) {block : Text × List Line}
    (hopen : openEnvironment? lines = some block) (henv : line.environmentName? = none)
    {f : OrderedMap Section → OrderedMap Section}
    (hf : ∀ sections : OrderedMap Section,
      sections.Lists SectionDeclaredBy Prod.fst (sectionBlocks block.2) →
      (f sections).Lists SectionDeclaredBy Prod.fst (sectionBlocks (block.2 ++ [line]))) :
    (d.modifySections f).environments.Lists EnvironmentDeclaredBy Prod.fst
      (environmentBlocks (lines ++ [line])) := by
  change (d.environments.modify d.environmentKey _).Lists _ _ _
  rw [h.environmentKey_eq hopen]
  apply lists_modify id h.environments henv hopen
  intro e he
  exact ⟨he.1, hf e.sections he.2⟩

theorem modifyVariables (h : Follows d lines) {block : Text × List Line}
    (hopen : openSection? lines = some block) (henv : line.environmentName? = none)
    (hsec : line.sectionName? = none) {f : OrderedMap Variable → OrderedMap Variable}
    (hf : ∀ declared : OrderedMap Variable,
      declared.Lists VariableDeclaredBy (fun b => b.1.ident) (variableBlocks block.2) →
      (f declared).Lists VariableDeclaredBy (fun b => b.1.ident)
        (variableBlocks (block.2 ++ [line]))) :
    (d.modifyVariables f).environments.Lists EnvironmentDeclaredBy Prod.fst
      (environmentBlocks (lines ++ [line])) := by
  obtain ⟨outer, houter, hlast⟩ := Option.bind_eq_some_iff.mp hopen
  apply h.modifySections houter henv
  intro sections hsections
  rw [h.sectionKey_eq hopen]
  apply lists_modify id hsections hsec hlast
  intro s hs
  exact ⟨hs.1, hf s.declared hs.2⟩

/-- A line that no part of the draft depends on. -/
theorem same (h : Follows d lines) (henv : line.environmentName? = none)
    (hsec : line.sectionName? = none) (hvar : line.declared? = none)
    (hsame : line.continuation? = none ∨ openVariable? lines = none) :
    d.environments.Lists EnvironmentDeclaredBy Prod.fst (environmentBlocks (lines ++ [line])) := by
  apply lists_same id h.environments henv
  intro outer houter e he
  refine ⟨he.1, lists_same id he.2 hsec ?_⟩
  intro block hblock s hs
  have hopen : openSection? lines = some block := by
    exact Option.bind_eq_some_iff.mpr ⟨outer, houter, hblock⟩
  apply hs.concat hvar
  rcases hsame with hcontinuation | hnone
  · exact .inl hcontinuation
  · right
    simpa [openVariable?, hopen] using hnone

end Follows

end IniSchema.Manual
