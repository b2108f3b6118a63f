import IniSchema.Json
import IniSchema.Name
import IniSchema.OrderedMap

/-!
# Settings

The typed values of one environment, by section and variable, in the order of their declaration.
-/

namespace IniSchema

/-- A value under the name that its variable is shown with. -/
structure Setting where
  name : Text
  value : Value
  deriving DecidableEq

structure SectionSettings where
  name : Text
  settings : OrderedMap Setting
  deriving DecidableEq

structure Settings where
  environment : Text
  sections : OrderedMap SectionSettings
  deriving DecidableEq

def Setting.sameAs (s t : Setting) : Bool := s.name == t.name && s.value.sameAs t.value

namespace SectionSettings

/-- The section before any variable has its value. -/
def blank (name : Text) : SectionSettings := ⟨name, .empty⟩

/-- Gives a variable its value. It is looked up by its identifier from then on. -/
def set (s : SectionSettings) (ident : Text) (setting : Setting) : SectionSettings :=
  { s with settings := s.settings.insert (Name.key ident) setting }

def setting? (s : SectionSettings) (variableName : Text) : Option Setting :=
  s.settings.get? (Name.key variableName)

def value? (s : SectionSettings) (variableName : Text) : Option Value :=
  (s.setting? variableName).map Setting.value

def nameOf? (s : SectionSettings) (variableName : Text) : Option Text :=
  (s.setting? variableName).map Setting.name

def contains (s : SectionSettings) (variableName : Text) : Bool :=
  (s.setting? variableName).isSome

/-- The complaint about a name that the section has no value for. -/
def missingVariable (s : SectionSettings) (variableName : Text) : Text :=
  "no variable '" ++ variableName ++ "' in section [" ++ s.name ++ "]"

/-- The value under a name that must be there. -/
def index (s : SectionSettings) (variableName : Text) : Except Text Value :=
  match s.value? variableName with
  | some value => .ok value
  | none => .error (s.missingVariable variableName)

def sameAs (s t : SectionSettings) : Bool :=
  s.name == t.name && s.settings.sameAs Setting.sameAs t.settings

def toJson (s : SectionSettings) : Json :=
  .object (s.settings.values.map fun setting => (setting.name, setting.value.toJson))

end SectionSettings

namespace Settings

def blank (environment : Text) : Settings := ⟨environment, .empty⟩

def push (s : Settings) (sec : SectionSettings) : Settings :=
  { s with sections := s.sections.insert (Name.key sec.name) sec }

def section? (s : Settings) (name : Text) : Option SectionSettings :=
  s.sections.get? (Name.key name)

def contains (s : Settings) (name : Text) : Bool := (s.section? name).isSome

def value? (s : Settings) (sectionName variableName : Text) : Option Value :=
  (s.section? sectionName).bind (·.value? variableName)

/-- The complaint about a name that no section has. -/
def missingSection (name : Text) : Text := "no section [" ++ name ++ "] in configuration"

/-- The section under a name that must be there. -/
def index (s : Settings) (name : Text) : Except Text SectionSettings :=
  match s.section? name with
  | some sec => .ok sec
  | none => .error (missingSection name)

def sameAs (s t : Settings) : Bool :=
  s.environment == t.environment && s.sections.sameAs SectionSettings.sameAs t.sections

def toJson (s : Settings) : Json :=
  .object (s.sections.values.map fun sec => (sec.name, sec.toJson))

end Settings

end IniSchema
