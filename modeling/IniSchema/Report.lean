import IniSchema.Validation

/-!
# Reports

What a task answers, and how it is shown to a reader.
-/

namespace IniSchema

inductive Report where
  | found (path : Text)
  /-- There is no path when the source was given as a text. -/
  | valid (path : Option Text) (environment : Text)
  | template (text : Text)
  | templateWritten (path : Text)
  | keyValue (key value : Text) (doc : List Text)
  | listing (entries : List (Text × Text))
  | json (text : Text)
  deriving DecidableEq, Repr

namespace Report

def assignment (key value : Text) : Text := key ++ " = " ++ value

def display : Report → Text
  | found path => path
  | valid (some path) environment => path ++ " is valid for environment '" ++ environment ++ "'"
  | valid none environment => "Config is valid for environment '" ++ environment ++ "'"
  | template text => text
  | templateWritten path => "Config template written to " ++ path
  | keyValue key value doc =>
      Text.unlines (doc.map fun line => '#' :: ' ' :: line) ++ assignment key value
  | listing entries => Text.join "\n" (entries.map fun e => assignment e.1 e.2)
  | json text => text

end Report

/-! ## Looking at settings -/

def SectionSettings.qualified (s : SectionSettings) (name : Text) : Text := s.name ++ '.' :: name

namespace Settings

def listing (s : Settings) : List (Text × Text) :=
  s.sections.values.flatMap fun sec =>
    sec.settings.values.map fun setting => (sec.qualified setting.name, setting.value.display)

end Settings

/-- The description of a variable, as the lines of a comment. -/
def Schema.documentation (s : Schema) (environmentName sectionName variableName : Text) :
    List Text :=
  match ((s.environment? environmentName).bind (·.section? sectionName)).bind
      (·.get? variableName) with
  | some v => if v.description.isEmpty then [] else [v.description]
  | none => []

/-- The setting that a key `section.variable` names. The section ends at the first point. -/
def Schema.lookUp (s : Schema) (settings : Settings) (key : Text) : Except Fault Report :=
  match key.cut? (· == '.') with
  | none => .error (.keyNotFound key)
  | some (sectionName, variableName) =>
      match settings.section? sectionName with
      | none => .error (.keyNotFound key)
      | some sec =>
          match sec.setting? variableName with
          | none => .error (.keyNotFound key)
          | some setting =>
              .ok (.keyValue (sec.qualified setting.name) setting.value.display
                (s.documentation settings.environment sectionName variableName))

end IniSchema
