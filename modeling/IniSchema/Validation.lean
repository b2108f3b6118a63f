import IniSchema.Reading
import IniSchema.Schema
import IniSchema.Settings
import IniSchema.Source

/-!
# Validation

A source is validated against one environment of a schema. Each declared variable takes the value of
its entry, else its default, else validation fails; what comes first in the order of declaration is
blamed. Strict validation refuses sources with anything that is not declared.
-/

namespace IniSchema

/-- The value of a variable, given its entry. -/
def Variable.setting (v : Variable) (sectionName : Text) (entry : Option Entry) :
    Except Fault Setting :=
  match entry, v.default with
  | some e, _ =>
      match v.type.read e.value with
      | .ok value => .ok ⟨v.name, value⟩
      | .error fault =>
          .error (.badConfig sectionName (some v.name) (some e.value)
            (v.name ++ " = " ++ e.value.quoted ++ " (line " ++ Text.ofNat e.line ++ "): " ++
              fault.message))
  | none, some value => .ok ⟨v.name, value⟩
  | none, none =>
      .error (.badConfig sectionName (some v.name) none
        ("missing required variable " ++ v.name))

namespace Section

/-- The fault of a source without the section, if the section has required variables. -/
def absence (s : Section) : Fault :=
  .badConfig s.name none none
    ("section is missing but declares required variables: " ++
      Text.join ", " (s.required.map Variable.name))

def settings (s : Section) (source : Source) : Except Fault SectionSettings :=
  let found := source.section? s.name
  if found.isNone && s.hasRequired then .error s.absence
  else
    s.declared.values.foldlM
      (fun settings v =>
        (v.setting s.name (found.bind (·.get? v.ident))).map (settings.set v.ident))
      (SectionSettings.blank s.name)

/-- The entries of a section of a source that are not declared. -/
def undeclared (s : Section) (found : SourceSection) : List Fault :=
  (found.entries.values.filter fun e => (s.get? e.key).isNone).map fun e =>
    .unknownKey found.name e.key e.line

end Section

namespace Environment

/-- What a source holds that is not declared. Entries of an undeclared section are not listed. -/
def undeclared (e : Environment) (source : Source) : List Fault :=
  source.sections.values.flatMap fun found =>
    match e.section? found.name with
    | some s => s.undeclared found
    | none => [.unknownSection found.name found.line]

def settings (e : Environment) (source : Source) : Except Fault Settings :=
  e.sections.values.foldlM (fun settings s => (s.settings source).map settings.push)
    (Settings.blank e.name)

def validate (e : Environment) (source : Source) (strict : Bool) : Except Fault Settings :=
  if strict && !(e.undeclared source).isEmpty then .error (.unknownKeys (e.undeclared source))
  else e.settings source

end Environment

namespace Schema

/-- The environment with the name. -/
def environment (s : Schema) (name : Text) : Except Fault Environment :=
  match s.environment? name with
  | some e => .ok e
  | none => .error (.undefinedEnvironment name s.environmentNames)

def validate (s : Schema) (environmentName : Text) (source : Source) (strict : Bool) :
    Except Fault Settings :=
  (s.environment environmentName).bind fun e => e.validate source strict

end Schema

end IniSchema
