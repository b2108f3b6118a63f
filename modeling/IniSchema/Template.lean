import IniSchema.Validation

/-!
# Templates

A commented configuration file for one environment. Variables with a default are written with it,
required ones are commented out.
-/

namespace IniSchema

namespace Variable

def templateNote (v : Variable) : Text :=
  if v.isRequired then v.type.name ++ ", required" else v.type.name

def templateComment (v : Variable) : Text :=
  if v.description.isEmpty then "# (" ++ v.templateNote ++ ")"
  else "# " ++ v.description ++ " (" ++ v.templateNote ++ ")"

def templateEntry (v : Variable) : Text :=
  match v.default with
  | some value => v.ident ++ " = " ++ value.display
  | none => "# " ++ v.ident ++ " ="

end Variable

def Section.templateLines (s : Section) : List Text :=
  [[], '[' :: s.name ++ [']']] ++
    s.declared.values.flatMap fun v => [v.templateComment, v.templateEntry]

def Environment.templateLines (e : Environment) (appName : Text) : List Text :=
  ("# " ++ appName ++ " configuration (" ++ e.name ++ " environment)") ::
    e.sections.values.flatMap Section.templateLines

/-- The template of the environment with the name. -/
def Schema.template (s : Schema) (environmentName : Text) : Except Fault Text :=
  (s.environment environmentName).map fun e => Text.unlines (e.templateLines s.appName)

end IniSchema
