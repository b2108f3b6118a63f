import IniSchema.Name
import IniSchema.OrderedMap
import IniSchema.Value

/-!
# Schemas

A schema declares environments, each with its own sections of variables, in the order of their
declaration. Every level is looked up by name, see `Name.key`.
-/

namespace IniSchema

/-- It is looked up by the identifier of its declaration and shown under its name. A variable
without a default is required. -/
structure Variable where
  name : Text
  ident : Text
  type : ValueType
  default : Option Value
  description : Text
  deriving DecidableEq

structure Section where
  name : Text
  declared : OrderedMap Variable
  deriving DecidableEq

structure Environment where
  name : Text
  sections : OrderedMap Section
  deriving DecidableEq

structure Schema where
  appName : Text
  environments : OrderedMap Environment
  deriving DecidableEq

/-! ## Variables -/

namespace Variable

def isRequired (v : Variable) : Bool := v.default.isNone

def sameAs (v w : Variable) : Bool :=
  v.name == w.name && v.ident == w.ident && v.type == w.type && v.description == w.description &&
    match v.default, w.default with
    | some a, some b => a.sameAs b
    | none, none => true
    | _, _ => false

end Variable

/-! ## Sections -/

namespace Section

def get? (s : Section) (name : Text) : Option Variable := s.declared.get? (Name.key name)

def required (s : Section) : List Variable := s.declared.values.filter Variable.isRequired

def hasRequired (s : Section) : Bool := s.declared.values.any Variable.isRequired

def sameAs (s t : Section) : Bool :=
  s.name == t.name && s.declared.sameAs Variable.sameAs t.declared

end Section

/-! ## Environments -/

namespace Environment

def defaultName : Text := "default"

def section? (e : Environment) (name : Text) : Option Section := e.sections.get? (Name.key name)

def isDefault (e : Environment) : Bool := Name.key e.name == defaultName

def sameAs (e f : Environment) : Bool :=
  e.name == f.name && e.sections.sameAs Section.sameAs f.sections

end Environment

/-! ## Schemas -/

namespace Schema

def environment? (s : Schema) (name : Text) : Option Environment :=
  s.environments.get? (Name.key name)

def defaultEnvironment? (s : Schema) : Option Environment :=
  s.environments.get? Environment.defaultName

def environmentNames (s : Schema) : List Text := s.environments.values.map Environment.name

/-- The same declarations, the order of which does not count. -/
def sameAs (s t : Schema) : Bool :=
  s.appName == t.appName && s.environments.sameAs Environment.sameAs t.environments

end Schema

end IniSchema
