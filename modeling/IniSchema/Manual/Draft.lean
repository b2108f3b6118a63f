import IniSchema.Manual.Line
import IniSchema.Reading
import IniSchema.Schema

/-!
# From a manual to a schema

A draft is what a manual has declared so far, with the keys of the environment, section and variable
that are open. Each line takes one draft to the next or is refused with an offence. The order of
declarations matters: first the application's name, then the default environment, and variables only
in a section.
-/

namespace IniSchema.Manual

inductive Offence where
  | duplicateName
  | environmentBeforeName
  | duplicateEnvironment (name : Text)
  | sectionBeforeName
  | sectionBeforeDefault
  | duplicateSection (name environment : Text)
  | variableBeforeName
  | variableBeforeDefault
  | variableOutsideSection
  | malformedVariable
  | duplicateVariable (name sectionName : Text)
  | noDefaultSection
  deriving DecidableEq, Repr

def Offence.reason : Offence → Text
  | duplicateName => "duplicate `name: <name>` declaration"
  | environmentBeforeName => "specify `name: <name>` before environments"
  | duplicateEnvironment name => "environment '" ++ name ++ "' is already declared"
  | sectionBeforeName => "specify `name: <name>` before sections"
  | sectionBeforeDefault => "declare the \x7bdefault\x7d environment before any section"
  | duplicateSection name environment =>
      "section [" ++ name ++ "] is already declared in environment '" ++ environment ++ "'"
  | variableBeforeName => "specify `name: <name>` before variables"
  | variableBeforeDefault => "declare the \x7bdefault\x7d environment before variables"
  | variableOutsideSection => "declare a [section] before variables"
  | malformedVariable =>
      "malformed variable declaration, expected `NAME (type:default): description`"
  | duplicateVariable name sectionName => name ++ " is already declared in [" ++ sectionName ++ "]"
  | noDefaultSection =>
      "the \x7bdefault\x7d environment must be declared with at least one section"

structure Draft where
  appName : Option Text
  environments : OrderedMap Environment
  openEnvironment : Option Text
  openSection : Option Text
  openVariable : Option Text
  deriving DecidableEq

namespace Draft

def blank : Draft := ⟨none, .empty, none, none, none⟩

/-! ## What is open -/

def environmentKey (d : Draft) : Text := d.openEnvironment.getD Environment.defaultName

def sectionKey (d : Draft) : Text := d.openSection.getD []

def environment? (d : Draft) : Option Environment := d.environments.get? d.environmentKey

def section? (d : Draft) : Option Section :=
  d.environment?.bind fun e => e.sections.get? d.sectionKey

def hasDefault (d : Draft) : Bool := d.environments.contains Environment.defaultName

def modifySections (d : Draft) (f : OrderedMap Section → OrderedMap Section) : Draft :=
  { d with
    environments := d.environments.modify d.environmentKey fun e =>
      { e with sections := f e.sections } }

def modifyVariables (d : Draft) (f : OrderedMap Variable → OrderedMap Variable) : Draft :=
  d.modifySections fun sections =>
    sections.modify d.sectionKey fun s => { s with declared := f s.declared }

/-! ## Lines -/

def declareName (d : Draft) (name : Text) : Except Offence Draft :=
  if d.appName.isSome then .error .duplicateName else .ok { d with appName := some name }

/-- Opening an environment closes the section before it. -/
def declareEnvironment (d : Draft) (name : Text) : Except Offence Draft :=
  if d.appName.isNone then .error .environmentBeforeName
  else if d.environments.contains (Name.key name) then .error (.duplicateEnvironment name)
  else
    .ok { d with
      environments := d.environments.insert (Name.key name) ⟨name, .empty⟩
      openEnvironment := some (Name.key name)
      openSection := none
      openVariable := none }

def declareSection (d : Draft) (name : Text) : Except Offence Draft :=
  if d.appName.isNone then .error .sectionBeforeName
  else if !d.hasDefault then .error .sectionBeforeDefault
  else
    match d.environment? with
    | some e =>
        if e.sections.contains (Name.key name) then .error (.duplicateSection name e.name)
        else
          .ok { d.modifySections (·.insert (Name.key name) ⟨name, .empty⟩) with
            openSection := some (Name.key name)
            openVariable := none }
    | none => .error .sectionBeforeDefault

/-- What keeps a variable from being declared here, whatever it is. -/
def variableOffence? (d : Draft) : Option Offence :=
  if d.appName.isNone then some .variableBeforeName
  else if !d.hasDefault then some .variableBeforeDefault
  else if d.openSection.isNone then some .variableOutsideSection
  else none

/-- The type and the default that the part in parentheses gives. All after its first colon is the
default. -/
def readSpec : Option Text → Except Fault (ValueType × Option Value)
  | none => .ok (.string, none)
  | some spec =>
      match spec.cut? (· == ':') with
      | none => (ValueType.ofName spec).map fun type => (type, none)
      | some (typeName, text) =>
          match ValueType.ofName typeName with
          | .error e => .error e
          | .ok type => (type.read text).map fun v => (type, some v)

def declareVariable (d : Draft) (v : Variable) : Except Offence Draft :=
  match d.section? with
  | some s =>
      if s.declared.contains (Name.key v.ident) then .error (.duplicateVariable v.name s.name)
      else
        .ok { d.modifyVariables (·.insert (Name.key v.ident) v) with
          openVariable := some (Name.key v.ident) }
  | none => .error .variableOutsideSection

/-- Adds words to a description, after a space if both are there. -/
def extendDescription (text : Text) (v : Variable) : Variable :=
  let space : Text := if v.description.isEmpty || text.isEmpty then "" else " "
  { v with description := v.description ++ space ++ text }

/-- A continuation with no variable open says nothing. -/
def continueDescription (d : Draft) (text : Text) : Draft :=
  match d.openVariable with
  | some key => d.modifyVariables (·.modify key (extendDescription text))
  | none => d

/-- Names the line of the manual in a fault of reading a type or a default. -/
def atLine (number : Nat) : Fault → Fault
  | .misread value target reason =>
      .misread value target (reason ++ " (schema line " ++ Text.ofNat number ++ ")")
  | fault => fault

def step (d : Draft) (number : Nat) (line : Text) : Except Fault Draft :=
  let blame (o : Offence) : Fault := .declaration number line o.reason
  match Line.classify d.openSection.isSome line with
  | .appName name => (d.declareName name).mapError blame
  | .environment name => (d.declareEnvironment name).mapError blame
  | .sectionHeader name => (d.declareSection name).mapError blame
  | .declaration ident spec description =>
      match d.variableOffence? with
      | some offence => .error (blame offence)
      | none =>
          match readSpec spec with
          | .error fault => .error (atLine number fault)
          | .ok (type, default) =>
              (d.declareVariable ⟨Name.canonical ident, ident, type, default, description⟩).mapError
                blame
  | .malformed => .error (blame (d.variableOffence?.getD .malformedVariable))
  | .continuation text => .ok (d.continueDescription text)
  | .prose => .ok d

/-- The schema of a draft whose default environment has a section. -/
def finish (d : Draft) : Except Fault Schema :=
  match d.environments.get? Environment.defaultName with
  | some e =>
      if e.sections.isEmpty then .error (.declaration 0 [] Offence.noDefaultSection.reason)
      else .ok ⟨d.appName.getD [], d.environments⟩
  | none => .error (.declaration 0 [] Offence.noDefaultSection.reason)

def ofLines (d : Draft) (lines : List (Nat × Text)) : Except Fault Draft :=
  lines.foldlM (fun d line => d.step line.1 line.2) d

end Draft

end IniSchema.Manual

namespace IniSchema

def Schema.ofManual (manual : Text) : Except Fault Schema :=
  (Manual.Draft.blank.ofLines (Manual.significantLines manual)).bind Manual.Draft.finish

end IniSchema
