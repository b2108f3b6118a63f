import IniSchema.Files.Search
import IniSchema.Files.Tree
import IniSchema.Report
import IniSchema.Source.Reader
import IniSchema.Template

/-!
# Loading

A loading says what is to be validated: the schema, the environment, and where the source comes
from. A text that is given counts before a path, and a path before the search. Files are seen
through a view, so that loading is a function.
-/

namespace IniSchema

structure Loading where
  schema : Schema
  environment : Option Text
  path : Option Text
  text : Option Text
  places : SearchPlaces
  strict : Bool
  deriving DecidableEq

/-- What can be asked. A path or an environment given here counts before those of the loading. -/
inductive Task where
  | find
  | validate (path environment : Option Text)
  | template (output environment : Option Text)
  | list (path environment : Option Text) (json : Bool)
  | get (key : Text) (path environment : Option Text)
  deriving DecidableEq, Repr

/-- What a task comes to: a report, or a file to be written first. -/
inductive Outcome where
  | report (r : Report)
  | save (path text : Text)
  deriving DecidableEq, Repr

def Source.ofFile (files : FileView) (path : Text) : Except Fault Source :=
  match files path with
  | some (.text t) => Source.ofText t (some path)
  | some .undecodable => .error (.unreadable path "stream did not contain valid UTF-8")
  | none => .error (.unreadable path Obstacle.missing.reason)

def SearchPlaces.discover (places : SearchPlaces) (files : FileView) (appName : Text) :
    Except Fault Text :=
  let candidates := places.candidates appName
  match candidates.find? fun path => (files path).isSome with
  | some path => .ok path
  | none => .error (.sourceNotDiscovered appName candidates)

namespace Loading

def ofSchema (schema : Schema) (places : SearchPlaces) : Loading :=
  ⟨schema, none, none, none, places, false⟩

def environmentName (l : Loading) : Text := l.environment.getD Environment.defaultName

def override (l : Loading) (path environment : Option Text) : Loading :=
  { l with path := path <|> l.path, environment := environment <|> l.environment }

def find (l : Loading) (files : FileView) : Except Fault Text :=
  match l.path with
  | some path => if (files path).isSome then .ok path else .error (.sourceMissing path)
  | none => l.places.discover files l.schema.appName

def source (l : Loading) (files : FileView) : Except Fault Source :=
  match l.text with
  | some text => Source.ofText text none
  | none => (l.find files).bind (Source.ofFile files)

def validate (l : Loading) (source : Source) : Except Fault Settings :=
  l.schema.validate l.environmentName source l.strict

def load (l : Loading) (files : FileView) : Except Fault Settings :=
  (l.source files).bind l.validate

def lookedAt (l : Loading) : List Text :=
  match l.path with
  | some path => [path]
  | none => l.places.candidates l.schema.appName

/-! ## Tasks -/

def perform (l : Loading) (files : FileView) : Task → Except Fault Outcome
  | .find => (l.find files).map fun path => .report (.found path)
  | .validate path environment =>
      let l := l.override path environment
      (l.source files).bind fun source =>
        (l.validate source).map fun settings => .report (.valid source.path settings.environment)
  | .template output environment =>
      let l := l.override none environment
      (l.schema.template l.environmentName).map fun text =>
        match output with
        | some path => .save path text
        | none => .report (.template text)
  | .list path environment json =>
      ((l.override path environment).load files).map fun settings =>
        .report (if json then .json settings.toJson.pretty else .listing settings.listing)
  | .get key path environment =>
      ((l.override path environment).load files).bind fun settings =>
        (l.schema.lookUp settings key).map .report

end Loading

namespace FileTree

def settle (t : FileTree) : Outcome → FileTree × Except Fault Report
  | .report r => (t, .ok r)
  | .save path text =>
      let (t, result) := t.save path (.text text)
      (t, result.map fun _ => .templateWritten path)

def perform (t : FileTree) (l : Loading) (task : Task) : FileTree × Except Fault Report :=
  match l.perform t.view task with
  | .ok outcome => t.settle outcome
  | .error fault => (t, .error fault)

end FileTree

end IniSchema
