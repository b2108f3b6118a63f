import IniSchema.CommandLine.ConfigCommand
import IniSchema.Manual.Draft

/-!
# A demonstration program

A pretended server that is configured through its own documentation: `serve` prints what it would
start with, and `config` looks after its configuration file.
-/

namespace IniSchema.Demo

open CommandLine

def manual : Text := Text.unlines [
  "",
  "Configuration for doconf-demo.",
  "",
  "name: doconf-demo",
  "",
  "\x7bdefault\x7d",
  "",
  "[server]",
  "HOST (str:\"127.0.0.1\"): address to bind",
  "PORT (int:8080): port to listen on",
  "WORKERS (int:2): number of worker threads",
  "",
  "[auth]",
  "TOKEN (str): shared secret clients must send",
  "    > (required, there is no safe default)",
  "",
  "\x7bproduction\x7d",
  "",
  "[server]",
  "HOST (str:\"0.0.0.0\"): address to bind",
  "PORT (int:80): port to listen on",
  "WORKERS (int:16): number of worker threads",
  "",
  "[auth]",
  "TOKEN (str): shared secret clients must send"]

/-! ## Requests -/

def strictFlag : OptionSpec := ⟨"strict", none, false, true⟩

def command : Command :=
  .mk "doconf-demo" [strictFlag] []
    [.mk "serve" [environmentOption, strictFlag] [] [] false, configCommand "config" [strictFlag]]
    true

inductive Request where
  | serve (environment : Option Text)
  | config (task : Task)
  deriving DecidableEq, Repr

/-- The request in the arguments, and whether undeclared keys are refused. -/
def Request.ofArguments (args : List Text) : Except UsageError (Request × Bool) :=
  (parse command args).map fun p =>
    let request :=
      if p.command? 1 = some "serve".toList then .serve (p.value? "env") else .config (p.task 2)
    (request, p.has "strict")

/-! ## Answers -/

inductive Reply where
  | print (text : Text)
  | save (path text confirmation : Text)
  deriving DecidableEq, Repr

def shown (settings : Settings) (sectionName variableName : Text) : Text :=
  ((settings.value? sectionName variableName).map Value.display).getD []

def greeting (s : Settings) : Text :=
  "[" ++ s.environment ++ "] listening on " ++ shown s "server" "host" ++ ":" ++
    shown s "server" "port" ++ " with " ++ shown s "server" "workers" ++ " workers"

def Reply.ofOutcome : Outcome → Reply
  | .report r => .print r.display
  | .save path text => .save path text (Report.templateWritten path).display

def loading (places : SearchPlaces) (strict : Bool) : Except Fault Loading :=
  (Schema.ofManual manual).map fun schema =>
    { Loading.ofSchema schema places with strict := strict }

/-- The paths that answering a request may look at. -/
def lookedAt (l : Loading) : Request → List Text
  | .config (.validate (some path) _) => [path]
  | .config (.list (some path) _ _) => [path]
  | .config (.get _ (some path) _) => [path]
  | _ => l.lookedAt

def answer (l : Loading) (files : FileView) : Request → Except Fault Reply
  | .serve environment =>
      ((l.override none environment).load files).map fun s => .print (greeting s)
  | .config task => (l.perform files task).map Reply.ofOutcome

/-! ## Runs -/

structure Exit where
  code : Nat
  output : Text
  errors : Text
  deriving DecidableEq, Repr

def Exit.print (text : Text) : Exit := ⟨0, text ++ "\n", []⟩

def Exit.fail (f : Fault) : Exit := ⟨1, [], "error: " ++ f.message ++ "\n"⟩

/-- Asking for help succeeds, every other misuse of the command line does not. -/
def Exit.usage (e : UsageError) : Exit :=
  let text : Text := "Usage: doconf-demo [OPTIONS] <COMMAND>\n"
  if e = .help then ⟨0, text, []⟩ else ⟨2, [], text⟩

def run (t : FileTree) (places : SearchPlaces) (args : List Text) : FileTree × Exit :=
  match Request.ofArguments args with
  | .error e => (t, .usage e)
  | .ok (request, strict) =>
      match (loading places strict).bind fun l => answer l t.view request with
      | .error f => (t, .fail f)
      | .ok (.print text) => (t, .print text)
      | .ok (.save path text confirmation) =>
          match t.save path (.text text) with
          | (t, .ok _) => (t, .print confirmation)
          | (t, .error f) => (t, .fail f)

end IniSchema.Demo
