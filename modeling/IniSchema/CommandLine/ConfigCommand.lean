import IniSchema.CommandLine.Arguments
import IniSchema.Loading

/-!
# The configuration command

The group of subcommands by which a program lets its users look after its configuration file. The
environment may be given at any level, and without a subcommand the file is validated.
-/

namespace IniSchema.CommandLine

def environmentOption : OptionSpec := ⟨"env", some 'e', true, true⟩

def pathOption : OptionSpec := ⟨"path", some 'p', true, false⟩

def outputOption : OptionSpec := ⟨"output", some 'o', true, false⟩

def jsonFlag : OptionSpec := ⟨"json", none, false, true⟩

/-- The group under a name, with further options that each of its commands takes. -/
def configCommand (name : Text) (shared : List OptionSpec) : Command :=
  let shared := environmentOption :: shared
  .mk name shared []
    [.mk "find" shared [] [] false,
      .mk "validate" shared [⟨"path", false, false⟩] [] false,
      .mk "gen" (shared ++ [outputOption]) [] [] false,
      .mk "list" (shared ++ [pathOption, jsonFlag]) [] [] false,
      .mk "get" (shared ++ [pathOption]) [⟨"key", true, true⟩] [] false]
    false

/-- The task of a parsed group. `depth` is the level of its subcommand. -/
def Parsed.task (p : Parsed) (depth : Nat) : Task :=
  let environment := p.value? "env"
  match p.command? depth with
  | none => .validate none environment
  | some name =>
      if name = "validate" then .validate (p.value? "path") environment
      else if name = "gen" then .template (p.value? "output") environment
      else if name = "list" then .list (p.value? "path") environment (p.has "json")
      else if name = "get" then .get ((p.value? "key").getD []) (p.value? "path") environment
      else .find

end IniSchema.CommandLine

namespace IniSchema

def Task.ofArguments (args : List Text) : Except CommandLine.UsageError Task :=
  (CommandLine.parse (CommandLine.configCommand "config" []) args).map (·.task 1)

end IniSchema
