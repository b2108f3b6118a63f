import IniSchema.Text.Quoted

/-!
# Faults

Everything that can go wrong, from a wrong declaration to a file that cannot be read, and the
message that each fault is reported with.
-/

namespace IniSchema

inductive Fault where
  /-- A line of a manual that declares nothing allowed. Line 0 blames the manual as a whole. -/
  | declaration (line : Nat) (text reason : Text)
  | misread (value target reason : Text)
  | sourceMissing (path : Text)
  | sourceNotDiscovered (appName : Text) (candidates : List Text)
  | undefinedEnvironment (name : Text) (available : List Text)
  /-- The variable and its text are given when one of them is to blame. -/
  | badConfig (sectionName : Text) (variableName value : Option Text) (reason : Text)
  | unknownKey (sectionName key : Text) (line : Nat)
  | unknownSection (name : Text) (line : Nat)
  | unknownKeys (faults : List Fault)
  | keyNotFound (key : Text)
  | iniSyntax (path : Text) (line : Nat) (reason : Text)
  | unreadable (path reason : Text)
  deriving Inhabited

namespace Fault

def bullets (items : List Text) : Text := Text.join "\n - " items

def location (line : Nat) (text : Text) : Text :=
  if line = 0 then []
  else " on line " ++ Text.ofNat line ++ " (" ++ text.quoted ++ ")"

def message : Fault → Text
  | declaration line text reason =>
      "Invalid schema declaration" ++ location line text ++ ": " ++ reason
  | misread value target reason =>
      "Cannot read " ++ value.quoted ++ " as " ++ target ++ ": " ++ reason
  | sourceMissing path => "No config file at " ++ path
  | sourceNotDiscovered appName candidates =>
      "No config path discovered for '" ++ appName ++ "', checked:\n - " ++ bullets candidates
  | undefinedEnvironment name available =>
      "Environment '" ++ name ++ "' is not defined (available: " ++ Text.join ", " available ++ ")"
  | badConfig sectionName _ _ reason => "Bad config in [" ++ sectionName ++ "]: " ++ reason
  | unknownKey sectionName key line =>
      "Unknown key '" ++ key ++ "' in [" ++ sectionName ++ "] (line " ++ Text.ofNat line ++ ")"
  | unknownSection name line => "Unknown section [" ++ name ++ "] (line " ++ Text.ofNat line ++ ")"
  | unknownKeys faults => "Unknown keys in config source:\n - " ++ bullets (faults.map message)
  | keyNotFound key => "Key not found: " ++ key
  | iniSyntax path line reason =>
      "Failed to parse " ++ path ++ " (line " ++ Text.ofNat line ++ "): " ++ reason
  | unreadable path reason => "Failed to read " ++ path ++ ": " ++ reason

/-- Whether there was no file to read at all. -/
def isSourceUnavailable : Fault → Bool
  | sourceMissing _ => true
  | sourceNotDiscovered .. => true
  | _ => false

end Fault

end IniSchema
