import IniSchema.Text.Lemmas
import IniSchema.Unicode.Case

/-!
# Names

Environments, sections and variables are looked up by name without regard to case and to white
space around the name. A variable is shown under its name in capitals.
-/

namespace IniSchema.Name

/-- What two spellings of one name have in common. -/
def key (name : Text) : Text := Unicode.lower name.trim

@[simp] theorem key_trim (name : Text) : key name.trim = key name := by
  rw [key, key, Text.trim_trim]

def canonical (ident : Text) : Text := Unicode.upper ident

end IniSchema.Name
