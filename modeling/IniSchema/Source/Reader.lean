import IniSchema.Source

/-!
# Sources in INI format

A section header in brackets opens a section, `key = value` or `key: value` sets an entry of it, and
lines indented deeper than an entry continue its value. Blank lines and comments do not count.
-/

namespace IniSchema.Source

/-- What is wrong with a line. -/
inductive Offence where
  | emptyHeader
  | noSeparator
  | emptyKey
  | noHeader
  deriving DecidableEq, Repr

def Offence.reason : Offence → Text
  | .emptyHeader => "empty section header"
  | .noSeparator => "expected `[section]` or `key = value`"
  | .emptyKey => "entry has an empty key"
  | .noHeader => "entry appears before any `[section]` header"

inductive Line where
  | header (name : Text)
  | entry (key value : Text)
  deriving DecidableEq, Repr

/-- What a trimmed line says that continues no value. -/
def Line.ofText (line : Text) : Except Offence Line :=
  match line.between? '[' ']' with
  | some inner =>
      let name := Text.trim inner
      if name.isEmpty then .error .emptyHeader else .ok (.header name)
  | none =>
      match line.cut? (fun c => c == '=' || c == ':') with
      | none => .error .noSeparator
      | some (key, value) =>
          let key := Text.trim key
          if key.isEmpty then .error .emptyKey else .ok (.entry key value.trim)

/-- Blank lines and comments. -/
def isIgnored (line : Text) : Bool :=
  line.isEmpty || line.head? == some '#' || line.head? == some ';'

/-- The length in bytes of the white space in front. -/
def indentation (line : Text) : Nat := Text.byteLength (line.takeWhile Unicode.isBlank)

/-- The entry that deeper lines continue. -/
structure OpenEntry where
  sectionKey : Text
  entryKey : Text
  indent : Nat
  deriving DecidableEq, Repr

structure Reader where
  source : Source
  openSection : Option Text
  openEntry : Option OpenEntry
  deriving DecidableEq

namespace Reader

def start (path : Option Text) : Reader := ⟨.blank path, none, none⟩

/-- The entry that a line with the indentation continues. -/
def continued? (r : Reader) (indent : Nat) : Option OpenEntry :=
  r.openEntry.filter (·.indent < indent)

/-- Reads a line that continues no value. -/
def readLine (r : Reader) (number indent : Nat) (line : Text) : Except Offence Reader :=
  match Line.ofText line with
  | .error offence => .error offence
  | .ok (.header name) => .ok ⟨r.source.ensureSection name number, some name, none⟩
  | .ok (.entry key value) =>
      match r.openSection with
      | none => .error .noHeader
      | some name =>
          .ok ⟨r.source.put name number key value number, some name,
            some ⟨Name.key name, Name.key key, indent⟩⟩

def step (r : Reader) (number : Nat) (raw : Text) : Except Offence Reader :=
  let line := raw.trim
  if isIgnored line then .ok r
  else
    match r.continued? (indentation raw) with
    | some e => .ok { r with source := r.source.appendLine e.sectionKey e.entryKey line }
    | none => r.readLine number (indentation raw) line

/-- Reads numbered lines. An offence comes with the number of its line. -/
def readLines (r : Reader) : List (Text × Nat) → Except (Nat × Offence) Reader
  | [] => .ok r
  | (raw, number) :: rest =>
      match r.step number raw with
      | .ok r => r.readLines rest
      | .error offence => .error (number, offence)

end Reader

/-- The source in a text. The path is the one that faults name. -/
def ofText (text : Text) (path : Option Text) : Except Fault Source :=
  match (Reader.start path).readLines (text.lines.zipIdx 1) with
  | .ok r => .ok r.source
  | .error (line, offence) => .error (.iniSyntax (path.getD "<text>") line offence.reason)

end IniSchema.Source
