import IniSchema.Text

/-!
# Lines of a manual

A manual is documentation text in which some lines declare things. `Line.classify` tells what a line
says by its form alone, but for one rule: a line `name: …` names the application only while no
section is open, and inside a section it declares a variable.
-/

namespace IniSchema.Manual

open Unicode

inductive Line where
  | appName (name : Text)
  | environment (name : Text)
  | sectionHeader (name : Text)
  /-- A variable, what stands in parentheses after it, and its description. -/
  | declaration (ident : Text) (spec : Option Text) (description : Text)
  /-- It starts like a variable with a parenthesis and is none. -/
  | malformed
  | continuation (text : Text)
  | prose
  deriving DecidableEq, Repr

namespace Line

/-! ## Forms -/

/-- The word `name` in any case, a colon, and one word. -/
def appName? (line : Text) : Option Text :=
  if Text.asciiLower (line.take 4) = "name" then
    match Text.trimStart (line.drop 4) with
    | ':' :: rest =>
        let name := Text.trimStart rest
        if !name.isEmpty && !name.any isBlank then some name else none
    | _ => none
  else none

/-- A name in brackets. When there is nothing but white space between them, its last character is
the name. -/
def header? (opening closing : Char) (line : Text) : Option Text :=
  match line.between? opening closing with
  | some inner =>
      if inner.contains closing then none
      else if inner.all isBlank then inner.getLast?.map ([·])
      else some (Text.trim inner)
  | none => none

def isQuote (c : Char) : Bool := c == '\x22' || c == '\x27'

/-- The text up to the first closing parenthesis outside quotes, and what follows it. `within` is
the mark of the quotes that the text starts in. -/
def splitParenthesis? : (within : Option Char) → Text → Option (Text × Text)
  | _, [] => none
  | none, c :: rest =>
      if c = ')' then some ([], rest)
      else (splitParenthesis? (if isQuote c then some c else none) rest).map
        fun (inner, after) => (c :: inner, after)
  | some q, c :: rest =>
      (splitParenthesis? (if c = q then none else some q) rest).map
        fun (inner, after) => (c :: inner, after)

/-- An identifier, optionally something in parentheses, a colon and a description. -/
def declaration? (line : Text) : Option Line :=
  let ident := line.takeWhile isWord
  if ident.isEmpty then none
  else
    match Text.trimStart (line.dropWhile isWord) with
    | ':' :: description => some (.declaration ident none (Text.trim description))
    | '(' :: rest =>
        match splitParenthesis? none rest with
        | some (spec, after) =>
            match spec.isEmpty, Text.trimStart after with
            | false, ':' :: description =>
                some (.declaration ident (some spec) (Text.trim description))
            | _, _ => none
        | none => none
    | _ => none

/-- An identifier and an opening parenthesis with a colon somewhere after it. -/
def looksLikeDeclaration (line : Text) : Bool :=
  !(line.takeWhile isWord).isEmpty &&
    match Text.trimStart (line.dropWhile isWord) with
    | '(' :: rest => rest.contains ':'
    | _ => false

/-! ## Classification -/

/-- What a trimmed line says that is no continuation, the name of the application apart. -/
def ofForm (line : Text) : Line :=
  match header? '\x7b' '\x7d' line with
  | some name => .environment name
  | none =>
      match header? '[' ']' line with
      | some name => .sectionHeader name
      | none =>
          match declaration? line with
          | some found => found
          | none => if looksLikeDeclaration line then .malformed else .prose

def classify (sectionOpen : Bool) (line : Text) : Line :=
  match line with
  | '>' :: rest => .continuation (Text.trim rest)
  | _ =>
      match (if sectionOpen then none else appName? line) with
      | some name => .appName name
      | none => ofForm line

end Line

/-- A line that is neither blank nor a comment, trimmed, with its number. -/
def significant (line : Text) : Bool := !line.isEmpty && line.head? != some '#'

def significantLines (manual : Text) : List (Nat × Text) :=
  ((manual.lines.map Text.trim).zipIdx 1).filterMap fun (line, number) =>
    if significant line then some (number, line) else none

end IniSchema.Manual
