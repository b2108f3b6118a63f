import IniSchema.Value

/-!
# JSON

Documents of nested objects whose leaves are values, and their two layouts: on one line without
spaces, or with one member a line and two spaces for each level.
-/

namespace IniSchema

inductive Json where
  | leaf (v : Value)
  | object (members : List (Text × Json))

namespace Json

/-! ## Strings -/

def hexDigit (n : Nat) : Char := Nat.digitChar n

def escapedChar (c : Char) : Text :=
  if c = '\x22' then "\\\""
  else if c = '\\' then "\\\\"
  else if c = '\x08' then "\\b"
  else if c = '\x0c' then "\\f"
  else if c = '\n' then "\\n"
  else if c = '\r' then "\\r"
  else if c = '\t' then "\\t"
  else if c.toNat < 0x20 then "\\u00" ++ [hexDigit (c.toNat / 16), hexDigit (c.toNat % 16)]
  else [c]

def quotedString (t : Text) : Text := '\x22' :: t.flatMap escapedChar ++ ['\x22']

/-! ## Layouts -/

/-- A leaf has the same text in both layouts. A float that is no number is null. -/
def leafText : Value → Text
  | .string s => quotedString s
  | .integer i => Text.ofInt i.toInt
  | .float x => if Binary64.isFinite x then FloatStyle.json.render x else "null"
  | .boolean true => "true"
  | .boolean false => "false"
  | .null => "null"

mutual

def compact : Json → Text
  | leaf v => leafText v
  | object members => '\x7b' :: Text.join "," (compactMembers members) ++ "\x7d"

def compactMembers : List (Text × Json) → List Text
  | [] => []
  | (name, j) :: rest => (quotedString name ++ ':' :: compact j) :: compactMembers rest

end

def indentation (level : Nat) : Text := List.replicate (2 * level) ' '

mutual

def prettyAt (level : Nat) : Json → Text
  | leaf v => leafText v
  | object [] => "\x7b\x7d"
  | object (m :: ms) =>
      "\x7b\n" ++ Text.join ",\n" (prettyMembers (level + 1) (m :: ms)) ++
        '\n' :: indentation level ++ "\x7d"

def prettyMembers (level : Nat) : List (Text × Json) → List Text
  | [] => []
  | (name, j) :: rest =>
      (indentation level ++ quotedString name ++ ": " ++ prettyAt level j) ::
        prettyMembers level rest

end

def pretty (j : Json) : Text := prettyAt 0 j

end Json

def Value.toJson (v : Value) : Json := .leaf v

end IniSchema
