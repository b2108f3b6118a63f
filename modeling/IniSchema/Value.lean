import IniSchema.Number.FloatStyle

/-!
# Typed values

The four types that a variable can be declared with, and the values that they give. A null value
belongs to every type. Values are shown the way they are written in a configuration file.
-/

namespace IniSchema

inductive ValueType where
  | string
  | integer
  | float
  | boolean
  deriving DecidableEq, Repr, Inhabited

/-- The name that declarations use. -/
def ValueType.name : ValueType → Text
  | .string => "str"
  | .integer => "int"
  | .float => "float"
  | .boolean => "bool"

inductive Value where
  | string (s : Text)
  | integer (i : Int64)
  | float (x : Float)
  | boolean (b : Bool)
  | null
  deriving DecidableEq

namespace Value

/-- Whether the value is one that variables of the type can have. -/
def hasType : Value → ValueType → Bool
  | .null, _ => true
  | .string _, .string => true
  | .integer _, .integer => true
  | .float x, .float => Binary64.isFinite x
  | .boolean _, .boolean => true
  | _, _ => false

/-- Equality by numeric value: floats are compared as numbers, so the two zeros are the same. -/
def sameAs : Value → Value → Bool
  | .string s, .string t => s == t
  | .integer i, .integer j => i == j
  | .float x, .float y => x == y
  | .boolean b, .boolean c => b == c
  | .null, .null => true
  | _, _ => false

/-! ## Reading back -/

/-- The words that stand for no value, in any case. -/
def isNullWord (t : Text) : Bool :=
  t.equalsIgnoringAsciiCase "null" || t.equalsIgnoringAsciiCase "none"

def doubleQuote : Char := '\x22'

def singleQuote : Char := '\x27'

/-- The text inside a pair of the same quotation marks. -/
def unwrapped? (t : Text) : Option Text :=
  t.between? doubleQuote doubleQuote <|> t.between? singleQuote singleQuote

/-- Whether a string reads back as something else unless it is quoted: when it is empty, padded, a
null word, or wrapped in quotes itself. -/
def needsQuotes (s : Text) : Bool :=
  s.isEmpty || s.trim != s || isNullWord s || (unwrapped? s).isSome

def display : Value → Text
  | .string s => if needsQuotes s then doubleQuote :: s ++ [doubleQuote] else s
  | .integer i => Text.ofInt i.toInt
  | .float x => FloatStyle.config.render x
  | .boolean true => "true"
  | .boolean false => "false"
  | .null => "null"

end Value

end IniSchema
