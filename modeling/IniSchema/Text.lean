import IniSchema.Unicode.Property

/-!
# Text

A text is its list of characters, which is what the rules of this library are stated over. String
literals stand for texts wherever one is expected.
-/

namespace IniSchema

open Unicode

abbrev Text := List Char

instance : Coe String Text := ⟨String.toList⟩

namespace Text

/-! ## Trimming -/

def trimStart (t : Text) : Text := t.dropWhile isBlank

def trimEnd (t : Text) : Text := (t.reverse.dropWhile isBlank).reverse

def trim (t : Text) : Text := t.trimStart.trimEnd

/-! ## Lines -/

/-- The lines of a text. A line ends at a newline, or at a carriage return with a newline after it;
what follows the last newline is a line if it is not empty. -/
def lines : Text → List Text
  | [] => []
  | '\r' :: '\n' :: cs => [] :: lines cs
  | '\n' :: cs => [] :: lines cs
  | c :: cs =>
      match lines cs with
      | [] => [[c]]
      | line :: rest => (c :: line) :: rest

/-- Lines as a text, each with a newline after it. -/
def unlines (lines : List Text) : Text := lines.flatMap (· ++ ['\n'])

/-! ## Cutting and joining -/

/-- The text before and after the first character with the property. -/
def cut? (p : Char → Bool) (t : Text) : Option (Text × Text) :=
  match t.dropWhile (!p ·) with
  | [] => none
  | _ :: rest => some (t.takeWhile (!p ·), rest)

/-- What stands between the character `opening` in front and the character `closing` at the end. -/
def between? (opening closing : Char) : Text → Option Text
  | [] => none
  | c :: cs => if c = opening ∧ cs.getLast? = some closing then some cs.dropLast else none

/-- The pieces between the separators, one more than there are separators. -/
def split (separator : Char) : Text → List Text
  | [] => [[]]
  | c :: cs =>
      if c = separator then [] :: split separator cs
      else match split separator cs with
        | [] => [[c]]
        | piece :: rest => (c :: piece) :: rest

def join (separator : Text) (pieces : List Text) : Text := separator.intercalate pieces

/-! ## Measures and ASCII case -/

/-- The length in UTF-8. -/
def byteLength (t : Text) : Nat := t.foldr (fun c n => c.utf8Size + n) 0

def asciiLower (t : Text) : Text := t.map Char.toLower

def equalsIgnoringAsciiCase (t u : Text) : Bool := t.asciiLower == u.asciiLower

end Text

/-- Decimal digits of a natural number. -/
def Text.ofNat (n : Nat) : Text := Nat.toDigits 10 n

def Text.ofInt : Int → Text
  | .ofNat n => Text.ofNat n
  | .negSucc n => '-' :: Text.ofNat (n + 1)

end IniSchema
