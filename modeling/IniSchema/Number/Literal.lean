import IniSchema.Number.Shortest
import IniSchema.Text

/-!
# Numeric literals

An integer literal has a sign, an optional radix mark and digits; a decimal literal has a point or
an exponent. In both, single underscores may separate digits.
-/

namespace IniSchema

namespace Literal

/-- Whether there is a minus sign, and what follows the sign if there is one. -/
def splitSign : Text → Bool × Text
  | '-' :: rest => (true, rest)
  | '+' :: rest => (false, rest)
  | t => (false, t)

def hasDoubledUnderscore : Text → Bool
  | '_' :: '_' :: _ => true
  | _ :: rest => hasDoubledUnderscore rest
  | [] => false

/-- The text without its underscores, unless one is first, last or next to another. -/
def withoutUnderscores? (t : Text) : Option Text :=
  if t.head? = some '_' ∨ t.getLast? = some '_' ∨ hasDoubledUnderscore t then none
  else some (t.filter (· != '_'))

/-! ## Digits -/

/-- The value of a digit, where the digits past nine are small letters. -/
def digitValue? (radix : Nat) (c : Char) : Option Nat :=
  let value :=
    if c.isDigit then c.toNat - '0'.toNat
    else if c.isLower then c.toNat - 'a'.toNat + 10
    else radix
  if value < radix then some value else none

/-- The number that the digits denote after `n`. -/
def digitsFrom? (radix : Nat) : Nat → Text → Option Nat
  | n, [] => some n
  | n, c :: cs =>
      match digitValue? radix c with
      | some d => digitsFrom? radix (n * radix + d) cs
      | none => none

def digits? (radix : Nat) (t : Text) : Option Nat :=
  if t.isEmpty then none else digitsFrom? radix 0 t

/-! ## Integers -/

/-- The radix that a literal in small letters is marked with, and what follows the mark. -/
def splitRadix : Text → Nat × Text
  | '0' :: 'x' :: rest => (16, rest.dropWhile (· == '_'))
  | '0' :: 'o' :: rest => (8, rest.dropWhile (· == '_'))
  | '0' :: 'b' :: rest => (2, rest.dropWhile (· == '_'))
  | t => (10, t)

def integer? (t : Text) : Option Int :=
  let (negative, body) := splitSign t
  let (radix, body) := splitRadix body.asciiLower
  match (withoutUnderscores? body).bind (digits? radix) with
  | some n => some (if negative then -n else n)
  | none => none

/-! ## Decimals -/

/-- The value of digits that may be absent. -/
def digitsOrZero (t : Text) : Nat := (digits? 10 t).getD 0

def exponent? (t : Text) : Option Int :=
  let (negative, body) := splitSign t
  (digits? 10 body).map fun n => if negative then -n else n

/-- Digits with an optional point among, before or after them, and an optional exponent. -/
def unsigned? (t : Text) : Option Decimal :=
  let whole := t.takeWhile Char.isDigit
  let rest := t.dropWhile Char.isDigit
  let (fraction, rest) :=
    match rest with
    | '.' :: r => (r.takeWhile Char.isDigit, r.dropWhile Char.isDigit)
    | r => ([], r)
  if whole.isEmpty && fraction.isEmpty then none
  else
    let digits := digitsOrZero (whole ++ fraction)
    match rest with
    | [] => some ⟨digits, -(fraction.length : Int)⟩
    | c :: r =>
        if c.toLower = 'e' then (exponent? r).map fun e => ⟨digits, e - fraction.length⟩
        else none

def isDecimalChar (c : Char) : Bool :=
  c.isDigit || c == '.' || c == 'e' || c == 'E' || c == '+' || c == '-' || c == '_'

/-- The sign and the magnitude of a decimal literal. A second sign is allowed and turns the
first. -/
def decimal? (t : Text) : Option (Bool × Decimal) :=
  let (negative, body) := splitSign t
  if body.any Char.isDigit && body.all isDecimalChar then
    (withoutUnderscores? body).bind fun cleaned =>
      let (inner, magnitude) := splitSign cleaned
      (unsigned? magnitude).map fun d => (negative != inner, d)
  else none

def float? (t : Text) : Option Float :=
  (decimal? t).bind fun (negative, d) =>
    Binary64.finite? negative (Binary64.nearestDecimal d.digits d.exponent)

end Literal

end IniSchema
