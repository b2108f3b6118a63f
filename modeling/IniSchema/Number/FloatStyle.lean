import IniSchema.Number.Shortest
import IniSchema.Text

/-!
# Floats as text

Two styles with the same digits: the one of values in configuration files and messages, and the one
of JSON. Numbers of middling size are written positionally, always with a point, and others with an
exponent.
-/

namespace IniSchema

structure FloatStyle where
  /-- The least exponent of the leading digit that is written positionally. -/
  plainFrom : Int
  /-- The first exponent of the leading digit that is too large for positional writing. -/
  plainBelow : Int
  plusSign : Bool
  tie : Tie

namespace FloatStyle

/-- Values are written positionally from 0.0001 to below 10^16. -/
def config : FloatStyle := ⟨-4, 16, false, .up⟩

/-- JSON numbers are written positionally from 0.00001 to below 10^16, and a positive exponent has a
sign. -/
def json : FloatStyle := ⟨-5, 16, true, .even⟩

def zeros (n : Nat) : Text := List.replicate n '0'

/-- `digits * 10 ^ e` without an exponent. -/
def positional (digits : Text) (e : Int) : Text :=
  if 0 ≤ e then digits ++ zeros e.toNat ++ ".0"
  else if 0 < digits.length + e then
    digits.take (digits.length + e).toNat ++ '.' :: digits.drop (digits.length + e).toNat
  else "0." ++ zeros (-(digits.length + e)).toNat ++ digits

/-- `digits * 10 ^ e` with one digit before the point, and no point after a single digit. -/
def scientific (plusSign : Bool) (digits : Text) (e : Int) : Text :=
  let leading := e + digits.length - 1
  let sign : Text := if plusSign && 0 ≤ leading then "+" else ""
  digits.take 1 ++ (if digits.length ≤ 1 then [] else '.' :: digits.drop 1) ++
    'e' :: sign ++ Text.ofInt leading

def layout (s : FloatStyle) (d : Decimal) : Text :=
  let digits := Text.ofNat d.digits
  let leading := d.exponent + digits.length - 1
  if s.plainFrom ≤ leading && leading < s.plainBelow then positional digits d.exponent
  else scientific s.plusSign digits d.exponent

def magnitude (s : FloatStyle) (b : Nat) : Text :=
  if b = 0 then "0.0"
  else if b < Binary64.infinityPattern then s.layout (Binary64.shortest s.tie b)
  else "inf"

def render (s : FloatStyle) (x : Float) : Text :=
  if Binary64.infinityPattern < Binary64.pattern x then "NaN"
  else if Binary64.isNegative x then '-' :: s.magnitude (Binary64.pattern x)
  else s.magnitude (Binary64.pattern x)

end FloatStyle

end IniSchema
