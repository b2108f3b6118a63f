import IniSchema.Text

/-!
# Quoted text

How messages show a text they are about: between double quotes, with escapes for quotes,
backslashes, line ends and every character that cannot be seen by itself.
-/

namespace IniSchema.Text

open Unicode

def hexDigits (n : Nat) : Text := Nat.toDigits 16 n

/-- The code point in hexadecimal, without padding, between braces. -/
def codePointEscape (c : Char) : Text :=
  '\\' :: 'u' :: '\x7b' :: hexDigits c.toNat ++ ['\x7d']

def quotedChar (c : Char) : Text :=
  if c = '\x00' then "\\0"
  else if c = '\t' then "\\t"
  else if c = '\r' then "\\r"
  else if c = '\n' then "\\n"
  else if c = '\x22' then "\\\""
  else if c = '\\' then "\\\\"
  else if isHidden c then codePointEscape c
  else [c]

def quoted (t : Text) : Text := '\x22' :: t.flatMap quotedChar ++ ['\x22']

end IniSchema.Text
