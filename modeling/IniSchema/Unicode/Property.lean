import IniSchema.Unicode.HiddenTable
import IniSchema.Unicode.WordTable

/-!
# Properties of characters

A property is written down as an ascending list of code-point ranges. White space separates words,
surrounds names and indents lines throughout this library. Identifiers are made of word characters,
which are letters, marks, decimal digits, connector punctuation and join controls. Hidden characters
need an escape to be seen: controls, separators, fillers and unassigned characters have no glyph,
and a combining character would merge with the one before it.
-/

namespace IniSchema.Unicode

/-! ## Sets given by ranges -/

def inRanges (ranges : List (Nat × Nat)) (c : Char) : Bool :=
  ranges.any fun r => r.1 ≤ c.toNat && c.toNat ≤ r.2

theorem inRanges_iff {ranges : List (Nat × Nat)} {c : Char} :
    inRanges ranges c = true ↔ ∃ r ∈ ranges, r.1 ≤ c.toNat ∧ c.toNat ≤ r.2 := by
  simp [inRanges]

/-- A character past ASCII is looked up in the ranges, an ASCII one is asked directly. -/
def asciiOr (ascii : Char → Bool) (ranges : List (Nat × Nat)) (c : Char) : Bool :=
  if c.toNat < 0x80 then ascii c else inRanges ranges c

theorem asciiOr_of_lt {ascii : Char → Bool} {ranges : List (Nat × Nat)} {c : Char}
    (h : c.toNat < 0x80) : asciiOr ascii ranges c = ascii c := by
  simp [asciiOr, h]

/-! ## White space -/

/-- The 25 characters with the property White_Space. -/
def blankRanges : List (Nat × Nat) :=
  [(0x0009, 0x000D), (0x0020, 0x0020), (0x0085, 0x0085), (0x00A0, 0x00A0), (0x1680, 0x1680),
   (0x2000, 0x200A), (0x2028, 0x2029), (0x202F, 0x202F), (0x205F, 0x205F), (0x3000, 0x3000)]

def isBlank (c : Char) : Bool := inRanges blankRanges c

theorem isBlank_newline : isBlank '\n' = true := by decide

/-! ## Word characters -/

/-- ASCII letters, digits and the underscore. -/
def isAsciiWord (c : Char) : Bool := c.isAlphanum || c == '_'

def isWord (c : Char) : Bool := asciiOr isAsciiWord wordRanges c

theorem isWord_of_lt {c : Char} (h : c.toNat < 0x80) : isWord c = isAsciiWord c :=
  asciiOr_of_lt h

/-! ## Hidden characters -/

/-- ASCII control characters. -/
def isAsciiControl (c : Char) : Bool := c.toNat < 0x20 || c.toNat == 0x7F

def isHidden (c : Char) : Bool := asciiOr isAsciiControl hiddenRanges c

end IniSchema.Unicode
