import IniSchema.Fault
import IniSchema.Number.Binary64
import IniSchema.Number.Literal
import IniSchema.Value

/-!
# Reading typed values

How the text of a default or of a configuration entry becomes a value of the declared type. White
space around it does not count, and the words `null` and `none` give no value for every type.
-/

namespace IniSchema

inductive Misreading where
  | unknownType
  | outOfRange
  | fractional
  | notNumeric
  | notBoolean
  deriving DecidableEq, Repr

def Misreading.reason : Misreading → Text
  | .unknownType => "supported types are str, int, float and bool"
  | .outOfRange => "out of range for a 64-bit integer"
  | .fractional => "has a fractional part"
  | .notNumeric => "not a numeric literal"
  | .notBoolean => "expected true/false, yes/no, on/off or a number"

/-- An integer with 64 bits, sign included, if the number fits. -/
def int64? (i : Int) : Option Int64 :=
  if -2 ^ 63 ≤ i ∧ i < 2 ^ 63 then some (Int64.ofInt i) else none

/-- A number whose magnitude fits into an integer with 128 bits, sign included. -/
def int128? (i : Int) : Option Int := if i.natAbs < 2 ^ 127 then some i else none

/-- Every number that 64 bits hold is held by 128 bits. -/
theorem int128?_bind_int64? (i : Int) : (int128? i).bind int64? = int64? i := by
  unfold int128?
  split
  · rfl
  · have hrange : ¬(-2 ^ 63 ≤ i ∧ i < 2 ^ 63) := by omega
    rw [int64?, if_neg hrange, Option.bind_none]

/-- An integer literal, which may be out of range. The outer `none` says that it is none. Digits are
read with 128 bits, and the signed number is then taken down to 64. -/
def integerLiteral? (t : Text) : Option (Except Misreading Int64) :=
  (Literal.integer? t).map fun i =>
    match (int128? i).bind int64? with
    | some n => .ok n
    | none => .error .outOfRange

namespace ValueType

/-- The type with the name, by its short or long form in any case. -/
def ofName (t : Text) : Except Fault ValueType :=
  let name := t.trim.asciiLower
  if name = "str" ∨ name = "string" then .ok .string
  else if name = "int" ∨ name = "integer" then .ok .integer
  else if name = "float" then .ok .float
  else if name = "bool" ∨ name = "boolean" then .ok .boolean
  else .error (.misread name "type" Misreading.unknownType.reason)

def readInteger (t : Text) : Except Misreading Value :=
  match integerLiteral? t with
  | some n => n.map .integer
  | none =>
      match Literal.float? t with
      | some x =>
          match (Binary64.wholePart? x).bind int64? with
          | some n => .ok (.integer n)
          | none => .error .fractional
      | none => .error .notNumeric

def readFloat (t : Text) : Except Misreading Value :=
  match integerLiteral? t with
  | some n => n.map fun n => .float (Binary64.ofInt64 n)
  | none =>
      match Literal.float? t with
      | some x => .ok (.float x)
      | none => .error .notNumeric

/-- A truth word, or a number that is not zero for true. -/
def readBoolean (t : Text) : Except Misreading Value :=
  let word := t.asciiLower
  if word = "true" ∨ word = "yes" ∨ word = "on" then .ok (.boolean true)
  else if word = "false" ∨ word = "no" ∨ word = "off" then .ok (.boolean false)
  else
    match integerLiteral? t with
    | some (.ok n) => .ok (.boolean (n != 0))
    | _ =>
        match Literal.float? t with
        | some x => .ok (.boolean (x != 0.0))
        | none => .error .notBoolean

def readTrimmed (type : ValueType) (t : Text) : Except Misreading Value :=
  if Value.isNullWord t then .ok .null
  else match type with
    | .string => .ok (.string ((Value.unwrapped? t).getD t))
    | .integer => readInteger t
    | .float => readFloat t
    | .boolean => readBoolean t

def read (type : ValueType) (t : Text) : Except Fault Value :=
  match type.readTrimmed t.trim with
  | .ok v => .ok v
  | .error m => .error (.misread t.trim type.name m.reason)

end ValueType

end IniSchema
