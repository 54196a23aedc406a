import Vmodl.Client.Value
import Vmodl.Number.Reader
import Vmodl.Wire.Decoder

/-!
# Reading scalars

Numbers may be written as text, blanks around them aside, and are never wrapped or cut short: an
integer that does not fit its type is an error.
-/

namespace Vmodl

open Wire

namespace Primitive

def scalarOf (p : Primitive) : Decoded → Except Failure Json
  | .null => .error (.missing p.tag)
  | .scalar j => .ok j
  | other => .error (.malformed p.tag (.unwantedForm .scalar other.form))

def orUnexpected (p : Primitive) (j : Json) : Option α → Except Failure α
  | some a => .ok a
  | none => .error (.malformed p.tag (.unexpectedValue j))

def integerOf? (width : Nat) (j : Json) : Option Int :=
  let n := match j with
    | .number (.integer n) => some n
    | .string s => Number.integer? (Text.trimChars s.toList)
    | _ => none
  n.filter fun n => -(1 <<< (width - 1) : Nat) ≤ n && n < (1 <<< (width - 1) : Nat)

/-- Numbers that are no text are doubles first. -/
def realOf? (f : BinaryFormat) (j : Json) : Option Nat :=
  match j with
  | .number n => some (f.ofValue (BinaryFormat.double.value n.toDouble))
  | .string s => f.ofText? (Text.trimChars s.toList)
  | _ => none

def booleanOf? (j : Json) : Option Bool :=
  match j with
  | .bool b => some b
  | .string "true" => some true
  | .string "1" => some true
  | .string "false" => some false
  | .string "0" => some false
  | _ => none

/-- What is no text is read as its JSON text. -/
def textOf (j : Json) : String :=
  match j with
  | .string s => s
  | other => other.text

def readInteger (p : Primitive) (width : Nat) (d : Decoded) : Except Failure Value := do
  let j ← p.scalarOf d
  return .integer (← p.orUnexpected j (integerOf? width j))

def readDateTime (d : Decoded) : Except Failure Value :=
  match d with
  | .dateTime t => .ok (.dateTime t)
  | .scalar (.string text) => (readInstant text).map .dateTime
  | .null => .error (.missing dateTimeKey)
  | other => .error (.malformed dateTimeKey (.unwantedForm .dateTime other.form))

def readBinary (d : Decoded) : Except Failure Value :=
  match d with
  | .binary bytes => .ok (.binary bytes)
  | .scalar (.string text) => (readBytes text).map .binary
  | .null => .error (.missing binaryKey)
  | other => .error (.malformed binaryKey (.unwantedForm .binary other.form))

def read (p : Primitive) (d : Decoded) : Except Failure Value :=
  match p with
  | .byte => p.readInteger 8 d
  | .short => p.readInteger 16 d
  | .int => p.readInteger 32 d
  | .long => p.readInteger 64 d
  | .float => do
    let j ← p.scalarOf d
    return .single (← p.orUnexpected j (realOf? .single j)).toUInt32
  | .double => do
    let j ← p.scalarOf d
    return .double (← p.orUnexpected j (realOf? .double j)).toUInt64
  | .boolean => do
    let j ← p.scalarOf d
    return .boolean (← p.orUnexpected j (booleanOf? j))
  | .string => do
    let j ← p.scalarOf d
    return .text (textOf j)
  | .void => .ok .unit
  | .any => .ok (.any d.toJson)
  | .dateTime => readDateTime d
  | .binary => readBinary d

end Primitive

end Vmodl
