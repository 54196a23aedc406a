import Vmodl.Number.Binary

/-!
# Numbers in text

Integers are digits with an optional sign. Reals have digits with an optional point and exponent, or are
one of the words for an infinity or a NaN; they are rounded once, directly to their format.
-/

namespace Vmodl

namespace Number

def digitValue (c : Char) : Nat := c.toNat - 48

/-- The value of a list of digits after the digits read so far. -/
def ofDigits (n : Nat) (digits : List Char) : Nat := digits.foldl (fun n c => 10 * n + digitValue c) n

/-- Whether there is a minus sign in front, and what follows the sign. -/
def splitSign : List Char → Bool × List Char
  | '-' :: rest => (true, rest)
  | '+' :: rest => (false, rest)
  | s => (false, s)

def integer? (s : List Char) : Option Int :=
  let (negative, digits) := splitSign s
  if digits.isEmpty || !digits.all Char.isDigit then none
  else if negative then some (-ofDigits 0 digits) else some (ofDigits 0 digits)

/-- The exponent that ends a real, zero where there is none. -/
def exponent? : List Char → Option Int
  | [] => some 0
  | c :: rest => if c = 'e' ∨ c = 'E' then integer? rest else none

end Number

namespace BinaryFormat

variable (f : BinaryFormat)

/-- An unsigned real of digits. -/
def ofDigits? (negative : Bool) (s : List Char) : Option Nat := do
  let whole := s.takeWhile Char.isDigit
  let rest := s.drop whole.length
  let (places, rest) := match rest with
    | '.' :: rest =>
      let places := rest.takeWhile Char.isDigit
      (places, rest.drop places.length)
    | rest => ([], rest)
  if whole.isEmpty && places.isEmpty then none
  else do
    let e ← Number.exponent? rest
    return f.nearestDecimal negative (Number.ofDigits 0 (whole ++ places)) (e - places.length)

/-- The bit pattern that a text stands for. -/
def ofText? (s : List Char) : Option Nat :=
  let (negative, s) := Number.splitSign s
  let word := String.ofList (s.map Char.toLower)
  if word = "inf" ∨ word = "infinity" then some (f.withSign negative f.infinityBits)
  else if word = "nan" then some (f.infinityBits + f.hiddenBit / 2)
  else f.ofDigits? negative s

end BinaryFormat

end Vmodl
