import Vmodl.Text.Blank

/-!
# Base64

The standard alphabet with canonical padding: the symbols fill whole groups of four, and the bits
that carry no byte are zero. Offsets count the UTF-8 bytes of the text without the blanks around it.
-/

namespace Vmodl.Base64

inductive Flaw where
  | invalidSymbol (symbol : UInt8) (offset : Nat)
  | invalidLength (length : Nat)
  | invalidPadding
  | invalidLastSymbol (symbol : UInt8) (offset : Nat)
deriving DecidableEq, Repr

def Flaw.message : Flaw → String
  | .invalidSymbol symbol offset => s!"Invalid symbol {symbol}, offset {offset}."
  | .invalidLength length => s!"Invalid input length: {length}"
  | .invalidPadding => "Invalid padding"
  | .invalidLastSymbol symbol offset => s!"Invalid last symbol {symbol}, offset {offset}."

/-- The symbol of six bits. -/
def symbol (n : Nat) : Char :=
  Char.ofNat <|
    if n < 26 then 65 + n
    else if n < 52 then 71 + n
    else if n < 62 then n - 4
    else if n = 62 then 43 else 47

def symbolValue? (b : UInt8) : Option Nat :=
  let n := b.toNat
  if 65 ≤ n ∧ n ≤ 90 then some (n - 65)
  else if 97 ≤ n ∧ n ≤ 122 then some (n - 71)
  else if 48 ≤ n ∧ n ≤ 57 then some (n + 4)
  else if n = 43 then some 62
  else if n = 47 then some 63
  else none

def pad : UInt8 := 61

def encodeBytes : List UInt8 → List Char
  | [] => []
  | [a] => [symbol (a.toNat / 4), symbol (a.toNat % 4 * 16), '=', '=']
  | [a, b] =>
    [symbol (a.toNat / 4), symbol (a.toNat % 4 * 16 + b.toNat / 16), symbol (b.toNat % 16 * 4), '=']
  | a :: b :: c :: rest =>
    symbol (a.toNat / 4) :: symbol (a.toNat % 4 * 16 + b.toNat / 16) ::
      symbol (b.toNat % 16 * 4 + c.toNat / 64) :: symbol (c.toNat % 64) :: encodeBytes rest

def encode (bytes : List UInt8) : String := String.ofList (encodeBytes bytes)

def readSymbol (b : UInt8) (offset : Nat) : Except Flaw Nat :=
  match symbolValue? b with
  | some n => .ok n
  | none => .error (.invalidSymbol b offset)

/-- The symbols of the last group, which may end in padding. `padAt` is the offset of the first pad. -/
def readLast (start : Nat) (values : List Nat) (padAt : Option Nat) :
    List UInt8 → Except Flaw (List Nat)
  | [] => .ok values
  | b :: rest =>
    let offset := start + values.length
    if b = pad then
      if values.length < 2 then .error (.invalidSymbol b offset)
      else readLast start values (some (padAt.getD offset)) rest
    else
      match padAt with
      | some p => .error (.invalidSymbol pad p)
      | none => do
        let n ← readSymbol b offset
        readLast start (values ++ [n]) none rest

def decodeLast (start : Nat) (group : List UInt8) : Except Flaw (List UInt8) := do
  let values ← readLast start [] none group
  let lastFlaw : Flaw :=
    .invalidLastSymbol (group[values.length - 1]?.getD 0) (start + values.length - 1)
  match values with
  | [a, b] =>
    if group.length ≠ 4 then .error .invalidPadding
    else if b % 16 ≠ 0 then .error lastFlaw
    else .ok [UInt8.ofNat (a * 4 + b / 16)]
  | [a, b, c] =>
    if group.length ≠ 4 then .error .invalidPadding
    else if c % 4 ≠ 0 then .error lastFlaw
    else .ok [UInt8.ofNat (a * 4 + b / 16), UInt8.ofNat (b % 16 * 16 + c / 4)]
  | [a, b, c, d] =>
    .ok [UInt8.ofNat (a * 4 + b / 16), UInt8.ofNat (b % 16 * 16 + c / 4), UInt8.ofNat (c % 4 * 64 + d)]
  | values => if group.isEmpty then .ok [] else .error (.invalidLength (start + values.length))

/-- The bytes from a group on that starts at `start`. -/
def decodeFrom (start : Nat) : List UInt8 → Except Flaw (List UInt8)
  | a :: b :: c :: d :: e :: rest => do
    let a ← readSymbol a start
    let b ← readSymbol b (start + 1)
    let c ← readSymbol c (start + 2)
    let d ← readSymbol d (start + 3)
    let bytes ← decodeFrom (start + 4) (e :: rest)
    return UInt8.ofNat (a * 4 + b / 16) :: UInt8.ofNat (b % 16 * 16 + c / 4) ::
      UInt8.ofNat (c % 4 * 64 + d) :: bytes
  | group => decodeLast start group

/-- A symbol that stands alone at the end is reported before any other. -/
def loneEnd? (bytes : List UInt8) : Option Flaw :=
  match bytes.getLast? with
  | some b =>
    if bytes.length % 4 = 1 ∧ b ≠ pad ∧ symbolValue? b = none then
      some (.invalidSymbol b (bytes.length - 1))
    else none
  | none => none

def decodeBytes (bytes : List UInt8) : Except Flaw (List UInt8) :=
  match loneEnd? bytes with
  | some flaw => .error flaw
  | none => decodeFrom 0 bytes

/-- The bytes that a text stands for, blanks at its ends aside. -/
def decode (text : String) : Except Flaw (List UInt8) :=
  decodeBytes ((Text.trimChars text.toList).flatMap String.utf8EncodeChar)

end Vmodl.Base64
