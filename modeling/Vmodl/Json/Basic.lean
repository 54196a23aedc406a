import Vmodl.Number.Shortest

/-!
# JSON values

Objects are lists of members in document order. `Json.insert` keeps one member per name: a repeated
name keeps its first place and takes the last value.
-/

namespace Vmodl

/-- A number is an integer of 64 bits, signed or unsigned, or else the bit pattern of a double. -/
inductive Json.Number where
  | integer (n : Int)
  | real (bits : UInt64)
deriving DecidableEq, Repr

inductive Json where
  | null
  | bool (b : Bool)
  | number (n : Json.Number)
  | string (s : String)
  | array (items : List Json)
  | object (members : List (String × Json))
deriving BEq, Repr, Inhabited

namespace Json

abbrev Members := List (String × Json)

def Members.insert (members : Members) (name : String) (value : Json) : Members :=
  match members with
  | [] => [(name, value)]
  | (n, v) :: rest => if n = name then (n, value) :: rest else (n, v) :: Members.insert rest name value

def Members.erase (members : Members) (name : String) : Members :=
  members.filter fun m => m.1 != name

/-- The value of a member, if this is an object that has it. -/
def get? (j : Json) (name : String) : Option Json :=
  match j with
  | .object members => members.lookup name
  | _ => none

namespace Number

/-- Integers that a document can hold as integers. -/
def InRange (n : Int) : Prop := -0x8000000000000000 ≤ n ∧ n < UInt64.size

instance (n : Int) : Decidable (InRange n) := inferInstanceAs (Decidable (_ ∧ _))

def toDouble : Number → Nat
  | .integer n => BinaryFormat.double.ofInt n
  | .real bits => bits.toNat

/-- Reals keep at least one decimal place; from `1e16` upward and below `1e-5` they are written in
scientific form. No document holds an infinity or a NaN. -/
def realText (bits : Nat) : String :=
  match BinaryFormat.double.value bits with
  | .finite negative m q =>
    let d := Decimal.shortest .double m q
    let body :=
      if m = 0 then "0.0"
      else if d.leading < -5 ∨ 16 ≤ d.leading then d.scientific
      else if 0 ≤ d.exponent then d.positional ++ ".0" else d.positional
    if negative then "-" ++ body else body
  | _ => "null"

def text : Number → String
  | .integer n => toString n
  | .real bits => realText bits.toNat

end Number

end Json

end Vmodl
