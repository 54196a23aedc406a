import Vmodl.Client.Layout
import Vmodl.Wire.Decoded

/-!
# Values of a client

Values that a client holds, and their JSON form. A structure holds one value for each slot of its type;
on the wire a handle is its reference, whatever it holds.
-/

namespace Vmodl

open Wire

inductive Value where
  | unit
  | integer (n : Int)
  | single (bits : UInt32)
  | double (bits : UInt64)
  | boolean (b : Bool)
  | text (s : String)
  | any (j : Json)
  | dateTime (t : Instant)
  | binary (bytes : List UInt8)
  | enumeration (type : TypeName) (value : String)
  | absent
  | present (v : Value)
  | list (items : List Value)
  | record (type : TypeName) (values : List Value)
  | handle (type : TypeName) (reference : Reference) (values : List Value)
deriving Repr, Inhabited

namespace Value

/-- Whether a slot leaves its value out of the written record. -/
def omitted (slot : Slot) : Value → Bool
  | .absent => true
  | .list items => slot.omitEmpty && items.isEmpty
  | _ => false

/-- A real number in JSON, which has no infinities and no NaN. -/
def realJson (bits : Nat) : Json :=
  match BinaryFormat.double.value bits with
  | .finite _ _ _ => .number (.real bits.toUInt64)
  | _ => .null

mutual

def toJson (c : Client) : Value → Json
  | .unit => .null
  | .integer n => .number (.integer n)
  | .single bits => realJson (BinaryFormat.double.ofValue (BinaryFormat.single.value bits.toNat))
  | .double bits => realJson bits.toNat
  | .boolean b => .bool b
  | .text s => .string s
  | .any j => j
  | .dateTime t => .string t.textZulu
  | .binary bytes => .string (Base64.encode bytes)
  | .enumeration _ value => .string value
  | .absent => .null
  | .present v => toJson c v
  | .list items => .array (toJsonItems c items)
  | .record type values => .object (toJsonFields c (c.recordSlots type) values)
  | .handle _ reference _ => reference.toJson

def toJsonItems (c : Client) : List Value → List Json
  | [] => []
  | v :: rest => toJson c v :: toJsonItems c rest

/-- The members of a written record, those of its parents first. -/
def toJsonFields (c : Client) : List Slot → List Value → List (String × Json)
  | slot :: slots, v :: rest =>
    if omitted slot v then toJsonFields c slots rest
    else (slot.wireName, toJson c v) :: toJsonFields c slots rest
  | _, _ => []

end

/-- A structure taken apart: its type, what it is as a value of its parent, and its own slots with
their values. -/
structure Parts where
  type : TypeName
  base : Option Value
  own : List (Slot × Value)
deriving Repr

/-- The parts of a structure of a known type, given how to make one of the parent. -/
def Parts.ofStruct (t : StructType) (build : TypeName → List Value → Value) (values : List Value) : Parts :=
  let inherited := values.length - t.own.length
  ⟨t.name, t.base.map fun b => build b (values.take inherited), t.own.zip (values.drop inherited)⟩

def parts? (c : Client) : Value → Option Parts
  | .record type values => (c.record? type).map fun t => .ofStruct t .record values
  | .handle type reference values =>
    (c.handle? type).map fun t => .ofStruct t (fun b vs => .handle b reference vs) values
  | _ => none

end Value

end Vmodl
