import Vmodl.Failure
import Vmodl.Table
import Vmodl.Wire.Reference

/-!
# Decoded values

A decoded value is a reply read under a type key, before it is given a type of the client.
-/

namespace Vmodl.Wire

/-- The fields of an object are a table, so they are kept in the order of their names. -/
inductive Decoded where
  | null
  | scalar (value : Json)
  | dateTime (instant : Instant)
  | binary (bytes : List UInt8)
  | list (items : List Decoded)
  | object (typeKey : String) (handle : Option String) (fields : List (String × Decoded))
deriving Repr, Inhabited

structure DecodedObject where
  typeKey : String
  handle : Option String
  fields : Table Decoded
deriving Repr

namespace DecodedObject

def decoded (o : DecodedObject) : Decoded := .object o.typeKey o.handle o.fields

/-- The object that a bare handle stands for. -/
def ofHandle (typeKey handle : String) : DecodedObject := ⟨typeKey, some handle, []⟩

def withField (o : DecodedObject) (name : String) (value : Decoded) : DecodedObject :=
  { o with fields := o.fields.insert name value }

/-- The value of a field, which is null if the object has none, and the object without it. -/
def remove (o : DecodedObject) (name : String) : Decoded × DecodedObject :=
  ((o.fields.lookup name).getD .null, { o with fields := o.fields.erase name })

def reference (o : DecodedObject) : Except Failure Reference :=
  match o.handle with
  | some handle => .ok ⟨o.typeKey, handle⟩
  | none => .error (.malformed o.typeKey .noReference)

end DecodedObject

namespace Decoded

def isNull : Decoded → Bool
  | .null => true
  | _ => false

def form : Decoded → Form
  | .null => .null
  | .scalar _ => .scalar
  | .dateTime _ => .dateTime
  | .binary _ => .binary
  | .list _ => .list
  | .object .. => .object

/-- The object that a value is. A bare text is the handle of an object of the wanted type. -/
def toObject (wanted : String) : Decoded → Except Failure DecodedObject
  | .object typeKey handle fields => .ok ⟨typeKey, handle, fields⟩
  | .scalar (.string handle) => .ok (.ofHandle wanted handle)
  | .null => .error (.missing wanted)
  | other => .error (.malformed wanted (.unwantedForm .object other.form))

mutual

/-- The value as untyped JSON. The handle of an object is its first member. -/
def toJson : Decoded → Json
  | .null => .null
  | .scalar value => value
  | .dateTime instant => .string instant.text
  | .binary bytes => .string (Base64.encode bytes)
  | .list items => .array (toJsonItems items)
  | .object _ handle fields =>
    let start := match handle with
      | some handle => [(valueKey, .string handle)]
      | none => []
    .object (toJsonFields start fields)

def toJsonItems : List Decoded → List Json
  | [] => []
  | d :: rest => toJson d :: toJsonItems rest

def toJsonFields (members : Json.Members) : List (String × Decoded) → Json.Members
  | [] => members
  | (name, d) :: rest => toJsonFields (members.insert name (toJson d)) rest

end

end Decoded

end Vmodl.Wire
