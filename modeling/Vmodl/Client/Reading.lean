import Vmodl.Client.Scalar

/-!
# Reading decoded values

A decoded value is read in the shape that a client wants. Null is an absent option or an empty list, and
is missing anywhere else; a value that is no list counts as a list of one. A structure takes its fields
out of an object one by one, those of its parents first, and stops at the first that fails.
-/

namespace Vmodl

open Wire

/-- A part of a decoded value, with what it reads as in each shape. -/
structure Part where
  value : Decoded
  read : Shape → Except Failure Value

/-- An object whose fields are ready to be taken. -/
structure OpenObject where
  typeKey : String
  handle : Option String
  parts : Table Part

namespace OpenObject

/-- The object with the fields that are left. -/
def close (o : OpenObject) : DecodedObject := ⟨o.typeKey, o.handle, o.parts.map fun (n, p) => (n, p.value)⟩

def reference (o : OpenObject) : Except Failure Reference :=
  match o.handle with
  | some handle => .ok ⟨o.typeKey, handle⟩
  | none => .error (.malformed o.typeKey .noReference)

end OpenObject

namespace Client

variable (c : Client)

def enumKey (name : TypeName) : String := ((c.enum? name).map (·.wireName)).getD name.ident

def readNull : Shape → Except Failure Value
  | .primitive p => p.read .null
  | .named .enumeration name => .error (.missing (c.enumKey name))
  | .named .data name => .error (.missing (c.recordKey name))
  | .named .managed name => .error (.missing (c.handleKey name))
  | .boxed inner => readNull inner
  | .list _ => .ok (.list [])
  | .option _ => .ok .absent

/-- Takes a field out of an object. A field that is not there is null, and a missing value that is the
field itself is named after the object's type and the field. -/
def take (o : OpenObject) (name : String) (shape : Shape) : Except Failure Value × OpenObject :=
  let rest := { o with parts := o.parts.erase name }
  let (isNull, read) := match o.parts.lookup name with
    | some part => (part.value.isNull, part.read shape)
    | none => (true, c.readNull shape)
  match read with
  | .error (.missing key) => (.error (.missing (if isNull then o.typeKey ++ "." ++ name else key)), rest)
  | read => (read, rest)

/-- Takes the fields of a list of slots, up to the first that fails. -/
def takeAll (o : OpenObject) : List Slot → Except Failure (List Value) × OpenObject
  | [] => (.ok [], o)
  | slot :: slots =>
    match c.take o slot.wireName slot.shape with
    | (.error e, o) => (.error e, o)
    | (.ok v, o) =>
      match takeAll o slots with
      | (.error e, o) => (.error e, o)
      | (.ok vs, o) => (.ok (v :: vs), o)

/-- A handle without property values. -/
def newHandle (name : TypeName) (reference : Reference) : Value :=
  .handle name reference ((c.handleSlots name).map fun _ => .absent)

/-- A handle with the property values that an object has for it. -/
def construct (name : TypeName) (reference : Reference) (init : OpenObject) :
    Except Failure Value × OpenObject :=
  let (values, rest) := c.takeAll init (c.handleSlots name)
  (values.map (.handle name reference), rest)

end Client

/-- A decoded value whose parts are ready to be read. -/
structure Node where
  value : Decoded
  items : List Part := []
  fields : Table Part := []

namespace Node

variable (c : Client) (n : Node)

/-- The object that the value is, with its parts. -/
def toObject (wanted : String) : Except Failure OpenObject :=
  (n.value.toObject wanted).map fun o => ⟨o.typeKey, o.handle, n.fields⟩

def readEnum (name : TypeName) : Except Failure Value :=
  match n.value with
  | .null => .error (.missing (c.enumKey name))
  | .scalar (.string text) =>
    if (c.enum? name).any fun e => e.variants.any fun v => v.2 == text then .ok (.enumeration name text)
    else .error (.unknownEnumValue (c.enumKey name) text)
  | other => .error (.malformed (c.enumKey name) (.unwantedForm .string other.form))

def readRecord (name : TypeName) : Except Failure Value := do
  let o ← n.toObject (c.recordKey name)
  (c.takeAll o (c.recordSlots name)).1.map (.record name)

def readHandle (name : TypeName) : Except Failure Value := do
  let o ← n.toObject (c.handleKey name)
  let reference ← o.reference
  if o.parts.isEmpty then return c.newHandle name reference
  else (c.construct name reference o).1

def read : Shape → Except Failure Value
  | .primitive p => p.read n.value
  | .named .enumeration name => n.readEnum c name
  | .named .data name => n.readRecord c name
  | .named .managed name => n.readHandle c name
  | .boxed inner => read inner
  | .option inner => if n.value.isNull then .ok .absent else (read inner).map .present
  | .list element =>
    match n.value with
    | .null => .ok (.list [])
    | .list _ => (n.items.mapM fun p : Part => p.read element).map .list
    | _ => (read element).map fun v => .list [v]

end Node

namespace Client

variable (c : Client)

mutual

def node : Decoded → Node
  | .list items => { value := .list items, items := itemParts items }
  | .object typeKey handle fields =>
    { value := .object typeKey handle fields, fields := fieldParts fields }
  | d => { value := d }

def itemParts : List Decoded → List Part
  | [] => []
  | d :: rest => ⟨d, (node d).read c⟩ :: itemParts rest

def fieldParts : List (String × Decoded) → Table Part
  | [] => []
  | (name, d) :: rest => (name, ⟨d, (node d).read c⟩) :: fieldParts rest

end

def read (d : Decoded) (shape : Shape) : Except Failure Value := (c.node d).read c shape

/-- An object whose fields can be taken. -/
def openObject (o : DecodedObject) : OpenObject := ⟨o.typeKey, o.handle, c.fieldParts o.fields⟩

/-- Decodes a raw value under a key and reads it in a shape. -/
def reconstruct (r : Registry) (key : String) (raw : Json) (shape : Shape) : Except Failure Value := do
  c.read (← decode r key raw) shape

end Client

end Vmodl
