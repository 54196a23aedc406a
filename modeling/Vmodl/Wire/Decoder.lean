import Vmodl.Wire.Decoded

/-!
# The decoder

A reply is read under a type key. Null is null under any key, the empty key keeps the value as it is,
and each array marker of the key takes in one level of arrays. Other keys read the value as a date, as
bytes, as a scalar or as an object whose fields are typed by the registry. The type that an object
names for itself counts if it extends the one that the key names.
-/

namespace Vmodl.Wire

def dateTimeKey : String := "dateTime"

def binaryKey : String := "base64Binary"

def literalKeys : List String :=
  ["byte", "short", "int", "long", "float", "double", "boolean", "string", "anyType", "void"]

def isLiteral (key : String) : Bool := literalKeys.contains key

def readInstant (text : String) : Except Failure Instant :=
  (Instant.ofText text).mapError (.invalidDateTime text)

def readBytes (text : String) : Except Failure (List UInt8) :=
  (Base64.decode text).mapError .invalidBinary

/-- How values are read under a key without array marker. -/
inductive Reading where
  | dateTime
  | binary
  | scalar
  | declared
deriving DecidableEq, Repr

def reading (r : Registry) (key : String) : Reading :=
  if key = dateTimeKey then .dateTime
  else if key = binaryKey then .binary
  else if isLiteral key || r.kind? key == some .enumeration then .scalar
  else .declared

/-- The type under which an object is read. -/
def effectiveType (r : Registry) (declared : String) (members : Json.Members) : String :=
  match discriminator? members with
  | some actual => if actual ≠ declared ∧ r.isSubtype actual declared then actual else declared
  | none => declared

def decodeDateTime (key : String) (j : Json) : Except Failure Decoded :=
  match unwrap j with
  | .string text => (readInstant text).map .dateTime
  | other => .error (.malformed key (.unwantedJson .string other))

def decodeBinary (key : String) (j : Json) : Except Failure Decoded :=
  match unwrap j with
  | .string text => (readBytes text).map .binary
  | other => .error (.malformed key (.unwantedJson .string other))

/-- A value that is neither an array nor an object, under a key without array marker. -/
def decodeAtom (r : Registry) (key : String) (j : Json) : Except Failure Decoded :=
  match reading r key with
  | .dateTime => decodeDateTime key j
  | .binary => decodeBinary key j
  | .scalar => .ok (.scalar j)
  | .declared =>
    match r.kind? key with
    | some .managed =>
      match j with
      | .string handle => .ok (DecodedObject.ofHandle key handle).decoded
      | other => .error (.malformed key (.unwantedJson .reference other))
    | some .data => .error (.malformed key (.unwantedJson .object j))
    | _ => .ok (.scalar j)

/-- The handle that an object carries. What is not a text is kept as JSON text. -/
def handleOf (members : Json.Members) : Option String :=
  match (members.lookup valueKey).map unwrap with
  | some (.string handle) => some handle
  | some .null => none
  | some other => some other.text
  | none => none

/-- Whether a member of an object is one of its fields. Plain data may have a field `$value`. -/
def isField (kind : TypeKind) (name : String) : Bool :=
  name != attributesKey && (kind != .managed || name != valueKey)

mutual

def decode (r : Registry) (key : String) : Json → Except Failure Decoded
  | .null => .ok .null
  | .array items =>
    if key = "" then .ok (.scalar (.array items))
    else (decodeItems r (stripArray key) items).map .list
  | .object members =>
    if key = "" then .ok (.scalar (unwrap (.object members)))
    else
      let key := stripArray key
      match reading r key with
      | .dateTime => decodeDateTime key (.object members)
      | .binary => decodeBinary key (.object members)
      | .scalar => .ok (.scalar (unwrap (.object members)))
      | .declared =>
        let type := effectiveType r key members
        match r.kind? type with
        | some .managed =>
          (decodeFields r .managed type [] members).map (.object type (handleOf members))
        | some .data => (decodeFields r .data type [] members).map (.object type none)
        | some .enumeration => .ok (.scalar (unwrap (.object members)))
        | none => .ok (.scalar (.object members))
  | other => if key = "" then .ok (.scalar other) else decodeAtom r (stripArray key) other

def decodeItems (r : Registry) (key : String) : List Json → Except Failure (List Decoded)
  | [] => .ok []
  | j :: rest => do
    let d ← decode r key j
    let ds ← decodeItems r key rest
    return d :: ds

/-- The fields of an object of type `owner`. A field that is not described is kept as it is. -/
def decodeFields (r : Registry) (kind : TypeKind) (owner : String) (fields : Table Decoded) :
    List (String × Json) → Except Failure (Table Decoded)
  | [] => .ok fields
  | (name, j) :: rest =>
    if isField kind name then do
      let d ← match r.field? owner name with
        | some type => decode r type.key j
        | none => .ok (.scalar j)
      decodeFields r kind owner (fields.insert name d) rest
    else decodeFields r kind owner fields rest

end

/-- What the decoder reports while it works. -/
inductive Event where
  | decoding (typeKey : String)
  | polymorphic (declared actual : String)
  | ignoredType (declared actual : String)
  | undescribed (owner field : String)
deriving DecidableEq, Repr

/-- The report on the type that an object names for itself. -/
def typeEvents (r : Registry) (declared : String) (members : Json.Members) : List Event :=
  match discriminator? members with
  | some actual =>
    if actual = declared then []
    else if r.isSubtype actual declared then [.polymorphic declared actual]
    else [.ignoredType declared actual]
  | none => []

mutual

/-- The events of `decode`, up to the first failure. -/
def events (r : Registry) (key : String) : Json → List Event
  | .array items =>
    .decoding key :: if key = "" then [] else eventsItems r (stripArray key) items
  | .object members =>
    .decoding key ::
      if key = "" then []
      else
        let key := stripArray key
        match reading r key with
        | .declared =>
          let type := effectiveType r key members
          typeEvents r key members ++
            match r.kind? type with
            | some .managed => eventsFields r .managed type members
            | some .data => eventsFields r .data type members
            | _ => []
        | _ => []
  | _ => [.decoding key]

def eventsItems (r : Registry) (key : String) : List Json → List Event
  | [] => []
  | j :: rest =>
    events r key j ++ if (decode r key j).isOk then eventsItems r key rest else []

def eventsFields (r : Registry) (kind : TypeKind) (owner : String) :
    List (String × Json) → List Event
  | [] => []
  | (name, j) :: rest =>
    if isField kind name then
      match r.field? owner name with
      | some type =>
        events r type.key j ++
          if (decode r type.key j).isOk then eventsFields r kind owner rest else []
      | none => .undescribed owner name :: eventsFields r kind owner rest
    else eventsFields r kind owner rest

end

end Vmodl.Wire
