import Vmodl.Table
import Vmodl.TypeKind

/-!
# Registries of described types

A registry says, for each type name it knows, what kind of type it is, which type it extends and how
its own fields are typed. Look-ups along the chain of parents are bounded by the number of types, so
they end on chains that run in circles.
-/

namespace Vmodl

/-- How the value of a field is typed. -/
inductive FieldType where
  | scalar (key : String)
  | enumeration (key : String)
  | data (key : String)
  | managed (key : String)
  | array (element : FieldType)
deriving DecidableEq, Repr

/-- The key under which a value of this type is decoded. -/
def FieldType.key : FieldType → String
  | .scalar key | .enumeration key | .data key | .managed key => key
  | .array element => element.key ++ arrayMarker

structure TypeEntry where
  kind : TypeKind
  parent : Option String
  fields : Table FieldType
deriving DecidableEq, Repr

/-- The field under which every call names its target. -/
def thisField : String := "_this"

structure Registry where
  types : Table TypeEntry
deriving DecidableEq, Repr

namespace Registry

def empty : Registry := ⟨[]⟩

def entry? (r : Registry) (name : String) : Option TypeEntry := r.types.lookup name

def kind? (r : Registry) (name : String) : Option TypeKind := (r.entry? name).map (·.kind)

def isManaged (r : Registry) (name : String) : Bool := r.kind? name == some .managed

def contains (r : Registry) (name : String) : Bool := (r.entry? name).isSome

def size (r : Registry) : Nat := r.types.length

def put (r : Registry) (name : String) (e : TypeEntry) : Registry := ⟨r.types.insert name e⟩

def registerEnum (r : Registry) (name : String) : Registry := r.put name ⟨.enumeration, none, []⟩

/-- Has no effect on a name that is registered as managed. -/
def registerData (r : Registry) (name : String) (parent : Option String)
    (fields : List (String × FieldType)) : Registry :=
  if r.isManaged name then r else r.put name ⟨.data, parent, Table.ofEntries fields⟩

def registerManaged (r : Registry) (name : String) (parent : Option String)
    (fields : List (String × FieldType)) : Registry :=
  r.put name ⟨.managed, parent, Table.ofEntries fields⟩

/-- The types that every client knows. -/
def builtins : Registry :=
  empty
    |>.registerData "DataObject" none []
    |>.registerData "DynamicData" (some "DataObject") []
    |>.registerData "MethodFault" (some "DynamicData")
      [("faultCause", .scalar "anyType"), ("faultMessage", .array (.scalar "anyType"))]
    |>.registerData "RuntimeFault" (some "MethodFault") []
    |>.registerManaged "ManagedObject" none [(thisField, .managed "ManagedObject")]

/-- The parent that a registered type names, which need not be registered itself. -/
def parent? (r : Registry) (name : String) : Option String := (r.entry? name).bind (·.parent)

/-- The type that a type itself gives to a field. -/
def ownField? (r : Registry) (name field : String) : Option FieldType :=
  (r.entry? name).bind (·.fields.lookup field)

/-- The field on the first of at most `steps + 1` types, from `name` along the parents. -/
def fieldWithin (r : Registry) : Nat → String → String → Option FieldType
  | 0, name, field => r.ownField? name field
  | steps + 1, name, field =>
    match r.ownField? name field with
    | some t => some t
    | none => (r.parent? name).bind fun parent => fieldWithin r steps parent field

/-- The type of a field, on the nearest type that declares it. -/
def field? (r : Registry) (name field : String) : Option FieldType := r.fieldWithin r.size name field

def subtypeWithin (r : Registry) : Nat → String → String → Bool
  | 0, name, ancestor => name == ancestor
  | steps + 1, name, ancestor =>
    name == ancestor || (r.parent? name).any fun parent => subtypeWithin r steps parent ancestor

/-- Whether a type is another one or extends it, directly or further up. -/
def isSubtype (r : Registry) (name ancestor : String) : Bool :=
  r.subtypeWithin (r.size + 1) name ancestor

end Registry

inductive Registration where
  | enumeration (name : String)
  | data (name : String) (parent : Option String) (fields : List (String × FieldType))
  | managed (name : String) (parent : Option String) (fields : List (String × FieldType))
deriving DecidableEq, Repr

def Registration.apply (r : Registry) : Registration → Registry
  | .enumeration name => r.registerEnum name
  | .data name parent fields => r.registerData name parent fields
  | .managed name parent fields => r.registerManaged name parent fields

def Registry.run (r : Registry) (steps : List Registration) : Registry :=
  steps.foldl Registration.apply r

end Vmodl
