import Vmodl.Client.Shape
import Vmodl.Schema.Emission

/-!
# Items of a client

What a client declares for each type of the schema: an enumeration, a record that embeds its parent, or
a handle with bound methods. Members keep the order of the schema, and their identifiers differ.
-/

namespace Vmodl

/-- A field of a record, a property of a handle or a parameter of a method. -/
structure Member where
  ident : String
  wireName : String
  type : ResolvedType
  optional : Bool
  secret : Bool
deriving DecidableEq, Repr

namespace Member

/-- The members of a declaration. The name of the embedded parent is taken. -/
def ofProperties (i : Index) (properties : List Property) : List Member :=
  let idents := (Naming.Scope.empty.reserve Naming.baseField).claimAll
    (properties.map fun p => Naming.fieldIdent p.name)
  properties.zipWith (fun p ident => ⟨ident, p.name, i.resolve p.wireType, p.isOptional, p.isSecret⟩)
    idents

def shape (m : Member) (forceOption : Bool) : Shape :=
  if m.optional || forceOption then .option (m.type.shape true) else m.type.shape true

/-- The shape in which a parameter is passed. -/
def argumentShape (m : Member) : Shape :=
  if m.optional then .option (m.type.shape false) else m.type.shape false

end Member

structure EnumItem where
  qualified : String
  wireName : String
  ident : String
  /-- The variants with the texts they stand for. -/
  variants : List (String × String)
deriving DecidableEq, Repr

def EnumItem.ofDecl (d : EnumDecl) : EnumItem :=
  ⟨d.qualified, d.wireName, Naming.typeIdent d.wireName,
    d.values.map fun value => (Naming.variantIdent value, value)⟩

structure DataItem where
  qualified : String
  wireName : String
  ident : String
  base : Option ResolvedType
  members : List Member
deriving DecidableEq, Repr

namespace DataItem

/-- The parent that a data type embeds: none, if it does not resolve to a data type. -/
def parent? (i : Index) (d : DataDecl) : Option ResolvedType :=
  (d.parent.map i.resolve).filter fun
    | .declared .data _ _ => true
    | _ => false

def ofDecl (i : Index) (d : DataDecl) : DataItem :=
  ⟨d.qualified, d.wireName, Naming.typeIdent d.wireName, parent? i d, Member.ofProperties i d.fields⟩

end DataItem

/-- A bound method. -/
structure Operation where
  name : String
  wireName : String
  ident : String
  argsIdent : String
  /-- The type whose method it is. -/
  owner : String
  /-- Whether the target is named by the type alone. -/
  rooted : Bool
  parameters : List Member
  result : ResolvedType
  resultOptional : Bool
deriving DecidableEq, Repr

namespace Operation

def ofMethod (i : Index) (rootType owner : String) (m : Method) (ident argsIdent : String) :
    Operation where
  name := m.name
  wireName := m.wireName
  ident := ident
  argsIdent := argsIdent
  owner := owner
  rooted := owner == rootType
  parameters := Member.ofProperties i m.parameters
  result := i.resolve m.result.wireType
  resultOptional := m.result.isOptional

def resultShape (o : Operation) : Shape :=
  if o.result.isVoid then .primitive .void
  else if o.resultOptional then .option (o.result.shape false) else o.result.shape false

/-- The methods of a type. Names that repeat get a number. -/
def ofDecl (i : Index) (rootType : String) (d : ManagedDecl) : List Operation :=
  let idents := Naming.Scope.empty.claimAll (d.methods.map fun m => Naming.methodIdent m.name)
  let argsIdents := Naming.Scope.empty.claimAll
    (d.methods.map fun m => Naming.argsIdent d.wireName m.name)
  d.methods.zipWith (fun m (ident, argsIdent) => ofMethod i rootType d.wireName m ident argsIdent)
    (idents.zip argsIdents)

end Operation

structure ManagedItem where
  qualified : String
  wireName : String
  ident : String
  base : ResolvedType
  members : List Member
  operations : List Operation
deriving DecidableEq, Repr

namespace ManagedItem

def rootName : String := "ManagedObject"

def root : ResolvedType := .declared .managed rootName true

/-- The parent that a managed type embeds: the root, if it does not resolve to a managed type. -/
def parent (i : Index) (d : ManagedDecl) : ResolvedType :=
  match d.parent.map i.resolve with
  | some (.declared .managed wireName builtin) => .declared .managed wireName builtin
  | _ => root

def ofDecl (i : Index) (rootType : String) (d : ManagedDecl) : ManagedItem :=
  ⟨d.qualified, d.wireName, Naming.typeIdent d.wireName, parent i d, Member.ofProperties i d.fields,
    Operation.ofDecl i rootType d⟩

end ManagedItem

end Vmodl
