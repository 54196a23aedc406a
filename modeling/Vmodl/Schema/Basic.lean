import Vmodl.Json.Basic
import Vmodl.TypeKind

/-!
# Schemas

A schema declares data types, enumerations and managed types. Declarations refer to each other by
qualified name; on the wire a type goes by its wire name.
-/

namespace Vmodl

/-- The flags of a property. Bits without a meaning are kept. -/
structure PropertyFlags where
  bits : UInt32
deriving DecidableEq, Repr

namespace PropertyFlags

def none : PropertyFlags := ⟨0⟩

def has (f : PropertyFlags) (mask : UInt32) : Bool := f.bits &&& mask == mask

def link (f : PropertyFlags) : Bool := f.has 1

def linkable (f : PropertyFlags) : Bool := f.has 2

def optional (f : PropertyFlags) : Bool := f.has 4

def secret (f : PropertyFlags) : Bool := f.has 8

def withOptional (f : PropertyFlags) : PropertyFlags := ⟨f.bits ||| 4⟩

end PropertyFlags

/-- A property of a type, or a parameter of a method. -/
structure Property where
  name : String
  wireType : String
  version : String := ""
  flags : PropertyFlags := .none
  extra : Option Json := none
deriving Repr

namespace Property

def isOptional (p : Property) : Bool := p.flags.optional

def isSecret (p : Property) : Bool := p.flags.secret

def isArray (p : Property) : Bool := (stripArray? p.wireType).isSome

def withOptional (p : Property) : Property := { p with flags := p.flags.withOptional }

end Property

/-- What a method gives back; `spelledType` is the type as the document spells it elsewhere. -/
structure MethodResult where
  flags : PropertyFlags := .none
  wireType : String
  spelledType : String := wireType
deriving DecidableEq, Repr

namespace MethodResult

def void : MethodResult := { wireType := "void" }

def isOptional (r : MethodResult) : Bool := r.flags.optional

def isVoid (r : MethodResult) : Bool := r.wireType == "void"

end MethodResult

structure Method where
  name : String
  wireName : String
  version : String := ""
  parameters : List Property := []
  result : MethodResult := .void
  extra : Option Json := none
  faults : List String := []
deriving Repr

def Method.hasParameters (m : Method) : Bool := !m.parameters.isEmpty

structure EnumDecl where
  qualified : String
  wireName : String
  version : String := ""
  values : List String := []
deriving DecidableEq, Repr

structure DataDecl where
  qualified : String
  wireName : String
  version : String := ""
  parent : Option String := none
  fields : List Property := []
deriving Repr

structure ManagedDecl where
  qualified : String
  wireName : String
  version : String := ""
  parent : Option String := none
  fields : List Property := []
  methods : List Method := []
deriving Repr

structure ApiVersion where
  version : String := ""
  wireNamespace : String := ""
  versionId : String := ""
  isLegacy : Bool := false
  serviceNamespace : String := ""
  parents : List String := []
  flags : List (String × Bool) := []
deriving Repr

structure BreakingChange where
  branchName : String := ""
  vmodlNamespace : String := ""
  count : Nat := 0
deriving DecidableEq, Repr

structure Schema where
  breakingChanges : List BreakingChange := []
  dataTypes : List DataDecl := []
  enumTypes : List EnumDecl := []
  managedTypes : List ManagedDecl := []
  versions : List ApiVersion := []
deriving Repr

namespace Schema

def typeCount (s : Schema) : Nat := s.dataTypes.length + s.enumTypes.length + s.managedTypes.length

/-- The versions whose flags say that they are in a set. -/
def versionsIn (s : Schema) (set : String) : List ApiVersion :=
  s.versions.filter fun v => v.flags.lookup set == some true

end Schema

end Vmodl
