import Vmodl.Registry
import Vmodl.Schema.Index

/-!
# Resolved types

A wire type of the schema is a scalar tag or a qualified name, with an array marker for each level of
arrays around it. Resolution never fails: a name that the index does not know stays as it is and
stands for an untyped value.
-/

namespace Vmodl

inductive Primitive where
  | byte
  | short
  | int
  | long
  | float
  | double
  | boolean
  | string
  | void
  | any
  | dateTime
  | binary
deriving DecidableEq, Repr

namespace Primitive

def all : List Primitive :=
  [.byte, .short, .int, .long, .float, .double, .boolean, .string, .void, .any, .dateTime, .binary]

def tag : Primitive → String
  | .byte => "byte"
  | .short => "short"
  | .int => "int"
  | .long => "long"
  | .float => "float"
  | .double => "double"
  | .boolean => "boolean"
  | .string => "string"
  | .void => "void"
  | .any => "anyType"
  | .dateTime => "dateTime"
  | .binary => "base64Binary"

def ofTag? (tag : String) : Option Primitive := all.find? fun p => p.tag == tag

end Primitive

inductive ResolvedType where
  | primitive (p : Primitive)
  | declared (kind : TypeKind) (wireName : String) (builtin : Bool)
  | array (element : ResolvedType)
  | unknown (name : String)
deriving DecidableEq, Repr

namespace ResolvedType

def isVoid : ResolvedType → Bool
  | .primitive .void => true
  | _ => false

def isArray : ResolvedType → Bool
  | .array _ => true
  | _ => false

/-- The key under which a value of this type is decoded. Unknown names are their own key. -/
def key : ResolvedType → String
  | .primitive p => p.tag
  | .declared _ wireName _ => wireName
  | .array element => element.key ++ arrayMarker
  | .unknown name => name

/-- How the registry types a field of this type. -/
def fieldType : ResolvedType → FieldType
  | .primitive p => .scalar p.tag
  | .declared .enumeration wireName _ => .enumeration wireName
  | .declared .data wireName _ => .data wireName
  | .declared .managed wireName _ => .managed wireName
  | .array element => .array element.fieldType
  | .unknown name => .scalar name

/-- The type under the array markers. -/
def leaf : ResolvedType → ResolvedType
  | .array element => element.leaf
  | t => t

end ResolvedType

namespace Index

/-- The type of a name without array marker. -/
def resolveName (i : Index) (name : String) : ResolvedType :=
  match Primitive.ofTag? name with
  | some p => .primitive p
  | none =>
    match i.get? name with
    | some ⟨wireName, some kind, builtin⟩ => .declared kind wireName builtin
    | some ⟨wireName, none, _⟩ =>
      match Primitive.ofTag? wireName with
      | some p => .primitive p
      | none => .unknown name
    | none => .unknown name

/-- The type of a name that is given in reverse. -/
def resolveReversed (i : Index) : List Char → ResolvedType
  | ']' :: '[' :: rest => .array (resolveReversed i rest)
  | name => i.resolveName (String.ofList name.reverse)

def resolve (i : Index) (wireType : String) : ResolvedType := i.resolveReversed wireType.toList.reverse

def resolveWarnings (i : Index) (wireType : String) : List Warning :=
  match (i.resolve wireType).leaf with
  | .unknown name => [.unresolved name]
  | _ => []

end Index

end Vmodl
