import Vmodl.Naming
import Vmodl.Schema.Resolved

/-!
# Shapes of values

The shape of a value that a client holds: a scalar, a named type, or one of these in a box, a list or
an option. A box keeps types that refer to themselves finite and is invisible otherwise.
-/

namespace Vmodl

/-- Where a named type lives, and what it is called there. -/
structure TypeName where
  builtin : Bool
  ident : String
deriving DecidableEq, Repr

inductive Shape where
  | primitive (p : Primitive)
  | named (kind : TypeKind) (name : TypeName)
  | boxed (inner : Shape)
  | list (element : Shape)
  | option (inner : Shape)
deriving DecidableEq, Repr

namespace ResolvedType

def typeName? : ResolvedType → Option TypeName
  | .declared _ wireName builtin => some ⟨builtin, Naming.typeIdent wireName⟩
  | _ => none

/-- The shape of values of this type. Elements of a list need no box, and neither do enumerations. -/
def shape (boxed : Bool) : ResolvedType → Shape
  | .primitive p => .primitive p
  | .declared kind wireName builtin =>
    let named := .named kind ⟨builtin, Naming.typeIdent wireName⟩
    if boxed && kind != .enumeration then .boxed named else named
  | .array element => .list (element.shape false)
  | .unknown _ => .primitive .any

end ResolvedType

end Vmodl
