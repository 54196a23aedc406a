/-!
# Warnings

What the generator reports about a schema and goes on.
-/

namespace Vmodl

inductive Warning where
  | alreadyIndexed (qualified existing : String)
  | alreadyEmitted (qualified wireName : String)
  | unresolved (wireType : String)
  | dataParentDropped (typeName parent : String)
  | managedParentReplaced (typeName parent : String)
deriving DecidableEq, Repr

namespace Warning

def message : Warning → String
  | .alreadyIndexed .. => "type already indexed, keeping the first definition"
  | .alreadyEmitted .. => "type name already emitted, skipping"
  | .unresolved _ => "unresolved type reference, using an opaque value"
  | .dataParentDropped .. =>
    "data type parent does not resolve to a data type, emitting without a base"
  | .managedParentReplaced .. =>
    "managed type parent does not resolve to a managed type, using the runtime root"

/-- What the warning is about, by name. -/
def fields : Warning → List (String × String)
  | .alreadyIndexed qualified existing => [("existing", existing), ("qualified", qualified)]
  | .alreadyEmitted qualified wireName => [("qualified", qualified), ("wire_name", wireName)]
  | .unresolved wireType => [("wire_type", wireType)]
  | .dataParentDropped typeName parent => [("parent", parent), ("type_name", typeName)]
  | .managedParentReplaced typeName parent => [("parent", parent), ("type_name", typeName)]

end Warning

end Vmodl
