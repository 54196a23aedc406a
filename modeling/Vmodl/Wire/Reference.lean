import Vmodl.Failure
import Vmodl.Registry
import Vmodl.Wire.Envelope

/-!
# References and parameters

A managed object is named by its type and a handle. The parameters of a call are an object whose
first member `_this` names the target; no argument can replace it.
-/

namespace Vmodl.Wire

structure Reference where
  typeName : String
  handle : String
deriving DecidableEq, Repr

namespace Reference

def text (r : Reference) : String := r.typeName ++ ":" ++ r.handle

def toJson (r : Reference) : Json :=
  .object [(attributesKey, .object [("type", .string r.typeName)]), (valueKey, .string r.handle)]

end Reference

/-- The target of a call: an entry point known by name alone, or a managed object. -/
inductive Target where
  | root (name : String)
  | managed (reference : Reference)
deriving DecidableEq, Repr

namespace Target

def toJson : Target → Json
  | .root name => .string name
  | .managed reference => reference.toJson

def text : Target → String
  | .root name => name
  | .managed reference => reference.text

/-- The parameters of a call without arguments. -/
def parameters (t : Target) : Json := .object [(thisField, t.toJson)]

/-- The parameters of a call with named arguments. -/
def withMembers (t : Target) (members : Json.Members) : Json :=
  .object ((thisField, t.toJson) :: Json.Members.erase members thisField)

/-- The parameters of a call with arguments, which are an object, or null for none. -/
def withArguments (t : Target) (arguments : Json) : Except Failure Json :=
  match arguments with
  | .object members => .ok (t.withMembers members)
  | .null => .ok t.parameters
  | other => .error (.invalidParameters other)

end Target

end Vmodl.Wire
