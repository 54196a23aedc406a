import Vmodl.Json.Basic

/-!
# Envelopes

The wire may box a value as an object whose `$value` member holds it and whose `attributes` name its
type.
-/

namespace Vmodl.Wire

def valueKey : String := "$value"

def attributesKey : String := "attributes"

/-- The value in the box, or the value itself. -/
def unwrap (j : Json) : Json := (j.get? valueKey).getD j

/-- The part of a qualified name after its last colon. -/
def localName (name : String) : String :=
  String.ofList (name.toList.reverse.takeWhile (· != ':')).reverse

/-- The type that an object says it has. A `type` counts only where there is no `xsi:type`. -/
def discriminator? (members : Json.Members) : Option String := do
  let attributes ← match members.lookup attributesKey with
    | some (.object attributes) => some attributes
    | _ => none
  let raw ← (attributes.lookup "xsi:type").or (attributes.lookup "type")
  match raw with
  | .string name => some (localName name)
  | _ => none

end Vmodl.Wire
