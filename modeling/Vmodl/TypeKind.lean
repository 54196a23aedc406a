/-!
# Kinds of declared types
-/

namespace Vmodl

/-- An enumeration of texts, a plain value object, or an object that lives on the server. -/
inductive TypeKind where
  | enumeration
  | data
  | managed
deriving DecidableEq, Repr

namespace TypeKind

def text : TypeKind → String
  | .enumeration => "enum"
  | .data => "data"
  | .managed => "managed"

def ofText? (s : String) : Option TypeKind :=
  [.enumeration, .data, .managed].find? fun k => k.text == s

end TypeKind

/-- What a type name carries for each level of arrays around it. -/
def arrayMarker : String := "[]"

/-- The name without one array marker, if it ends in one. -/
def stripArray? (name : String) : Option String :=
  match name.toList.reverse with
  | ']' :: '[' :: rest => some (String.ofList rest.reverse)
  | _ => none

def stripArray (name : String) : String := (stripArray? name).getD name

theorem stripArray?_append (name : String) : stripArray? (name ++ arrayMarker) = some name := by
  simp [stripArray?, arrayMarker]

end Vmodl
