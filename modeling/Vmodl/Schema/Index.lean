import Vmodl.Schema.Basic
import Vmodl.Schema.Warning
import Vmodl.Table

/-!
# The type index

The index maps qualified names to wire names. Built-in names come first, then data types, enumerations
and managed types in the order of the schema; the first definition of a name stays.
-/

namespace Vmodl

structure IndexEntry where
  wireName : String
  /-- Scalars have no kind of declared type. -/
  kind : Option TypeKind
  builtin : Bool
deriving DecidableEq, Repr

structure Index where
  entries : Table IndexEntry
deriving DecidableEq, Repr

namespace Index

def builtinScalars : List (String × String) :=
  [("vmodl.DateTime", "dateTime"), ("vmodl.Binary", "base64Binary"), ("vmodl.MethodName", "string"),
    ("vmodl.PropertyPath", "string"), ("vmodl.TypeName", "string")]

def builtinTypes : List (String × String × TypeKind) :=
  [("vmodl.DataObject", "DataObject", .data), ("vmodl.DynamicData", "DynamicData", .data),
    ("vmodl.MethodFault", "MethodFault", .data), ("vmodl.RuntimeFault", "RuntimeFault", .data),
    ("vmodl.ManagedObject", "ManagedObject", .managed)]

def builtins : Index :=
  ⟨Table.ofEntries <|
    builtinScalars.map (fun (q, tag) => (q, ⟨tag, none, true⟩)) ++
      builtinTypes.map fun (q, wire, kind) => (q, ⟨wire, some kind, true⟩)⟩

def get? (i : Index) (qualified : String) : Option IndexEntry := i.entries.lookup qualified

def kind? (i : Index) (qualified : String) : Option TypeKind := (i.get? qualified).bind (·.kind)

def isBuiltin (i : Index) (qualified : String) : Bool := (i.get? qualified).any (·.builtin)

/-- Whether a declaration is the one that the index holds under its qualified name. -/
def owns (i : Index) (qualified wireName : String) : Bool :=
  (i.get? qualified).any fun e => !e.builtin && e.wireName == wireName

def size (i : Index) : Nat := i.entries.length

/-- A declaration as the index sees it. -/
structure Entry where
  qualified : String
  wireName : String
  kind : TypeKind
deriving DecidableEq, Repr

/-- The declarations of a schema in the order of the index. -/
def declarations (s : Schema) : List Entry :=
  s.dataTypes.map (fun d => ⟨d.qualified, d.wireName, .data⟩) ++
    s.enumTypes.map (fun d => ⟨d.qualified, d.wireName, .enumeration⟩) ++
    s.managedTypes.map fun d => ⟨d.qualified, d.wireName, .managed⟩

/-- Adds a declaration unless its name is taken. -/
def add (i : Index) (e : Entry) : Index :=
  match i.get? e.qualified with
  | some _ => i
  | none => ⟨i.entries.insert e.qualified ⟨e.wireName, some e.kind, false⟩⟩

def ofSchema (s : Schema) : Index := (declarations s).foldl add builtins

/-- The warnings of adding declarations to an index. -/
def warningsFrom (i : Index) : List Entry → List Warning
  | [] => []
  | e :: rest =>
    match i.get? e.qualified with
    | some existing => .alreadyIndexed e.qualified existing.wireName :: warningsFrom i rest
    | none => warningsFrom (i.add e) rest

def warnings (s : Schema) : List Warning := builtins.warningsFrom (declarations s)

end Index

end Vmodl
