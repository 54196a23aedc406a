import Vmodl.Naming
import Vmodl.Schema.Index

/-!
# The emission plan

The declarations that a generated module emits, in schema order: enumerations, data types, managed
types. Left out are those that the index does not hold, and those whose identifier an earlier one took.
-/

namespace Vmodl

structure EmissionPlan where
  enums : List EnumDecl
  dataTypes : List DataDecl
  managedTypes : List ManagedDecl
deriving Repr

namespace EmissionPlan

/-- The declarations that are kept, the identifiers in use after them, and the warnings. -/
def keep (i : Index) (qualified wireName : α → String) (used : List String) :
    List α → List α × List String × List Warning
  | [] => ([], used, [])
  | d :: rest =>
    if i.owns (qualified d) (wireName d) then
      let ident := Naming.typeIdent (wireName d)
      if used.contains ident then
        let (kept, used, warnings) := keep i qualified wireName used rest
        (kept, used, .alreadyEmitted (qualified d) (wireName d) :: warnings)
      else
        let (kept, used, warnings) := keep i qualified wireName (ident :: used) rest
        (d :: kept, used, warnings)
    else keep i qualified wireName used rest

def withWarnings (s : Schema) (i : Index) : EmissionPlan × List Warning :=
  let (enums, used, first) := keep i (·.qualified) (·.wireName) [] s.enumTypes
  let (dataTypes, used, second) := keep i (·.qualified) (·.wireName) used s.dataTypes
  let (managedTypes, _, third) := keep i (·.qualified) (·.wireName) used s.managedTypes
  (⟨enums, dataTypes, managedTypes⟩, first ++ second ++ third)

def ofSchema (s : Schema) (i : Index) : EmissionPlan := (withWarnings s i).1

def warnings (s : Schema) (i : Index) : List Warning := (withWarnings s i).2

end EmissionPlan

end Vmodl
