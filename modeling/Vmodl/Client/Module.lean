import Vmodl.Client.Items

/-!
# The client module

The module that is generated for a schema, as data: its items, the registrations that describe its types
to the decoder, and the functions by which a program enters the service.
-/

namespace Vmodl

/-- The way into a service: the handle of its root type, and its content. -/
structure EntryPoint where
  rootType : String
  rootIdent : String
  ident : String
  content : Option Operation
deriving DecidableEq, Repr

structure ClientModule where
  enums : List EnumItem
  dataTypes : List DataItem
  managedTypes : List ManagedItem
  registrations : List Registration
  rootType : String
  entry : Option EntryPoint
deriving DecidableEq, Repr

namespace ClientModule

/-- The method that gives the content of a service. -/
def retrieveContent : String := "RetrieveServiceContent"

/-- How the registry types the properties of a declaration. -/
def fieldTypes (i : Index) (properties : List Property) : List (String × FieldType) :=
  properties.map fun p => (p.name, (i.resolve p.wireType).fieldType)

def dataRegistration (i : Index) (d : DataDecl) : Registration :=
  .data d.wireName ((DataItem.parent? i d).map (·.key)) (fieldTypes i d.fields)

/-- A managed type has itself as the type of its target. -/
def managedRegistration (i : Index) (d : ManagedDecl) : Registration :=
  .managed d.wireName (some (ManagedItem.parent i d).key)
    (fieldTypes i d.fields ++ [(thisField, .managed d.wireName)])

/-- The registrations of a plan: enumerations, data types, managed types. -/
def registrationsOf (i : Index) (plan : EmissionPlan) : List Registration :=
  plan.enums.map (fun d => .enumeration d.wireName) ++ plan.dataTypes.map (dataRegistration i) ++
    plan.managedTypes.map (managedRegistration i)

/-- The content of a service needs a method without parameters that gives a result. -/
def contentOf (operations : List Operation) : Option Operation :=
  (operations.find? fun o => o.wireName == retrieveContent && o.parameters.isEmpty).filter
    fun o => !o.result.isVoid

def entryOf (i : Index) (rootType : String) (plan : EmissionPlan) : Option EntryPoint :=
  (plan.managedTypes.find? fun d => d.wireName == rootType).map fun d =>
    ⟨rootType, Naming.typeIdent rootType, Naming.methodIdent rootType,
      contentOf (Operation.ofDecl i rootType d)⟩

def ofPlan (i : Index) (rootType : String) (plan : EmissionPlan) : ClientModule where
  enums := plan.enums.map EnumItem.ofDecl
  dataTypes := plan.dataTypes.map (DataItem.ofDecl i)
  managedTypes := plan.managedTypes.map (ManagedItem.ofDecl i rootType)
  registrations := registrationsOf i plan
  rootType := rootType
  entry := entryOf i rootType plan

def ofSchema (s : Schema) (rootType : String) : ClientModule :=
  let i := Index.ofSchema s
  ofPlan i rootType (EmissionPlan.ofSchema s i)

def registry (m : ClientModule) : Registry := Registry.builtins.run m.registrations

end ClientModule

/-! ### Warnings -/

namespace Warning

def ofProperties (i : Index) (properties : List Property) : List Warning :=
  properties.flatMap fun p => i.resolveWarnings p.wireType

def ofData (i : Index) (d : DataDecl) : List Warning :=
  let parent := match d.parent, DataItem.parent? i d with
    | some parent, none => i.resolveWarnings parent ++ [.dataParentDropped d.wireName parent]
    | _, _ => []
  parent ++ ofProperties i d.fields

def ofManagedFields (i : Index) (d : ManagedDecl) : List Warning :=
  let parent := match d.parent with
    | some parent =>
      match i.resolve parent with
      | .declared .managed _ _ => []
      | _ => i.resolveWarnings parent ++ [.managedParentReplaced d.wireName parent]
    | none => []
  parent ++ ofProperties i d.fields

def ofMethod (i : Index) (m : Method) : List Warning :=
  i.resolveWarnings m.result.wireType ++ ofProperties i m.parameters

def ofManaged (i : Index) (d : ManagedDecl) : List Warning :=
  ofManagedFields i d ++ d.methods.flatMap (ofMethod i)

/-- The warnings of describing the types of a plan to the decoder, and of its entry point. -/
def ofDescriptions (i : Index) (rootType : String) (plan : EmissionPlan) : List Warning :=
  let entry : Option (List Warning) := do
    let d ← plan.managedTypes.find? fun d => d.wireName == rootType
    let m ← d.methods.find? fun m => m.wireName == ClientModule.retrieveContent && !m.hasParameters
    return i.resolveWarnings m.result.wireType
  plan.dataTypes.flatMap (ofData i) ++ plan.managedTypes.flatMap (ofManagedFields i) ++ entry.getD []

/-- The warnings of the registrations alone: those of the plan that they are made for come first. -/
def ofRegistrations (s : Schema) (rootType : String) : List Warning :=
  let i := Index.ofSchema s
  EmissionPlan.warnings s i ++ ofDescriptions i rootType (EmissionPlan.ofSchema s i)

def ofSchema (s : Schema) (rootType : String) : List Warning :=
  let i := Index.ofSchema s
  let plan := EmissionPlan.ofSchema s i
  Index.warnings s ++ EmissionPlan.warnings s i ++ plan.dataTypes.flatMap (ofData i) ++
    plan.managedTypes.flatMap (ofManaged i) ++ ofDescriptions i rootType plan

end Warning

end Vmodl
