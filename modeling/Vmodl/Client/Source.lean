import Vmodl.Client.Module
import Vmodl.Source.Syntax

/-!
# The source of a client module

The items of a client module written as source. `runtime` is the path by which the source reaches the
types that every client shares.
-/

namespace Vmodl

open Source

def TypeName.path (runtime : Path) (name : TypeName) : Path :=
  if name.builtin then runtime.child name.ident else .ofIdent name.ident

def Primitive.source (runtime : Path) : Primitive → Ty
  | .byte => .ofIdent "i8"
  | .short => .ofIdent "i16"
  | .int => .ofIdent "i32"
  | .long => .ofIdent "i64"
  | .float => .ofIdent "f32"
  | .double => .ofIdent "f64"
  | .boolean => .ofIdent "bool"
  | .string => .ofIdent "String"
  | .void => .unit
  | .any => .path (.ofIdents ["serde_json", "Value"])
  | .dateTime => .path (runtime.child "DateTime")
  | .binary => .path (runtime.child "Binary")

def Shape.source (runtime : Path) : Shape → Ty
  | .primitive p => p.source runtime
  | .named _ name => .path (name.path runtime)
  | .boxed inner => .apply "Box" [inner.source runtime]
  | .list element => .apply "Vec" [element.source runtime]
  | .option inner => .apply "Option" [inner.source runtime]

/-- The expression that describes the type of a field to the decoder. -/
def FieldType.source (runtime : Path) : FieldType → Expr
  | .scalar key => make "scalar" (.literal key)
  | .enumeration key => make "enumeration" (.literal key)
  | .data key => make "data" (.literal key)
  | .managed key => make "managed" (.literal key)
  | .array element => make "array" (element.source runtime)
where
  make (kind : String) (argument : Expr) : Expr :=
    .call (.path ((runtime.child "FieldDescriptor").child kind)) [argument] false

namespace Client.Source

variable (runtime : Path)

/-! ### Pieces -/

def shared (name : String) : Ty := .path (runtime.child name)

def shares (name : String) : Expr := .path (runtime.child name)

def sharedRef (name : String) : Ty := .reference none false (shared runtime name)

def sharedMut (name : String) : Ty := .reference none true (shared runtime name)

def failing (type : Ty) : Ty := .apply "Result" [type, shared runtime "VmomiError"]

def self : Expr := .ofIdent "self"

def ok (e : Expr) : Expr := .call (.ofIdent "Ok") [e] false

def connectionParameter : Parameter := .typed "connection" (sharedRef runtime "Connection")

def itemDoc (qualified wireName : String) : Attribute :=
  .doc false false (" \x60" ++ qualified ++ "\x60 (\x60" ++ wireName ++ "\x60).")

def derives (paths : List (List String)) (trailing : Bool) : Attribute :=
  .list false "derive" (paths.map .path) trailing

def renamed (wireName : String) (optional : Bool) : Attribute :=
  .list false "serde" (.text "rename" wireName ::
    if optional then [.text "skip_serializing_if" "Option::is_none"] else []) false

def wireTypeConstant (wireName : String) : Definition :=
  .constant "WIRE_TYPE" (.reference (some "static") false (.ofIdent "str")) (.literal wireName)

/-- Reads a value of a type through one of the shared constructors. -/
def fromDecoded (ident : String) (connection : String) (value : Expr) : Item :=
  .implementation (some (runtime.child "FromDecoded")) (.ofIdent ident) [
    .function {
      name := "from_decoded"
      parameters := [.typed connection (sharedRef runtime "Connection"),
        .typed "value" (shared runtime "Decoded")]
      trailing := true
      result := some (failing runtime (.ofIdent "Self"))
      body := [.result value] }]

/-- A structure reads like the parent that it embeds. -/
def derefs (ident : String) (parent : Ty) : List Item :=
  [.implementation (some (.ofIdents ["std", "ops", "Deref"])) (.ofIdent ident) [
      .synonym "Target" parent,
      .function (deref "deref" false)],
    .implementation (some (.ofIdents ["std", "ops", "DerefMut"])) (.ofIdent ident) [
      .function (deref "deref_mut" true)]]
where
  deref (name : String) (isMutable : Bool) : Function :=
    { name
      parameters := [.receiver isMutable]
      result := some (.reference none isMutable (.path (.ofIdents ["Self", "Target"])))
      body := [.result (.borrow isMutable (.field self Naming.baseField))] }

/-- Takes the value of a member out of an object. -/
def takes (object : String) (m : Member) : Expr :=
  .attempt (.method (.ofIdent object) "take" [.ofIdent "connection", .literal m.wireName] false)

def enumItem (e : EnumItem) : List Item :=
  [.enumeration
      [itemDoc e.qualified e.wireName,
        derives [["Debug"], ["Clone"], ["Copy"], ["PartialEq"], ["Eq"], ["Hash"],
          ["serde", "Serialize"], ["serde", "Deserialize"], ["strum", "Display"],
          ["strum", "EnumString"], ["strum", "AsRefStr"], ["strum", "EnumIter"]] true]
      e.ident
      (e.variants.map fun (ident, value) =>
        { attributes := [renamed value false, .list false "strum" [.text "serialize" value] false]
          name := ident }),
    fromDecoded runtime e.ident "_connection"
      (.call (shares runtime "construct_enum") [.literal e.wireName, .ofIdent "value"] false)]

def dataItem (d : DataItem) : List Item :=
  let base := (d.base.bind (·.typeName?)).map fun name => Ty.path (name.path runtime)
  let trait := runtime.child "DataObjectType"
  let baseField : List Field := base.toList.map fun type =>
    { attributes := [.list false "serde" [.path ["flatten"]] false]
      name := Naming.baseField
      type }
  let fields : List Field := d.members.map fun m =>
    { attributes := [renamed m.wireName m.optional]
      name := m.ident
      type := (m.shape false).source runtime }
  let baseInit := base.toList.map fun type =>
    (Naming.baseField, Expr.attempt (.call (.qualified type trait "from_object")
      [.ofIdent "connection", .ofIdent "object"] false))
  .struct
      [itemDoc d.qualified d.wireName,
        derives [["Debug"], ["Clone"], ["PartialEq"], ["serde", "Serialize"]] false]
      d.ident (baseField ++ fields) ::
    base.toList.flatMap (derefs d.ident) ++
    [.implementation (some trait) (.ofIdent d.ident) [
        wireTypeConstant d.wireName,
        .function {
          attributes := [.list false "allow" [.path ["unused_variables"]] false]
          name := "from_object"
          parameters := [connectionParameter runtime,
            .typed "object" (sharedMut runtime "DecodedObject")]
          trailing := true
          result := some (failing runtime (.ofIdent "Self"))
          body := [.result (ok (.record
            (baseInit ++ d.members.map fun m => (m.ident, takes "object" m))))] }],
      fromDecoded runtime d.ident "connection"
        (.call (shares runtime "construct_data") [.ofIdent "connection", .ofIdent "value"] false)]

def resultType (type : ResolvedType) (optional : Bool) : Ty :=
  let inner := (type.shape false).source runtime
  if optional then .apply "Option" [inner] else inner

/-- The arguments of a method that has secrets do not print them. -/
def argumentsDebug (o : Operation) : Item :=
  let start : Expr := .method (.ofIdent "f") "debug_struct" [.literal o.argsIdent] false
  let chain := o.parameters.foldl (fun e m =>
    let value : Expr := if m.secret then .literal "<redacted>" else .field self m.ident
    .method e "field" [.literal (Naming.Scope.stem m.ident), .borrow false value] false) start
  .implementation (some (.ofIdents ["std", "fmt", "Debug"])) (.ofIdent o.argsIdent) [
    .function {
      name := "fmt"
      parameters := [.receiver false,
        .typed "f" (.reference none true (.path (.mk false
          [.plain "std", .plain "fmt", .generic "Formatter" false [.lifetime "_"]])))]
      result := some (.path (.ofIdents ["std", "fmt", "Result"]))
      body := [.result (.method chain "finish" [] false)] }]

def argumentsItem (o : Operation) : List Item :=
  let redacts := o.parameters.any (·.secret)
  .struct
      [.doc false false (" Arguments of \x60" ++ o.wireName ++ "\x60."),
        derives ((if redacts then [] else [["Debug"]]) ++ [["Clone"], ["serde", "Serialize"]]) false]
      o.argsIdent
      (o.parameters.map fun m =>
        { attributes := [renamed m.wireName m.optional]
          name := m.ident
          type := resultType runtime m.type m.optional }) ::
    if redacts then [argumentsDebug o] else []

/-- The connection of the object that a method belongs to. -/
def ownConnection : Expr :=
  .call (.path ((runtime.child "ManagedObject").child "connection")) [self] false

def operation (o : Operation) : Function :=
  let target := runtime.child "ObjectReference"
  let this : Expr :=
    if o.rooted then .call (.path (target.child "root")) [.literal o.owner] false
    else .call (.path (target.child "managed")) [.literal o.owner,
      .call (.path ((runtime.child "ManagedObject").child "id")) [self] false] false
  let parameters : Expr :=
    if o.parameters.isEmpty then .call (shares runtime "this_params") [.ofIdent "this"] false
    else .call (shares runtime "merge_params")
      [.ofIdent "this", .borrow false (.ofIdent "args")] false
  let call : Expr := .field (.attempt (.await (.method (ownConnection runtime) "exec"
    [.literal o.wireName, .ofIdent "params"] false))) "result"
  let tail : List Stmt :=
    if o.result.isVoid then [.bind false "_" call, .result (ok .unit)]
    else [.bind false "result" call,
      .result (.method (ownConnection runtime) "reconstruct"
        [.ofIdent "result", .literal o.result.key] false)]
  { attributes := [itemDoc o.name o.wireName]
    isPublic := true
    isAsync := true
    name := o.ident
    parameters := .receiver false ::
      if o.parameters.isEmpty then [] else [.typed "args" (.ofIdent o.argsIdent)]
    result := some (failing runtime
      (if o.result.isVoid then .unit else resultType runtime o.result o.resultOptional))
    body := .bind false "this" this :: .bind false "params" (.attempt parameters) :: tail }

/-- Handles are written as their references. -/
def serialization (ident : String) : Item :=
  .implementation (some (.ofIdents ["serde", "Serialize"])) (.ofIdent ident) [
    .function {
      name := "serialize"
      typeParameter := some ("S", .ofIdents ["serde", "Serializer"])
      parameters := [.receiver false, .typed "serializer" (.ofIdent "S")]
      result := some (.apply "Result"
        [.path (.ofIdents ["S", "Ok"]), .path (.ofIdents ["S", "Error"])])
      body := [.result (.call (.path (.ofIdents ["serde", "Serialize", "serialize"]))
        [.call (.path ((runtime.child "ManagedObject").child "reference")) [self] false,
          .ofIdent "serializer"] false)] }]

def managedItem (d : ManagedItem) : List Item :=
  let base : Ty := match d.base.typeName? with
    | some name => .path (name.path runtime)
    | none => shared runtime ManagedItem.rootName
  let trait := runtime.child "ManagedObjectType"
  let fields : List Field := d.members.map fun m =>
    { name := m.ident, type := (m.shape true).source runtime }
  let newBase : Expr := .call (.qualified base trait "new")
    [.ofIdent "connection", .ofIdent "reference"] false
  let applyBase : Stmt := .run (.attempt (.call (.path (trait.child "apply"))
    [.borrow true (.field self Naming.baseField), .ofIdent "connection", .ofIdent "init"] false))
  let methods : List Item :=
    if d.operations.isEmpty then []
    else [.implementation none (.ofIdent d.ident)
      (d.operations.map fun o => .function (operation runtime o))]
  .struct
      [itemDoc d.qualified d.wireName, derives [["Debug"], ["Clone"], ["PartialEq"]] false]
      d.ident ({ name := Naming.baseField, type := base } :: fields) ::
    derefs d.ident base ++
    [.implementation (some trait) (.ofIdent d.ident) [
        wireTypeConstant d.wireName,
        .function {
          name := "new"
          parameters := [connectionParameter runtime,
            .typed "reference" (shared runtime "ManagedObjectReference")]
          trailing := true
          result := some (.ofIdent "Self")
          body := [.result (.record ((Naming.baseField, newBase) ::
            d.members.map fun m => (m.ident, .ofIdent "None")))] },
        .function {
          name := "apply"
          parameters := [.receiver true, connectionParameter runtime,
            .typed "init" (sharedMut runtime "DecodedObject")]
          trailing := true
          result := some (failing runtime .unit)
          body := applyBase :: d.members.map (fun m =>
            .run (.assign (.field self m.ident) (takes "init" m))) ++ [.result (ok .unit)] }],
      fromDecoded runtime d.ident "connection"
        (.call (shares runtime "construct_managed") [.ofIdent "connection", .ofIdent "value"] false),
      serialization runtime d.ident] ++
    methods ++
    d.operations.flatMap fun o => if o.parameters.isEmpty then [] else argumentsItem runtime o

def fieldEntry (name : Expr) (type : FieldType) : Expr := .tuple [name, type.source runtime] false

def parentOption : Option String → Expr
  | some parent => .call (.ofIdent "Some") [.literal parent] false
  | none => .ofIdent "None"

def fieldEntries (fields : List (String × FieldType)) : List Expr :=
  fields.map fun (name, type) => fieldEntry runtime (.literal name) type

/-- The entries of a managed type, whose last field is its target. -/
def managedEntries : List (String × FieldType) → List Expr
  | [] => []
  | [(_, type)] => [fieldEntry runtime (shares runtime "THIS_FIELD") type]
  | (name, type) :: rest => fieldEntry runtime (.literal name) type :: managedEntries rest

def registers (r : Registration) : Stmt :=
  let registry := Expr.ofIdent "registry"
  match r with
  | .enumeration name => .run (.method registry "register_enum" [.literal name] false)
  | .data name parent fields =>
    .run (.method registry "register_data"
      [.literal name, parentOption parent, .array (fieldEntries runtime fields) true] false)
  | .managed name parent fields =>
    .run (.method registry "register_managed"
      [.literal name, parentOption parent, .array (managedEntries runtime fields) true] true)

def registryFunction (registrations : List Registration) : Function :=
  { attributes := [.doc false true " Field descriptors of every type in this module, on top of the",
      .doc false true " runtime built-ins."]
    isPublic := true
    name := "descriptor_registry"
    parameters := []
    result := some (shared runtime "DescriptorRegistry")
    body := .bind true "registry"
        (.call (.path ((runtime.child "DescriptorRegistry").child "with_builtins")) [] false) ::
      registrations.map (registers runtime) ++ [.result (.ofIdent "registry")] }

def connectFunction (rootType : String) : Function :=
  let builder : Expr := .call (.path ((runtime.child "Connection").child "builder"))
    [.ofIdent "transport"] false
  let withRegistry : Expr := .method builder "registry"
    [.call (.ofIdent "descriptor_registry") [] false] false
  { attributes := [.doc false true " Binds a transport to this module's descriptor registry."]
    isPublic := true
    name := "connect"
    parameters := [.typed "transport" (.bounded (runtime.child "Transport") "static")]
    result := some (shared runtime "Connection")
    body := [.result (.method (.method withRegistry "root_type" [.literal rootType] false)
      "build" [] false)] }

def handleFunction (e : EntryPoint) : Function :=
  { attributes := [.doc false false (" Handle to the \x60" ++ e.rootType ++ "\x60 entry point.")]
    isPublic := true
    name := e.ident
    parameters := [connectionParameter runtime]
    result := some (.ofIdent e.rootIdent)
    body := [.result (.call
      (.qualified (.ofIdent e.rootIdent) (runtime.child "ManagedObjectType") "new")
      [.ofIdent "connection",
        .call (.path ((runtime.child "ManagedObjectReference").child "new"))
          [.literal e.rootType, .literal e.rootType] false] true)] }

def contentFunction (e : EntryPoint) (o : Operation) : Function :=
  { attributes := [.doc false true " Retrieves the service content through the entry point."]
    isPublic := true
    isAsync := true
    name := "content"
    parameters := [connectionParameter runtime]
    trailing := true
    result := some (failing runtime (resultType runtime o.result o.resultOptional))
    body := [.bind false "root" (.call (.ofIdent e.ident) [.ofIdent "connection"] false),
      .result (.await (.method (.ofIdent "root") o.ident [] false))] }

/-- The functions of a module: its registry, its connection and its entry point. -/
def functions (m : ClientModule) : List Item :=
  (registryFunction runtime m.registrations :: connectFunction runtime m.rootType ::
    m.entry.toList.flatMap fun e =>
      handleFunction runtime e :: e.content.toList.map (contentFunction runtime e)).map .function

/-! ### Modules -/

/-- The documentation at the head of a module: what it declares, and for which versions. -/
def headDocs (s : Schema) : List Attribute :=
  let summary := s!" {s.enumTypes.length} enum types, {s.dataTypes.length} data types and " ++
    s!"{s.managedTypes.length} managed types."
  let names (versions : List ApiVersion) := ", ".intercalate (versions.map (·.version))
  let versions := names s.versions
  let newest := names (s.versionsIn "newest")
  let versionDocs : List Attribute :=
    if versions.isEmpty then []
    else .doc true true "" :: .doc true false (" API versions: " ++ versions ++ ".") ::
      if newest.isEmpty then [] else [.doc true false (" Newest: " ++ newest ++ ".")]
  .doc true true " Generated vmodl client types." :: .doc true true "" :: .doc true false summary ::
    versionDocs ++
    [.doc true true "",
      .doc true true " Use [\x60connect\x60] to bind a transport to the descriptor registry of",
      .doc true true " this module, then reconstruct the service entry point from it.",
      .list true "allow" [.path ["non_camel_case_types"]] false]

/-- The head of a module. A module that is embedded in another has no documentation of its own. -/
def prologue (s : Schema) (embedded : Bool) : Source.Module where
  attributes := if embedded then [] else headDocs s
  items := [.reexport runtime ["Connection", "VmomiError"]]

/-- The source of a module: its head, its types, and its functions. -/
def wholeModule (s : Schema) (m : ClientModule) (embedded : Bool) : Source.Module :=
  let head := prologue runtime s embedded
  { head with
    items := head.items ++ m.enums.flatMap (enumItem runtime) ++
      m.dataTypes.flatMap (dataItem runtime) ++ m.managedTypes.flatMap (managedItem runtime) ++
      functions runtime m }

end Client.Source

end Vmodl
