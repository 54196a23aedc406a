import Vmodl.Json.Draft
import Vmodl.Schema.Basic
import Vmodl.Table
import Vmodl.Text.Quoted

/-!
# Reading schemas

Declarations are objects, or arrays of the same members in their order; properties, methods and
results are arrays only. What a member may leave out it may also set to null. Readers walk the
document in order and report the first thing that is wrong.
-/

namespace Vmodl.Schema

open Json (Draft Flaw)

inductive Wanted where
  | text
  | sequence
  | map
  | boolean
  | unsigned (width : Nat)
  | record (name : String)
  | row (name : String)
deriving DecidableEq, Repr

def Wanted.message : Wanted → String
  | .text => "a string"
  | .sequence => "a sequence"
  | .map => "a map"
  | .boolean => "a boolean"
  | .unsigned width => s!"u{width}"
  | .record name => s!"struct {name}"
  | .row name => s!"tuple struct {name}"

inductive Found where
  | null
  | boolean (b : Bool)
  | number (n : Json.Number)
  | text (s : String)
  | sequence
  | map
deriving Repr

/-- Reals are written out in full and always have a point. -/
def realMessage (bits : UInt64) : String :=
  match BinaryFormat.double.value bits.toNat with
  | .finite negative m q =>
    let d := Decimal.shortest .double m q
    (if negative then "-" else "") ++ d.positional ++ (if 0 ≤ d.exponent then ".0" else "")
  | _ => "null"

def Found.message : Found → String
  | .null => "null"
  | .boolean b => s!"boolean `{b}`"
  | .number (.integer n) => s!"integer `{n}`"
  | .number (.real bits) => s!"floating point `{realMessage bits}`"
  | .text s => s!"string {Text.quoted s}"
  | .sequence => "sequence"
  | .map => "map"

inductive ReadError where
  /-- The text itself is flawed. -/
  | flaw (flaw : Flaw)
  | wrongType (found : Found) (wanted : Wanted)
  | outOfRange (n : Int) (wanted : Wanted)
  | tooShort (length : Nat) (wanted : Wanted) (size : Nat)
  | duplicate (name : String)
  | missing (name : String)
deriving Repr

def ReadError.detail : ReadError → String
  | .flaw .truncated => "EOF while parsing a value"
  | .flaw .misplaced => "expected value"
  | .wrongType found wanted => s!"invalid type: {found.message}, expected {wanted.message}"
  | .outOfRange n wanted => s!"invalid value: integer `{n}`, expected {wanted.message}"
  | .tooShort length wanted size =>
    let elements := if size = 1 then "element" else "elements"
    s!"invalid length {length}, expected {wanted.message} with {size} {elements}"
  | .duplicate name => s!"duplicate field `{name}`"
  | .missing name => s!"missing field `{name}`"

abbrev Reader (α : Type) := Draft → Except ReadError α

def flawed (flaw : Option Flaw) (a : α) : Except ReadError α :=
  match flaw with
  | some flaw => .error (.flaw flaw)
  | none => .ok a

/-- The error of a draft that is not of the wanted type. -/
def mismatch (wanted : Wanted) : Draft → ReadError
  | .null => .wrongType .null wanted
  | .bool b => .wrongType (.boolean b) wanted
  | .number (.ok n) => .wrongType (.number n) wanted
  | .number (.error flaw) => .flaw flaw
  | .string (.ok s) => .wrongType (.text s) wanted
  | .string (.error flaw) => .flaw flaw
  | .array _ _ => .wrongType .sequence wanted
  | .object _ _ => .wrongType .map wanted
  | .broken flaw => .flaw flaw

def readText : Reader String
  | .string (.ok s) => .ok s
  | d => .error (mismatch .text d)

def readBool : Reader Bool
  | .bool b => .ok b
  | d => .error (mismatch .boolean d)

def readUnsigned (width : Nat) : Reader Nat
  | .number (.ok (.integer n)) =>
    if 0 ≤ n ∧ n < (1 <<< width : Nat) then .ok n.toNat else .error (.outOfRange n (.unsigned width))
  | d => .error (mismatch (.unsigned width) d)

def readOptional (read : Reader α) : Reader (Option α)
  | .null => .ok none
  | d => (read d).map some

def readList (read : Reader α) : Reader (List α)
  | .array items flaw => do
    let as ← items.mapM read
    flawed flaw as
  | d => .error (mismatch .sequence d)

/-- A list for which null stands for the empty one. -/
def readListOrNull (read : Reader α) : Reader (List α) := fun d =>
  (readOptional (readList read) d).map (·.getD [])

def readTextOrNull : Reader String := fun d => (readOptional readText d).map (·.getD "")

/-- Any value, with so many levels of containers open around it. Null counts as none. -/
def readExtra (depth : Nat) : Reader (Option Json) := fun d =>
  match d.toJson (Draft.depthLimit - depth) with
  | .ok .null => .ok none
  | .ok j => .ok (some j)
  | .error flaw => .error (.flaw flaw)

/-! ### Records and rows -/

/-- A way to read something of several named parts, one part after the other. -/
structure Layout (σ : Type) where
  wanted : Wanted
  names : List String
  /-- The parts that have no default come first; so many they are. -/
  required : Nat
  start : σ
  put : σ → String → Draft → Except ReadError σ

namespace Layout

variable {σ : Type} (l : Layout σ)

/-- Reads the parts that are still to come from the items of an array. -/
def readItems (state : σ) (count : Nat) (flaw : Option Flaw) :
    List String → List Draft → Except ReadError σ
  | [], [] => flawed flaw state
  | [], _ :: _ => .error (.flaw .misplaced)
  | _ :: _, [] => do
    let state ← flawed flaw state
    if count < l.required then .error (.tooShort count l.wanted l.names.length) else .ok state
  | name :: names, d :: ds => do
    let state ← l.put state name d
    readItems state (count + 1) flaw names ds

/-- Reads the members of an object. Members without a meaning are passed over. -/
def readMembers (state : σ) (seen : List String) (flaw : Option Flaw) :
    List (Except Flaw String × Draft) → Except ReadError σ
  | [] => do
    let state ← flawed flaw state
    match (l.names.take l.required).find? fun name => !seen.contains name with
    | some name => .error (.missing name)
    | none => .ok state
  | (.error flaw, _) :: _ => .error (.flaw flaw)
  | (.ok name, d) :: rest =>
    if l.names.contains name then
      if seen.contains name then .error (.duplicate name)
      else do
        let state ← l.put state name d
        readMembers state (name :: seen) flaw rest
    else
      match d.skip with
      | .error flaw => .error (.flaw flaw)
      | .ok () => readMembers state seen flaw rest

def readRecord : Reader σ
  | .array items flaw => l.readItems l.start 0 flaw l.names items
  | .object members flaw => l.readMembers l.start [] flaw members
  | d => .error (mismatch l.wanted d)

def readRow : Reader σ
  | .array items flaw => l.readItems l.start 0 flaw l.names items
  | d => .error (mismatch l.wanted d)

end Layout

def readFlags : Reader PropertyFlags := fun d => (readUnsigned 32 d).map fun n => ⟨n.toUInt32⟩

def readFlagsOrNull : Reader PropertyFlags := fun d =>
  (readOptional readFlags d).map (·.getD .none)

def propertyLayout (depth : Nat) : Layout Property where
  wanted := .row "RawField"
  names := ["name", "type", "version", "flags", "extra"]
  required := 2
  start := { name := "", wireType := "" }
  put p part d := do
    match part with
    | "name" => return { p with name := ← readText d }
    | "type" => return { p with wireType := ← readText d }
    | "version" => return { p with version := ← readTextOrNull d }
    | "flags" => return { p with flags := ← readFlagsOrNull d }
    | _ => return { p with extra := ← readExtra (depth + 1) d }

/-- Reads a property with so many levels of containers open around it. -/
def readProperty (depth : Nat) : Reader Property := (propertyLayout depth).readRow

def resultLayout : Layout (PropertyFlags × String × Option String) where
  wanted := .row "RawResult"
  names := ["flags", "type", "alias"]
  required := 2
  start := (.none, "", none)
  put r part d := do
    match part with
    | "flags" => return (← readFlags d, r.2)
    | "type" => return (r.1, ← readText d, r.2.2)
    | _ => return (r.1, r.2.1, ← readOptional readText d)

def readResult : Reader MethodResult := fun d => do
  let (flags, wireType, spelled) ← resultLayout.readRow d
  return { flags, wireType, spelledType := spelled.getD wireType }

def methodLayout (depth : Nat) : Layout Method where
  wanted := .row "RawMethod"
  names := ["name", "wire", "version", "params", "result", "extra", "faults"]
  required := 2
  start := { name := "", wireName := "" }
  put m part d := do
    match part with
    | "name" => return { m with name := ← readText d }
    | "wire" => return { m with wireName := ← readText d }
    | "version" => return { m with version := ← readTextOrNull d }
    | "params" => return { m with parameters := ← readListOrNull (readProperty (depth + 2)) d }
    | "result" => return { m with result := (← readOptional readResult d).getD .void }
    | "extra" => return { m with extra := ← readExtra (depth + 1) d }
    | _ => return { m with faults := ← readListOrNull readText d }

def readMethod (depth : Nat) : Reader Method := (methodLayout depth).readRow

/-- The parent of a declaration, for which the empty text stands for none. -/
def readParent : Reader (Option String) := fun d =>
  (readOptional readText d).map (·.filter (· ≠ ""))

def dataLayout : Layout DataDecl where
  wanted := .record "DataTypeDecl"
  names := ["vmodlName", "wsdlName", "version", "parent", "props"]
  required := 2
  start := { qualified := "", wireName := "" }
  put t part d := do
    match part with
    | "vmodlName" => return { t with qualified := ← readText d }
    | "wsdlName" => return { t with wireName := ← readText d }
    | "version" => return { t with version := ← readTextOrNull d }
    | "parent" => return { t with parent := ← readParent d }
    | _ => return { t with fields := ← readListOrNull (readProperty 4) d }

def enumLayout : Layout EnumDecl where
  wanted := .record "EnumTypeDecl"
  names := ["vmodlName", "wsdlName", "version", "values"]
  required := 2
  start := { qualified := "", wireName := "" }
  put t part d := do
    match part with
    | "vmodlName" => return { t with qualified := ← readText d }
    | "wsdlName" => return { t with wireName := ← readText d }
    | "version" => return { t with version := ← readTextOrNull d }
    | _ => return { t with values := ← readListOrNull readText d }

def managedLayout : Layout ManagedDecl where
  wanted := .record "ManagedTypeDecl"
  names := ["vmodlName", "wsdlName", "version", "parent", "props", "methods"]
  required := 2
  start := { qualified := "", wireName := "" }
  put t part d := do
    match part with
    | "vmodlName" => return { t with qualified := ← readText d }
    | "wsdlName" => return { t with wireName := ← readText d }
    | "version" => return { t with version := ← readTextOrNull d }
    | "parent" => return { t with parent := ← readParent d }
    | "props" => return { t with fields := ← readListOrNull (readProperty 4) d }
    | _ => return { t with methods := ← readListOrNull (readMethod 4) d }

/-- Flags by name, of which the last one for a name counts. -/
def readVersionFlags : Reader (Table Bool)
  | .object members flaw => do
    let flags ← members.foldlM (fun (t : Table Bool) (name, d) => do
      match name with
      | .error flaw => .error (.flaw flaw)
      | .ok name => return t.insert name (← readBool d)) []
    flawed flaw flags
  | d => .error (mismatch .map d)

def versionLayout : Layout ApiVersion where
  wanted := .record "VersionInfo"
  names := ["version", "namespace", "versionId", "isLegacy", "serviceNamespace", "parents", "flags"]
  required := 0
  start := {}
  put v part d := do
    match part with
    | "version" => return { v with version := ← readText d }
    | "namespace" => return { v with wireNamespace := ← readText d }
    | "versionId" => return { v with versionId := ← readText d }
    | "isLegacy" => return { v with isLegacy := ← readBool d }
    | "serviceNamespace" => return { v with serviceNamespace := ← readText d }
    | "parents" => return { v with parents := ← readList readText d }
    | _ => return { v with flags := ← readVersionFlags d }

def breakingChangeLayout : Layout BreakingChange where
  wanted := .record "BreakingChange"
  names := ["branchName", "vmodlNamespace", "count"]
  required := 0
  start := {}
  put b part d := do
    match part with
    | "branchName" => return { b with branchName := ← readText d }
    | "vmodlNamespace" => return { b with vmodlNamespace := ← readText d }
    | _ => return { b with count := ← readUnsigned 64 d }

def layout : Layout Schema where
  wanted := .record "SchemaModel"
  names := ["breakingChanges", "dataTypes", "enumTypes", "managedTypes", "versions"]
  required := 0
  start := {}
  put s part d := do
    match part with
    | "breakingChanges" => return { s with breakingChanges := ← readList breakingChangeLayout.readRecord d }
    | "dataTypes" => return { s with dataTypes := ← readList dataLayout.readRecord d }
    | "enumTypes" => return { s with enumTypes := ← readList enumLayout.readRecord d }
    | "managedTypes" => return { s with managedTypes := ← readList managedLayout.readRecord d }
    | _ => return { s with versions := ← readList versionLayout.readRecord d }

def readDocument (read : Reader α) (text : String) : Except ReadError α := do
  let (d, trailing) := Draft.ofText text
  let a ← read d
  flawed trailing a

def ofText (text : String) : Except ReadError Schema := readDocument layout.readRecord text

end Vmodl.Schema
