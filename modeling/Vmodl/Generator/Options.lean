import Vmodl.Source.PathReader

/-!
# Options of the generator

Where generated code finds the runtime, which type is the entry point, and how the generated package is
named.
-/

namespace Vmodl

structure Options where
  /-- The path by which generated code reaches the runtime. -/
  runtimeCrate : String := "vmomi"
  /-- The type whose methods name it as their target without a handle. -/
  rootType : String := "ServiceInstance"
  crateName : String := "vmomi-client"
  /-- Where the runtime lies on disk; it comes from a package registry otherwise. -/
  runtimePath : Option String := none
  /-- Whether the module is to be included in another one. -/
  embedded : Bool := false
deriving DecidableEq, Repr

inductive ConfigFlaw where
  | runtimePath (text : String) (flaw : Source.PathFlaw)
  | emptyRootType
  | crateName (name : String)
  | emptyCommand
deriving DecidableEq, Repr

def ConfigFlaw.message : ConfigFlaw → String
  | .runtimePath text flaw => s!"invalid runtime crate path '{text}': {flaw.message}"
  | .emptyRootType => "root type must not be empty"
  | .crateName name => s!"invalid crate name '{name}': use letters, digits, '-' and '_'"
  | .emptyCommand => "extraction command must not be empty"

namespace Options

/-- The name of the runtime's own package. -/
def runtimePackage : String := "vmomi"

def runtime (o : Options) : Except ConfigFlaw Source.Path :=
  (Source.Path.ofText o.runtimeCrate).mapError (.runtimePath o.runtimeCrate)

/-- Package names have ASCII letters, digits, hyphens and underscores, and no digit in front. -/
def isPackageName (name : String) : Bool :=
  let s := name.toList
  !s.isEmpty && s.all (fun c => c.isAlphanum || c == '-' || c == '_') && !s.head?.any Char.isDigit

def validate (o : Options) : Except ConfigFlaw Unit := do
  let _ ← o.runtime
  if (Text.trim o.rootType).isEmpty then throw .emptyRootType
  if !isPackageName o.crateName then throw (.crateName o.crateName)

/-- The text without colon pairs in front. -/
def dropColons : List Char → List Char
  | ':' :: ':' :: rest => dropColons rest
  | s => s

/-- The text up to the first colon pair. -/
def upToColons : List Char → List Char
  | ':' :: ':' :: _ => []
  | c :: rest => c :: upToColons rest
  | [] => []

/-- The name under which the generated package depends on the runtime: the first name of the path. -/
def dependency (o : Options) : String :=
  String.ofList (upToColons (dropColons o.runtimeCrate.toList))

end Options

end Vmodl
