import Vmodl.Generator.Failure
import Vmodl.Generator.Manifest

/-!
# Packages

A package has the generated module in a directory of its own and the manifest above it.
-/

namespace Vmodl.Package

open Files (Path Store)

variable {m : Type → Type} [Monad m]

def modulePath (directory : Path) : Path := directory.child "lib.rs"

/-- The manifest lies next to the directory of the module. -/
def manifestPath (directory : Path) : Path := (directory.parent?.getD (.ofText ".")).child "Cargo.toml"

def written (x : ExceptT Files.WriteFailure m Unit) : m (Except ToolFailure Unit) := do
  return (← x.run).mapError .write

/-- Writes the module of a schema into a directory, and gives its text. -/
def writeModule (s : Store m) (schema : Schema) (o : Options) (directory : Path) :
    m (Except ToolFailure String) := do
  match Generation.code schema o with
  | .error failure => return .error (.generation failure)
  | .ok code =>
    return (← written (s.replaceFile (modulePath directory) code)).map fun _ => code

def writeManifest (s : Store m) (o : Options) (path : Path) : m (Except ToolFailure Unit) := do
  match o.validate with
  | .error flaw => return .error (.generation (.config flaw))
  | .ok () => written (s.replaceFile path (Manifest.text o))

end Vmodl.Package
