import Vmodl.Client.Source
import Vmodl.Generator.Options
import Vmodl.Source.Formatted

/-!
# Generation

A schema and the options give the source of a client module, or tell why there is none. Formatting also
checks that the path to the runtime can stand where the source has it.
-/

namespace Vmodl

inductive GenerationFailure where
  | config (flaw : ConfigFlaw)
  | invalidSource (detail : String)
deriving DecidableEq, Repr

namespace Generation

def assemble (s : Schema) (o : Options) : Except GenerationFailure Source.Module := do
  o.validate.mapError .config
  let runtime ← o.runtime.mapError .config
  return Client.Source.wholeModule runtime s (.ofSchema s o.rootType) o.embedded

/-- The first place where source cannot be read back, if there is one. -/
def sourceFlaw? (runtime : Source.Path) (m : Source.Module) : Option String :=
  m.items.findSome? fun
    | .reexport p _ => p.importFlaw?
    | _ => runtime.exprFlaw?

/-- The text of source that reaches the runtime by a given path. -/
def format (runtime : Source.Path) (m : Source.Module) : Except GenerationFailure String :=
  match sourceFlaw? runtime m with
  | some detail => .error (.invalidSource ("Generated code is invalid: " ++ detail))
  | none => .ok m.text

def code (s : Schema) (o : Options) : Except GenerationFailure String := do
  let m ← assemble s o
  let runtime ← o.runtime.mapError .config
  format runtime m

end Generation

end Vmodl
