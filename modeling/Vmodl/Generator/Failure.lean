import Vmodl.Files.Store
import Vmodl.Generator.Generation
import Vmodl.Schema.Place

/-!
# Failures of the tool

What can keep the tool from generating a package. `ToolFailure.message` is the text for a reader, and
`ToolFailure.shown` the one that the command line prints.
-/

namespace Vmodl

inductive ToolFailure where
  | generation (failure : GenerationFailure)
  | write (failure : Files.WriteFailure)
  | unreadable (path : Files.Path) (flaw : Files.Flaw)
  | notSchema (error : Schema.ReadError) (place : Schema.Place)
  /-- A command that was to write the schema did not do so. -/
  | extraction (command : String) (reason : String)
deriving Repr

namespace ToolFailure

def message : ToolFailure → String
  | .generation (.config flaw) => s!"Invalid configuration: {flaw.message}"
  | .generation (.invalidSource detail) => s!"Code generation failed: {detail}"
  | .write ⟨path, flaw⟩ => s!"Failed to write output file '{path.text}': {flaw.message}"
  | .unreadable path flaw => s!"Failed to read schema file '{path.text}': {flaw.message}"
  | .notSchema error place =>
    s!"Failed to parse schema document: {error.detail} at line {place.line} column {place.column}"
  | .extraction command reason => s!"Schema extraction '{command}' failed: {reason}"

open Text (quoted)

/-- The causes of a refused operation, as the command line prints them. -/
def flawShown (flaw : Files.Flaw) : String :=
  s!"Os \x7b code: {flaw.code}, kind: {flaw.kind}, message: {quoted flaw.description} \x7d"

def shown : ToolFailure → String
  | .generation (.config flaw) => s!"ConfigError({quoted flaw.message})"
  | .generation (.invalidSource detail) => s!"CodeGenError({quoted detail})"
  | .write ⟨path, flaw⟩ =>
    s!"WriteError \x7b path: {quoted path.text}, source: {flawShown flaw} \x7d"
  | .unreadable path flaw => s!"Schema(Io \x7b path: {quoted path.text}, source: {flawShown flaw} \x7d)"
  | .notSchema error place =>
    s!"Schema(Parse(Error({quoted error.detail}, line: {place.line}, column: {place.column})))"
  | .extraction command reason =>
    s!"ExtractionFailed \x7b command: {quoted command}, reason: {quoted reason} \x7d"

end ToolFailure

end Vmodl
