import Vmodl.CommandLine.Arguments
import Vmodl.Generator.Extraction
import Vmodl.Generator.Package

/-!
# Runs of the tool

A run reads its arguments, gets hold of a schema, and writes or prints a package. It reports what it
printed and with which status it ended: 0 if all went well, 1 after a failure, and 2 if the arguments
were no good.
-/

namespace Vmodl.CommandLine

open Files (Path Store)

/-- What a run printed, and the status it ended with. -/
structure Report where
  status : Nat := 0
  output : String := ""
  errors : String := ""
deriving DecidableEq, Repr

def usage : String := "Usage: vmomi-gen [OPTIONS]"

def helpLines : List String := [
  "Code generator producing typed Rust clients from vmodl schemas",
  "",
  usage,
  "",
  "Options:",
  "  -s, --schema <SCHEMA>",
  "          Schema document to generate from [default: vmomi.json]",
  "  -o, --output <OUTPUT>",
  "          Output directory for generated code [default: generated/src]",
  "      --extract",
  "          Run the extraction command to (re)create the schema document first",
  "      --extract-command <EXTRACT_COMMAND>",
  "          Command that writes the schema document to the path appended to it [default: \"python -m generate\"]",
  "      --runtime-crate <RUNTIME_CRATE>",
  "          Rust path generated code uses to reach the runtime [default: vmomi]",
  "      --runtime-path <RUNTIME_PATH>",
  "          Filesystem path of the runtime crate, written to the generated Cargo.toml",
  "      --root-type <ROOT_TYPE>",
  "          Wire name of the service entry point [default: ServiceInstance]",
  "      --crate-name <CRATE_NAME>",
  "          Package name of the generated crate [default: vmomi-client]",
  "      --cargo-toml",
  "          Also write Cargo.toml next to the output directory",
  "      --embedded",
  "          Omit module docs and inner attributes, for use with include!",
  "      --dry-run",
  "          Print generated code without writing files",
  "  -v, --verbose...",
  "          Increase verbosity (-v, -vv, -vvv)",
  "  -h, --help",
  "          Print help",
  "  -V, --version",
  "          Print version"]

def lines (ls : List String) : String := String.join (ls.map (· ++ "\n"))

/-- What is printed of a file that is not written. -/
def preview (name text : String) : String := s!"=== {name} ===\n{text}\n\n"

/-- The report on arguments that are not carried out. -/
def Stop.report : Stop → Report
  | .help => { output := lines helpLines }
  | .version => { output := "vmomi-gen 0.1.0\n" }
  | _ => { status := 2, errors := lines ["error: invalid arguments", "", usage] }

variable {m : Type → Type} [Monad m]

namespace Request

/-- The schema of a run, which a command may have to write first. -/
def getSchema (r : Request) (s : Store m) : m (Except ToolFailure Schema) := do
  let path := Path.ofText r.schema
  if r.extract then
    match Extractor.ofText r.extractCommand with
    | .error flaw => return .error (.generation (.config flaw))
    | .ok x => Schema.extract s x path
  else Schema.load s path

/-- The module: printed in a dry run, and written otherwise. Gives what was printed. -/
def giveModule (r : Request) (s : Store m) (schema : Schema) : m (Except ToolFailure String) := do
  if r.dryRun then
    return ((Generation.code schema r.options).mapError .generation).map (preview "lib.rs")
  else
    return (← Package.writeModule s schema r.options (.ofText r.output)).map fun _ => ""

/-- The manifest, if it is wanted: printed in a dry run, and written otherwise. -/
def giveManifest (r : Request) (s : Store m) : m (Except ToolFailure String) := do
  if !r.manifest then return .ok ""
  else if r.dryRun then
    return .ok (preview "Cargo.toml" (Manifest.text r.options))
  else
    return (← Package.writeManifest s r.options (Package.manifestPath (.ofText r.output))).map fun _ => ""

def failed (output : String) (failure : ToolFailure) : Report :=
  { status := 1, output := output, errors := s!"Error: {failure.shown}\n" }

def run (r : Request) (s : Store m) : m Report := do
  match r.options.validate with
  | .error flaw => return failed "" (.generation (.config flaw))
  | .ok () =>
    match ← r.getSchema s with
    | .error failure => return failed "" failure
    | .ok schema =>
      match ← r.giveModule s schema with
      | .error failure => return failed "" failure
      | .ok printed =>
        match ← r.giveManifest s with
        | .error failure => return failed printed failure
        | .ok more =>
          let errors := if r.dryRun then "" else s!"Generated {r.output}/lib.rs\n"
          return { output := printed ++ more, errors := errors }

end Request

def run (s : Store m) (arguments : List String) : m Report := do
  match Request.ofArguments arguments with
  | .error stop => return stop.report
  | .ok r => r.run s

end Vmodl.CommandLine
