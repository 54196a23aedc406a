import Vmodl.Files.Path
import Vmodl.Generator.Options

/-!
# Arguments

The arguments of the tool are options, which have a value, and switches, which have none. Each one is
given at most once, except that the switch for more logging adds up.
-/

namespace Vmodl.CommandLine

structure Request where
  schema : String := "vmomi.json"
  output : String := "generated/src"
  /-- Whether a command writes the schema first. -/
  extract : Bool := false
  extractCommand : String := "python -m generate"
  options : Options := {}
  /-- Whether a manifest is written, too. -/
  manifest : Bool := false
  /-- Whether files are printed instead of written. -/
  dryRun : Bool := false
  verbosity : Nat := 0
deriving DecidableEq, Repr

inductive OptionName where
  | schema
  | output
  | extractCommand
  | runtimeCrate
  | runtimePath
  | rootType
  | crateName
deriving DecidableEq, Repr

inductive Switch where
  | extract
  | manifest
  | embedded
  | dryRun
  | verbose
  | help
  | version
deriving DecidableEq, Repr

inductive Name where
  | option (o : OptionName)
  | switch (s : Switch)
deriving DecidableEq, Repr

def Name.ofLong? : String → Option Name
  | "schema" => some (.option .schema)
  | "output" => some (.option .output)
  | "extract" => some (.switch .extract)
  | "extract-command" => some (.option .extractCommand)
  | "runtime-crate" => some (.option .runtimeCrate)
  | "runtime-path" => some (.option .runtimePath)
  | "root-type" => some (.option .rootType)
  | "crate-name" => some (.option .crateName)
  | "cargo-toml" => some (.switch .manifest)
  | "embedded" => some (.switch .embedded)
  | "dry-run" => some (.switch .dryRun)
  | "verbose" => some (.switch .verbose)
  | "help" => some (.switch .help)
  | "version" => some (.switch .version)
  | _ => none

def Name.ofShort? : Char → Option Name
  | 's' => some (.option .schema)
  | 'o' => some (.option .output)
  | 'v' => some (.switch .verbose)
  | 'h' => some (.switch .help)
  | 'V' => some (.switch .version)
  | _ => none

/-- Why the arguments are not read to their end. -/
inductive Stop where
  | unknown (argument : String)
  | noValue (o : OptionName)
  | emptyValue (o : OptionName)
  | unwantedValue (s : Switch)
  | repeated (name : Name)
  /-- The user asked how to use the tool. -/
  | help
  | version
deriving DecidableEq, Repr

/-- What was read so far. -/
structure Progress where
  request : Request := {}
  given : List Name := []

namespace Progress

def withOption (p : Progress) (o : OptionName) (value : String) : Except Stop Progress := do
  if p.given.contains (.option o) then throw (.repeated (.option o))
  if value.isEmpty && (o == .schema || o == .output) then throw (.emptyValue o)
  let r := p.request
  let r := match o with
    | .schema => { r with schema := value }
    | .output => { r with output := value }
    | .extractCommand => { r with extractCommand := value }
    | .runtimeCrate => { r with options.runtimeCrate := value }
    | .runtimePath => { r with options.runtimePath := some value }
    | .rootType => { r with options.rootType := value }
    | .crateName => { r with options.crateName := value }
  return ⟨r, .option o :: p.given⟩

def withSwitch (p : Progress) (s : Switch) : Except Stop Progress := do
  if s == .verbose then
    return { p with request.verbosity := p.request.verbosity + 1 }
  if p.given.contains (.switch s) then throw (.repeated (.switch s))
  let given := .switch s :: p.given
  let r := p.request
  match s with
  | .extract => return ⟨{ r with extract := true }, given⟩
  | .manifest => return ⟨{ r with manifest := true }, given⟩
  | .embedded => return ⟨{ r with options.embedded := true }, given⟩
  | .dryRun => return ⟨{ r with dryRun := true }, given⟩
  | .verbose => return p
  | .help => throw .help
  | .version => throw .version

end Progress

/-- Arguments that start with a hyphen are no values, except for the hyphen itself. -/
def isValue (argument : String) : Bool := !("-".isPrefixOf argument) || argument == "-"

/-- What an argument does: it is done, or an option still wants a value. -/
inductive Step where
  | done (p : Progress)
  | wants (p : Progress) (o : OptionName)

/-- Reads short names after a hyphen. What follows the name of an option is its value. -/
def readShort (p : Progress) : List Char → Except Stop Step
  | [] => .ok (.done p)
  | c :: rest =>
    match Name.ofShort? c with
    | none => .error (.unknown (String.ofList ['-', c]))
    | some (.switch s) => do readShort (← p.withSwitch s) rest
    | some (.option o) =>
      match rest with
      | [] => .ok (.wants p o)
      | '=' :: value => do return .done (← p.withOption o (String.ofList value))
      | value => do return .done (← p.withOption o (String.ofList value))

/-- Reads a long name after two hyphens. What follows an equals sign is its value. -/
def readLong (p : Progress) (s : List Char) : Except Stop Step :=
  let name := String.ofList (s.takeWhile (· != '='))
  match Name.ofLong? name, s.dropWhile (· != '=') with
  | none, _ => .error (.unknown ("--" ++ name))
  | some (.switch sw), [] => do return .done (← p.withSwitch sw)
  | some (.switch sw), _ => .error (.unwantedValue sw)
  | some (.option o), [] => .ok (.wants p o)
  | some (.option o), _ :: value => do return .done (← p.withOption o (String.ofList value))

def readName (p : Progress) (argument : String) : Except Stop Step :=
  match argument.toList with
  | '-' :: '-' :: rest => readLong p rest
  | '-' :: c :: rest => readShort p (c :: rest)
  | _ => .error (.unknown argument)

/-- Reads arguments after what was read, where an option may still want its value. -/
def readAll (p : Progress) (wanting : Option OptionName) : List String → Except Stop Request
  | [] =>
    match wanting with
    | some o => .error (.noValue o)
    | none => .ok p.request
  | argument :: rest =>
    match wanting with
    | some o =>
      if isValue argument then do readAll (← p.withOption o argument) none rest
      else .error (.noValue o)
    | none =>
      if argument == "--" then
        match rest with
        | [] => .ok p.request
        | extra :: _ => .error (.unknown extra)
      else do
        match ← readName p argument with
        | .done p => readAll p none rest
        | .wants p o => readAll p (some o) rest

def Request.ofArguments (arguments : List String) : Except Stop Request := readAll {} none arguments

end Vmodl.CommandLine
