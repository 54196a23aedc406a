import Vmodl.Generator.Failure
import Vmodl.Shell.Run

/-!
# Extraction

A schema can be written by a command, which is given the path to write to as its last argument. A
command that ends badly, or that has something to complain about, wrote no schema to rely on.
-/

namespace Vmodl

open Files (Path Store)

structure Extractor where
  program : String := "python"
  arguments : List String := ["-m", "generate"]
deriving DecidableEq, Repr

namespace Extractor

/-- The command that the words of a text are. -/
def ofText (s : String) : Except ConfigFlaw Extractor :=
  match Text.blankWords s with
  | [] => .error .emptyCommand
  | program :: arguments => .ok ⟨program, arguments⟩

def commandLine (x : Extractor) (target : Path) : String :=
  " ".intercalate (x.program :: x.arguments ++ [target.text])

/-- Why the outcome of a command is none to rely on. -/
def complaint? (o : Shell.Outcome) : Option String :=
  let errors := Text.trim o.errors
  if errors != "" then some errors
  else if o.ending = .exited 0 then none
  else some o.ending.text

variable {m : Type → Type} [Monad m]

def run (x : Extractor) (s : Store m) (target : Path) : m (Except ToolFailure Unit) := do
  let failed (reason : String) := .error (.extraction (x.commandLine target) reason)
  match ← Shell.run s x.program (x.arguments ++ [target.text]) with
  | .error flaw => return failed flaw.message
  | .ok o =>
    match complaint? o with
    | some reason => return failed reason
    | none => return .ok ()

end Extractor

namespace Schema

variable {m : Type → Type} [Monad m]

def load (s : Store m) (path : Path) : m (Except ToolFailure Schema) := do
  match ← s.read path with
  | .error flaw => return .error (.unreadable path flaw)
  | .ok content => return (ofText content).mapError fun e => .notSchema e (e.place content)

/-- The schema that a command writes. -/
def extract (s : Store m) (x : Extractor) (path : Path) : m (Except ToolFailure Schema) := do
  match ← x.run s path with
  | .error failure => return .error failure
  | .ok () => load s path

end Schema

end Vmodl
