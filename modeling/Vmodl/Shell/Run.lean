import Vmodl.Files.Store
import Vmodl.Shell.Printed
import Vmodl.Shell.Words

/-!
# Running commands

A command line is run on a store. The programs are a few that read, write and move files, and `sh`,
which runs a script of them. What ends a run is an exit status or a signal.
-/

namespace Vmodl.Shell

open Files (Path Flaw Store)

inductive Ending where
  | exited (status : Nat)
  | signalled (number : Nat)
deriving DecidableEq, Repr

def signals : List (Nat × String) := [
  (1, "HUP"), (2, "INT"), (3, "QUIT"), (4, "ILL"), (5, "TRAP"), (6, "ABRT"), (7, "BUS"), (8, "FPE"),
  (9, "KILL"), (10, "USR1"), (11, "SEGV"), (12, "USR2"), (13, "PIPE"), (14, "ALRM"), (15, "TERM")]

def Ending.text : Ending → String
  | .exited status => s!"exit status: {status}"
  | .signalled number =>
    match signals.lookup number with
    | some name => s!"signal: {number} (SIG{name})"
    | none => s!"signal: {number}"

structure Outcome where
  status : Nat := 0
  output : String := ""
  errors : String := ""
  /-- How the command ended the whole script, if it did. -/
  ended : Option Ending := none
deriving Repr

def Outcome.refused (errors : String) : Outcome := { status := 1, errors := errors ++ "\n" }

section Programs

variable {m : Type → Type} [Monad m]

def askForHelp (program message : String) : Outcome :=
  .refused s!"{program}: {message}\nTry '{program} --help' for more information."

/-- The words that are no options. -/
def operands (args : List String) : List String :=
  args.filter fun a => !("-".isPrefixOf a) || a = "-"

def cat (s : Store m) : List String → m Outcome
  | [] => pure {}
  | file :: rest => do
    let r ← s.read (.ofText file)
    let others ← cat s rest
    match r with
    | .ok content => return { others with output := content ++ others.output }
    | .error flaw =>
      return { others with status := 1, errors := s!"cat: {file}: {flaw.description}\n" ++ others.errors }

/-- The path of a copy, which goes into a directory under its own name. -/
def placeOf (s : Store m) (source target : Path) : m Path := do
  if ← s.isDirectory target then
    return target.child (String.ofList (source.names.getLastD []))
  else return target

def copy (s : Store m) (program : String) : List String → m Outcome
  | [] => pure (askForHelp program "missing file operand")
  | [file] => pure (askForHelp program s!"missing destination file operand after '{file}'")
  | file :: target :: _ => do
    let source := Path.ofText file
    match ← s.read source with
    | .error .isDirectory => return .refused s!"{program}: -r not specified; omitting directory '{file}'"
    | .error flaw => return .refused s!"{program}: cannot stat '{file}': {flaw.description}"
    | .ok content =>
      let place ← placeOf s source (.ofText target)
      if place = source then
        return .refused s!"{program}: '{file}' and '{place.text}' are the same file"
      match ← s.write place content with
      | .error flaw =>
        return .refused s!"{program}: cannot create regular file '{place.text}': {flaw.description}"
      | .ok () =>
        if program = "mv" then
          let _ ← s.remove source
        return {}

/-- Does something for each operand until it is refused. -/
def forEach (act : String → m (Except String Unit)) : List String → m Outcome
  | [] => pure {}
  | file :: rest => do
    let r ← act file
    let others ← forEach act rest
    match r with
    | .ok () => return others
    | .error message => return { others with status := 1, errors := message ++ "\n" ++ others.errors }

def touch (s : Store m) (file : String) : m (Except String Unit) := do
  match ← s.read (.ofText file) with
  | .error .missing =>
    return (← s.write (.ofText file) "").mapError fun flaw =>
      s!"touch: cannot touch '{file}': {flaw.description}"
  | .error .isDirectory => return .ok ()
  | .error flaw => return .error s!"touch: cannot touch '{file}': {flaw.description}"
  | .ok _ => return .ok ()

def makeDirectory (s : Store m) (parents : Bool) (file : String) : m (Except String Unit) := do
  let p := Path.ofText file
  let r ← if parents then s.createDirectories p else s.createDirectory p
  return r.mapError fun flaw => s!"mkdir: cannot create directory '{file}': {flaw.description}"

def removeFile (s : Store m) (force : Bool) (file : String) : m (Except String Unit) := do
  match ← s.remove (.ofText file) with
  | .error .missing =>
    return if force then .ok () else .error s!"rm: cannot remove '{file}': {Flaw.missing.description}"
  | r => return r.mapError fun flaw => s!"rm: cannot remove '{file}': {flaw.description}"

/-- The number of a signal that an option names. -/
def signalOf? (option : String) : Option Nat :=
  match option.toNat? with
  | some n => some n
  | none =>
    let name := (if "SIG".isPrefixOf option then option.drop 3 else option.drop 0).toString
    (signals.find? fun e => e.2 = name).map Prod.fst

/-- The number by which a script knows its own run. -/
def ownNumber : String := "1"

def kill (args : List String) : Outcome :=
  let (signal, targets) := match args with
    | "-s" :: name :: rest => (signalOf? name, rest)
    | first :: rest =>
      if "-".isPrefixOf first then (signalOf? (first.drop 1).toString, rest) else (some 15, first :: rest)
    | [] => (some 15, [])
  match signal with
  | some number =>
    if targets.contains ownNumber && number != 0 then { ended := some (.signalled number) }
    else if targets.isEmpty then { status := 2, errors := "kill: no process given\n" }
    else {}
  | none => { status := 2, errors := "kill: no such signal\n" }

/-- Runs a program other than a shell, if there is one of that name. -/
def program? (s : Store m) (name : String) (args : List String) : Option (m Outcome) :=
  match name with
  | "true" | ":" | "sleep" => some (pure {})
  | "false" => some (pure { status := 1 })
  | "echo" => some (pure { output := echo args })
  | "printf" => some (pure { output := printf args })
  | "cat" => some (cat s (operands args))
  | "cp" | "mv" => some (copy s name (operands args))
  | "touch" => some (forEach (touch s) (operands args))
  | "mkdir" => some (forEach (makeDirectory s (args.contains "-p")) (operands args))
  | "rm" => some (forEach (removeFile s (args.contains "-f")) (operands args))
  | "kill" => some (pure (kill args))
  | _ => none

end Programs

section Scripts

variable {m : Type → Type} [Monad m]

/-- What the parameters of a script stand for. -/
structure Parameters where
  /-- The name of the script and its arguments. -/
  words : List String
  status : Nat := 0

def Parameters.value (ps : Parameters) (name : Char) : String :=
  match name with
  | '$' => ownNumber
  | '?' => toString ps.status
  | '#' => toString (ps.words.length - 1)
  | '@' | '*' => " ".intercalate ps.words.tail
  | c => ps.words.getD (c.toNat - '0'.toNat) ""

def Word.text (ps : Parameters) (w : Word) : String :=
  String.join (w.map fun
    | .chars s => String.ofList s
    | .parameter name => ps.value name)

/-- Where a stream goes. -/
inductive Sink where
  | output
  | errors
  | nowhere
  | file (p : Path)
deriving Repr

/-- Where the two streams of a command go, with each file emptied that is not added to. -/
def open_ (s : Store m) (ps : Parameters) (sinks : Sink × Sink) :
    List Redirection → m (Except String (Sink × Sink))
  | [] => pure (.ok sinks)
  | .follow stream leader :: rest =>
    let sink := if leader = '2' then sinks.2 else sinks.1
    open_ s ps (if stream = '2' then (sinks.1, sink) else (sink, sinks.2)) rest
  | .send stream append file :: rest => do
    let name := Word.text ps file
    let set (sink : Sink) := if stream = '2' then (sinks.1, sink) else (sink, sinks.2)
    if name = "/dev/null" then open_ s ps (set .nowhere) rest
    else
      let p := Path.ofText name
      let present ← s.read p
      let opened ← match present, append with
        | .ok _, true => pure (.ok ())
        | _, _ => s.write p ""
      match opened with
      | .ok () => open_ s ps (set (.file p)) rest
      | .error flaw =>
        let reason := match flaw with
          | .missing | .notDirectory => "Directory nonexistent"
          | flaw => flaw.description
        return .error s!"cannot create {name}: {reason}"

/-- Sends what a stream has to where it goes. -/
def deliver (s : Store m) (text : String) (o : Outcome) : Sink → m Outcome
  | .output => pure { o with output := o.output ++ text }
  | .errors => pure { o with errors := o.errors ++ text }
  | .nowhere => pure o
  | .file p => do
    match ← s.read p with
    | .ok content => let _ ← s.write p (content ++ text)
    | .error _ => pure ()
    return o

def runWords (s : Store m) (ps : Parameters) (place : String) : List String → m Outcome
  | [] => pure {}
  | "exit" :: args =>
    pure { ended := some (.exited ((((args[0]?).bind String.toNat?).getD ps.status) % 256)) }
  | name :: args =>
    match program? s name args with
    | some run => run
    | none => pure { status := 127, errors := s!"{place}: {name}: not found\n" }

def runCommand (s : Store m) (ps : Parameters) (c : Command) : m Outcome := do
  let script := ps.words.headD ""
  let place := s!"{script}: {c.line}"
  match ← open_ s ps (.output, .errors) c.redirections with
  | .error message => return { status := 2, errors := s!"{place}: {message}\n" }
  | .ok (out, err) =>
    let o ← runWords s ps place (c.words.map (Word.text ps))
    let own : Outcome := { status := o.status, ended := o.ended }
    deliver s o.errors (← deliver s o.output own out) err

/-- Runs commands one after another, until one of them ends the script. -/
def runCommands (s : Store m) (ps : Parameters) : List Command → m Outcome
  | [] => pure { status := ps.status }
  | c :: rest => do
    let wanted := match c.joint with
      | .always => true
      | .ifSucceeded => ps.status == 0
      | .ifFailed => ps.status != 0
    if wanted then
      let o ← runCommand s ps c
      if o.ended.isSome then return o
      let others ← runCommands s { ps with status := o.status } rest
      return { others with output := o.output ++ others.output, errors := o.errors ++ others.errors }
    else runCommands s ps rest

def runScript (s : Store m) (script : String) (words : List String) : m Outcome :=
  runCommands s ⟨words, 0⟩ (Command.ofText script)

/-- Runs a shell, which takes a script as an argument or from a file. -/
def runShell (s : Store m) : List String → m Outcome
  | "-c" :: script :: name :: args => runScript s script (name :: args)
  | ["-c", script] => runScript s script ["sh"]
  | ["-c"] => pure { status := 2, errors := "sh: 0: -c requires an argument\n" }
  | file :: args => do
    match ← s.read (.ofText file) with
    | .ok script => runScript s script (file :: args)
    | .error _ => return { status := 127, errors := s!"sh: 0: cannot open {file}: No such file\n" }
  | [] => pure {}

/-- Runs a program with arguments. It is refused if there is no such program. -/
def run (s : Store m) (name : String) (args : List String) : m (Except Flaw Outcome) := do
  if name = "sh" then return .ok (← runShell s args)
  match if name = ":" then none else program? s name args with
  | some act => return .ok (← act)
  | none => return .error .missing

def Outcome.ending (o : Outcome) : Ending := o.ended.getD (.exited o.status)

end Scripts

end Vmodl.Shell
