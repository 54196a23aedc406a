import Vmodl.Files.Tree

/-!
# Stores

A store is where files are kept: it offers the operations that the tool needs, in some monad. A disk is
one. `Store.replaceFile` writes a file by way of a temporary one beside it, so that nobody reads half of
it.
-/

namespace Vmodl.Files

structure Store (m : Type → Type) where
  createDirectory : Path → m (Except Flaw Unit)
  isDirectory : Path → m Bool
  read : Path → m (Except Flaw String)
  write : Path → String → m (Except Flaw Unit)
  rename : Path → Path → m (Except Flaw Unit)
  remove : Path → m (Except Flaw Unit)

namespace Disk

/-- An operation that leaves the disk as it is where it is refused. -/
def attempt (f : Disk → Except Flaw Disk) : StateM Disk (Except Flaw Unit) := fun d =>
  match f d with
  | .ok d => (.ok (), d)
  | .error flaw => (.error flaw, d)

def store : Store (StateM Disk) where
  createDirectory p := attempt fun d => d.createDirectory p
  isDirectory p := fun d => (d.isDirectory p, d)
  read p := fun d => (d.read p, d)
  write p content := attempt fun d => d.write p content
  rename source target := attempt fun d => d.rename source target
  remove p := attempt fun d => d.remove p

end Disk

/-- Where a file could not be written, and why. -/
structure WriteFailure where
  path : Path
  flaw : Flaw
deriving DecidableEq, Repr

namespace Store

variable {m : Type → Type} [Monad m]

/-- Creates a directory after those above it, which are listed from below. Directories that are there
already are kept. -/
def createFirst (s : Store m) : List Path → m (Except Flaw Unit)
  | [] => pure (.ok ())
  | p :: above => do
    match ← s.createDirectory p with
    | .ok () => return .ok ()
    | .error .missing =>
      match ← createFirst s above with
      | .error flaw => return .error flaw
      | .ok () => keep s p (← s.createDirectory p)
    | .error flaw => keep s p (.error flaw)
where
  /-- A directory that could not be created may be there. -/
  keep (s : Store m) (p : Path) : Except Flaw Unit → m (Except Flaw Unit)
    | .ok () => return .ok ()
    | .error flaw => do
      if ← s.isDirectory p then return .ok () else return .error flaw

def createDirectories (s : Store m) (p : Path) : m (Except Flaw Unit) := createFirst s p.ancestors

/-- Tells at which path an operation was refused. -/
def atPath (p : Path) (x : m (Except Flaw Unit)) : ExceptT WriteFailure m Unit :=
  ExceptT.mk do return (← x).mapError (WriteFailure.mk p)

/-- The directory that has to be there for a file to be written. -/
def directoryOf? (p : Path) : Option Path := p.parent?.filter fun parent => !parent.isEmpty

/-- Writes a file, and the directories above it where they are not there. -/
def replaceFile (s : Store m) (p : Path) (content : String) : ExceptT WriteFailure m Unit := do
  match directoryOf? p with
  | some parent => atPath parent (s.createDirectories parent)
  | none => pure ()
  atPath p.temporary (s.write p.temporary content)
  atPath p (s.rename p.temporary p)

end Store

namespace Disk

/-- A disk with a further file, and with the directories above it. -/
def withFile (d : Disk) (p : Path) (content : String) : Disk :=
  match Store.directoryOf? p with
  | some parent => (store.write p content ((store.createDirectories parent d).2)).2
  | none => (store.write p content d).2

end Disk

end Vmodl.Files
