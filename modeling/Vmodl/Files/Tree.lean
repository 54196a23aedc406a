import Vmodl.Files.Path

/-!
# File trees

A file tree says what lies at each location below its root: a file with its text, or a directory. A
disk is a file tree with a working directory, from which relative paths start. Its operations are those
that the tool needs, and each one refuses for the reasons listed as `Flaw`.
-/

namespace Vmodl.Files

inductive Flaw where
  | missing
  | exists
  | notDirectory
  | isDirectory
  | busy
  /-- A reason that file trees do not know. -/
  | other (code : Nat) (description : String)
deriving DecidableEq, Repr

namespace Flaw

def code : Flaw → Nat
  | .missing => 2
  | .busy => 16
  | .exists => 17
  | .notDirectory => 20
  | .isDirectory => 21
  | .other code _ => code

def description : Flaw → String
  | .missing => "No such file or directory"
  | .busy => "Device or resource busy"
  | .exists => "File exists"
  | .notDirectory => "Not a directory"
  | .isDirectory => "Is a directory"
  | .other _ description => description

/-- The class of the reason. -/
def kind : Flaw → String
  | .missing => "NotFound"
  | .busy => "ResourceBusy"
  | .exists => "AlreadyExists"
  | .notDirectory => "NotADirectory"
  | .isDirectory => "IsADirectory"
  | .other _ _ => "Uncategorized"

def message (flaw : Flaw) : String := s!"{flaw.description} (os error {flaw.code})"

end Flaw

inductive Entry where
  | file (content : String)
  | directory
deriving DecidableEq, Repr

/-- The names from the root down. -/
abbrev Location := List (List Char)

abbrev Tree := List (Location × Entry)

namespace Tree

/-- What lies at a location. The root is a directory. -/
def get? (t : Tree) (at_ : Location) : Option Entry :=
  if at_ = [] then some .directory else t.lookup at_

def erase (t : Tree) (at_ : Location) : Tree := t.filter fun e => e.1 != at_

def put (t : Tree) (at_ : Location) (e : Entry) : Tree := t.erase at_ ++ [(at_, e)]

theorem lookup_erase_self (t : Tree) (at_ : Location) : (t.erase at_).lookup at_ = none := by
  induction t with
  | nil => rfl
  | cons e rest ih =>
    obtain ⟨location, entry⟩ := e
    unfold erase at ih ⊢
    rw [List.filter_cons]
    by_cases h : location = at_
    · simp only [h, bne_self_eq_false, Bool.false_eq_true, if_false]
      exact ih
    · have hbeq : (at_ == location) = false := beq_false_of_ne (Ne.symm h)
      simp only [bne_iff_ne.2 h, if_true, List.lookup_cons, hbeq]
      exact ih

theorem lookup_erase_of_ne (t : Tree) {at_ other : Location} (h : other ≠ at_) :
    (t.erase at_).lookup other = t.lookup other := by
  induction t with
  | nil => rfl
  | cons e rest ih =>
    obtain ⟨location, entry⟩ := e
    unfold erase at ih ⊢
    rw [List.filter_cons]
    by_cases he : location = at_
    · have hbeq : (other == at_) = false := beq_false_of_ne h
      simp only [he, bne_self_eq_false, Bool.false_eq_true, if_false]
      simp only [List.lookup_cons, hbeq]
      exact ih
    · simp only [bne_iff_ne.2 he, if_true, List.lookup_cons]
      split
      · rfl
      · exact ih

theorem get?_erase_of_ne (t : Tree) {at_ other : Location} (h : other ≠ at_) :
    (t.erase at_).get? other = t.get? other := by
  unfold get?
  rw [lookup_erase_of_ne t h]

theorem get?_put_self (t : Tree) {at_ : Location} (e : Entry) (h : at_ ≠ []) :
    (t.put at_ e).get? at_ = some e := by
  simp [get?, put, h, List.lookup_append, lookup_erase_self]

theorem get?_put_of_ne (t : Tree) {at_ other : Location} (e : Entry) (h : other ≠ at_) :
    (t.put at_ e).get? other = t.get? other := by
  have hbeq : (other == at_) = false := beq_false_of_ne h
  simp [get?, put, List.lookup_append, lookup_erase_of_ne t h, List.lookup_cons, hbeq]

/-- Where a name leads from a directory. -/
def step (at_ : Location) (name : List Char) : Location :=
  if name = ['.'] then at_ else if name = ['.', '.'] then at_.dropLast else at_ ++ [name]

/-- Where names lead, each of which is looked up in a directory. What lies at the end is not looked
at. -/
def walk (t : Tree) (at_ : Location) : List (List Char) → Except Flaw Location
  | [] => .ok at_
  | name :: rest =>
    match t.get? at_ with
    | none => .error .missing
    | some (.file _) => .error .notDirectory
    | some .directory => walk t (step at_ name) rest

/-- What lies below a location, by the names that lead there. -/
def below (t : Tree) (at_ : Location) : List (String × Entry) :=
  t.filterMap fun e =>
    if at_.isPrefixOf e.1 && e.1 != at_ then
      some ("/".intercalate ((e.1.drop at_.length).map String.ofList), e.2)
    else none

end Tree

structure Disk where
  tree : Tree := []
  /-- The working directory. -/
  here : Location := []
deriving Repr

namespace Disk

def locate (d : Disk) (p : Path) : Except Flaw Location :=
  if p.isEmpty then .error .missing
  else d.tree.walk (if p.rooted then [] else d.here) p.names

/-- Whether a path ends in a name, and not in a dot, two dots or the root. -/
def endsInName (p : Path) : Bool :=
  p.names.getLast?.any fun name => name != ['.'] && name != ['.', '.']

def createDirectory (d : Disk) (p : Path) : Except Flaw Disk := do
  let at_ ← d.locate p
  if !endsInName p then throw .exists
  match d.tree.get? at_ with
  | some _ => throw .exists
  | none => return { d with tree := d.tree.put at_ .directory }

def isDirectory (d : Disk) (p : Path) : Bool :=
  match d.locate p with
  | .ok at_ => d.tree.get? at_ = some .directory
  | .error _ => false

def read (d : Disk) (p : Path) : Except Flaw String := do
  match d.tree.get? (← d.locate p) with
  | none => throw .missing
  | some .directory => throw .isDirectory
  | some (.file content) => if p.tail.isEmpty then return content else throw .notDirectory

/-- Replaces the content of a file, or makes the file. -/
def write (d : Disk) (p : Path) (content : String) : Except Flaw Disk := do
  let at_ ← d.locate p
  if !p.tail.isEmpty || !endsInName p then throw .isDirectory
  match d.tree.get? at_ with
  | some .directory => throw .isDirectory
  | _ => return { d with tree := d.tree.put at_ (.file content) }

/-- Moves a file, also over another one. -/
def rename (d : Disk) (source target : Path) : Except Flaw Disk := do
  let old ← d.locate source
  let new ← d.locate target
  if !endsInName source || !endsInName target then throw .busy
  match d.tree.get? old with
  | none => throw .missing
  | some .directory => throw .isDirectory
  | some (.file content) =>
    if !source.tail.isEmpty || !target.tail.isEmpty then throw .notDirectory
    if d.tree.get? new = some .directory then throw .isDirectory
    return { d with tree := (d.tree.erase old).put new (.file content) }

def remove (d : Disk) (p : Path) : Except Flaw Disk := do
  let at_ ← d.locate p
  match d.tree.get? at_ with
  | none => throw .missing
  | some .directory => throw .isDirectory
  | some (.file _) => return { d with tree := d.tree.erase at_ }

end Disk

end Vmodl.Files
