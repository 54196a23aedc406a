/-!
# Paths

A path is a text that names a file or a directory. It is kept as its names, each with the separators in
front of it, so that its text is not changed by taking it apart. `Path.text_ofText` says so.
-/

namespace Vmodl.Files

/-- Names and the separators between them. A single dot counts as a separator, unless a relative path
starts with it. -/
structure Path where
  /-- Whether the path starts at the root. -/
  rooted : Bool := false
  /-- The names, each after the separators in front of it. -/
  steps : List (List Char × List Char) := []
  /-- The separators after the last name. -/
  tail : List Char := []
deriving DecidableEq, Repr

namespace Path

/-- What lies between the slashes of a text. -/
def pieces : List Char → List (List Char)
  | [] => [[]]
  | c :: rest =>
    if c = '/' then [] :: pieces rest
    else
      match pieces rest with
      | [] => [[c]]
      | p :: ps => (c :: p) :: ps

/-- Pieces with slashes between them. -/
def joined : List (List Char) → List Char
  | [] => []
  | [p] => p
  | p :: ps => p ++ '/' :: joined ps

theorem pieces_ne_nil (s : List Char) : pieces s ≠ [] := by
  cases s with
  | nil => simp [pieces]
  | cons c rest =>
    unfold pieces
    split
    · simp
    · split <;> simp

theorem joined_cons {p : List Char} {ps : List (List Char)} (h : ps ≠ []) :
    joined (p :: ps) = p ++ '/' :: joined ps := by
  cases ps with
  | nil => exact absurd rfl h
  | cons q qs => rfl

theorem joined_pieces (s : List Char) : joined (pieces s) = s := by
  induction s with
  | nil => rfl
  | cons c rest ih =>
    unfold pieces
    split
    · rename_i h
      rw [joined_cons (pieces_ne_nil rest), ih, h]
      rfl
    · split
      · rename_i h
        exact absurd h (pieces_ne_nil rest)
      · rename_i p ps h
        rw [h] at ih
        cases ps with
        | nil => simpa [joined] using ih
        | cons q qs => simpa [joined] using ih

/-- Whether a piece belongs to the separators. -/
def isGap (dotIsName : Bool) (piece : List Char) : Bool :=
  piece.isEmpty || (piece == ['.'] && !dotIsName)

/-- The names among some pieces, after separators that were met before. -/
def stepsFrom (dotIsName : Bool) (gap : List Char) :
    List (List Char) → List (List Char × List Char) × List Char
  | [] => ([], gap)
  | [p] => if isGap dotIsName p then ([], gap ++ p) else ([(gap, p)], [])
  | p :: ps =>
    if isGap dotIsName p then stepsFrom false (gap ++ p ++ ['/']) ps
    else ((gap, p) :: (stepsFrom false ['/'] ps).1, (stepsFrom false ['/'] ps).2)

def ofText (s : String) : Path :=
  match s.toList with
  | '/' :: rest =>
    let r := stepsFrom false [] (pieces rest)
    ⟨true, r.1, r.2⟩
  | s =>
    let r := stepsFrom true [] (pieces s)
    ⟨false, r.1, r.2⟩

def stepsText (steps : List (List Char × List Char)) : List Char :=
  steps.flatMap fun s => s.1 ++ s.2

def chars (p : Path) : List Char :=
  (if p.rooted then ['/'] else []) ++ stepsText p.steps ++ p.tail

def text (p : Path) : String := String.ofList p.chars

def names (p : Path) : List (List Char) := p.steps.map Prod.snd

def parent? (p : Path) : Option Path :=
  if p.steps.isEmpty then none else some { p with steps := p.steps.dropLast, tail := [] }

def isEmpty (p : Path) : Bool := !p.rooted && p.steps.isEmpty

/-- The path and what lies above it, from the path up. -/
def ancestors (p : Path) : List Path :=
  (p :: (List.range p.steps.length).reverse.map fun k =>
    { p with steps := p.steps.take k, tail := [] }).filter fun q => !q.isEmpty

/-- The path of a name below a path. -/
def child (p : Path) (name : String) : Path :=
  let gap := if p.chars.isEmpty || p.chars.getLast? = some '/' then p.tail else p.tail ++ ['/']
  { p with steps := p.steps ++ [(gap, name.toList)], tail := [] }

/-- The name without its last dot and what follows it. A dot in front does not count. -/
def stem (name : List Char) : List Char :=
  match (name.reverse.dropWhile (· != '.')).drop 1 with
  | [] => name
  | rest => rest.reverse

/-- The path with the last extension of its name replaced by `tmp`, next to the path itself. -/
def temporary (p : Path) : Path :=
  match p.steps.getLast? with
  | some (gap, name) =>
    if name = ['.', '.'] || name = ['.'] then p
    else { p with steps := p.steps.dropLast ++ [(gap, stem name ++ ".tmp".toList)], tail := [] }
  | none => p

theorem stepsFrom_text (dotIsName : Bool) (gap : List Char) (ps : List (List Char)) :
    stepsText (stepsFrom dotIsName gap ps).1 ++ (stepsFrom dotIsName gap ps).2 = gap ++ joined ps := by
  fun_induction stepsFrom dotIsName gap ps with
  | case1 => simp [stepsText, joined]
  | case2 => simp [stepsText, joined]
  | case3 => simp [stepsText, joined]
  | case4 dotIsName gap p ps hne _ ih =>
    rw [ih, joined_cons hne]
    simp
  | case5 dotIsName gap p ps hne _ ih =>
    rw [joined_cons hne]
    simpa [stepsText] using ih

/-- Taking a text apart loses nothing of it. -/
theorem text_ofText (s : String) : (ofText s).text = s := by
  unfold ofText text chars
  split
  · rename_i rest h
    have := stepsFrom_text false [] (pieces rest)
    simp only [joined_pieces, List.nil_append] at this
    simp [this, ← h]
  · have := stepsFrom_text true [] (pieces s.toList)
    simp only [joined_pieces, List.nil_append] at this
    simp [this]

end Path

end Vmodl.Files
