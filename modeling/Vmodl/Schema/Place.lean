import Vmodl.Schema.Reader

/-!
# Where a document goes wrong

A document is read in order, so an error is known as soon as enough of the text is read: its place
is the end of the shortest beginning of the text that shows it. That beginning is found by halving
(`turn_holds`, `not_holds_before_turn`).
-/

namespace Vmodl.Schema

/-- A place in a text: its line, counted from 1, and the number of bytes before it on that line. -/
structure Place where
  line : Nat
  column : Nat
deriving DecidableEq, Repr

/-- The place right after a text. -/
def Place.after (s : List Char) : Place where
  line := 1 + s.count '\n'
  column := (String.ofList (s.reverse.takeWhile (· != '\n'))).utf8ByteSize

/-- A number above `low` at which `p` turns from false to true, if it does so up to `high`. -/
def turn (p : Nat → Bool) (low high : Nat) : Nat :=
  if low + 1 < high then
    let middle := (low + high) / 2
    if p middle then turn p low middle else turn p middle high
  else high
termination_by high - low

theorem turn_holds (p : Nat → Bool) (low high : Nat) (h : p high = true) :
    p (turn p low high) = true := by
  fun_induction turn p low high with
  | case1 low high _ middle hmiddle ih => exact ih hmiddle
  | case2 low high _ middle _ ih => exact ih h
  | case3 => exact h

theorem not_holds_before_turn (p : Nat → Bool) (low high : Nat) (hlow : p low = false)
    (h : low < high) : p (turn p low high - 1) = false := by
  fun_induction turn p low high with
  | case1 low high _ middle _ ih => exact ih hlow (by omega)
  | case2 low high _ middle hmiddle ih => exact ih (by simpa using hmiddle) (by omega)
  | case3 low high hclose => rwa [show high - 1 = low by omega]

/-- Tells a beginning of a text with an error in it from one that could still go on well. -/
def isWrong (s : List Char) : Bool :=
  match ofText (String.ofList s) with
  | .ok _ => false
  | .error (.flaw .truncated) => false
  | .error _ => true

def isNumeral (c : Char) : Bool :=
  c.isDigit || c == '.' || c == 'e' || c == 'E' || c == '+' || c == '-'

/-- How much of a text is read when its error is reported. Numbers are read to their end, containers
that are not wanted are not entered, and a repeated name is followed up to its colon. -/
def ReadError.reach (e : ReadError) (s : List Char) : Nat :=
  let size := turn (fun n => isWrong (s.take n)) 0 s.length
  let rest := s.drop size
  match e with
  | .flaw .truncated => s.length
  | .wrongType .sequence _ => size - 1
  | .wrongType .map _ => size - 1
  | .wrongType (.number _) _ => size + (rest.takeWhile isNumeral).length
  | .outOfRange _ _ => size + (rest.takeWhile isNumeral).length
  | .duplicate _ => size + (rest.takeWhile Json.Draft.isSpace).length
  | _ => size

def ReadError.place (e : ReadError) (text : String) : Place :=
  .after (text.toList.take (e.reach text.toList))

end Vmodl.Schema
