/-!
# Layout of text in lines

A document is a sequence of words, breaks and boxes. A box that fits into the rest of its line, with the
words that follow it up to the next break, is set on that line. Otherwise a consistent box breaks its
line at each break, and an inconsistent one only where the words up to the next break do not fit.
-/

namespace Vmodl.Source

structure Break where
  /-- The blanks that are written where the line goes on. -/
  blanks : Nat := 0
  /-- How the next line is indented, relative to the box. -/
  offset : Int := 0
  /-- Whether the line never ends here. -/
  never : Bool := false
  /-- Whether a comma ends the line. -/
  comma : Bool := false
  /-- Whether the break is dropped at the end of a box. -/
  ifNonempty : Bool := false

inductive Doc where
  | word (s : String)
  | brk (b : Break)
  | box (isConsistent : Bool) (indent : Int) (widest : Option Nat) (content : List Doc)

namespace Layout

/-- The width of a break at which the line must end, more than any line has. -/
def unbounded : Nat := 0xffff

/-- The width of a line; the end of a deeply indented line is moved so that there is room. -/
def margin : Int := 89

def leastSpace : Int := 60

def zeroBreak : Doc := .brk {}

def space : Doc := .brk { blanks := 1 }

def hardBreak : Doc := .brk { blanks := unbounded }

def neverBreak : Doc := .brk { never := true }

/-- A break that ends the line with a comma. -/
def commaBreak (blanks : Nat) : Doc := .brk { blanks, comma := true }

/-- Moves the line after the last break of a box by `offset`. -/
def shiftLast (offset : Int) : List Doc → List Doc
  | [] => []
  | [.brk b] => [.brk { b with offset := b.offset + offset }]
  | d :: rest => d :: shiftLast offset rest

/-- A break that is all the content of a box has no effect, nor has an optional one at its end. -/
def tidy (content : List Doc) : List Doc :=
  match content.reverse with
  | [.brk _] => []
  | .brk b :: rest => if b.ifNonempty then rest.reverse else content
  | _ => content

def consistent (indent : Int) (content : List Doc) : Doc := .box true indent none (tidy content)

def inconsistent (indent : Int) (content : List Doc) : Doc := .box false indent none (tidy content)

mutual

/-- The width on one line. A box that is wider than it may be does not fit on any. -/
def width : Doc → Nat
  | .word s => s.utf8ByteSize
  | .brk b => b.blanks
  | .box _ _ widest content =>
    let w := widthAll content
    match widest with
    | some limit => if limit < w then w + unbounded else w
    | none => w

def widthAll : List Doc → Nat
  | [] => 0
  | d :: rest => width d + widthAll rest

end

/-- The width up to the next break, with `after` for what follows the documents. -/
def widthToBreak (after : Nat) : List Doc → Nat
  | [] => after
  | .brk _ :: _ => 0
  | d :: rest => width d + widthToBreak after rest

/-! ### Lines -/

/-- The text so far, its pieces in reverse, and the room on its last line. -/
structure Page where
  pieces : List String
  /-- The blanks that come before the next word. -/
  pending : Nat
  space : Int

namespace Page

def start : Page := ⟨[], 0, margin⟩

def flush (p : Page) : Page :=
  if p.pending = 0 then p
  else { p with pieces := String.ofList (List.replicate p.pending ' ') :: p.pieces, pending := 0 }

def word (p : Page) (s : String) : Page :=
  let p := p.flush
  { p with pieces := s :: p.pieces, space := p.space - s.utf8ByteSize }

def stay (p : Page) (b : Break) : Page :=
  { p with pending := p.pending + b.blanks, space := p.space - b.blanks }

def newLine (p : Page) (indent : Int) (b : Break) : Page :=
  let p := if b.comma then { p.flush with pieces := "," :: p.flush.pieces } else p
  let indent := indent + b.offset
  { pieces := "\n" :: p.pieces, pending := indent.toNat, space := max (margin - indent) leastSpace }

def text (p : Page) : String := String.join p.pieces.reverse

end Page

/-- How the lines of a box are broken. -/
inductive Mode where
  | fits
  | consistent
  | inconsistent
deriving DecidableEq, Repr

mutual

/-- Sets a document, `after` being the width of what follows up to the next break. -/
def setOne (indent : Int) (mode : Mode) (after : Nat) (p : Page) : Doc → Page
  | .word s => p.word s
  | .brk b =>
    let fits := b.never || match mode with
      | .fits => true
      | .consistent => false
      | .inconsistent => (b.blanks + after : Nat) ≤ p.space
    if fits then p.stay b else p.newLine indent b
  | .box isConsistent offset widest content =>
    if (width (.box isConsistent offset widest content) + after : Nat) > p.space then
      setAll (indent + offset) (if isConsistent then .consistent else .inconsistent) after p content
    else setAll indent .fits after p content

def setAll (indent : Int) (mode : Mode) (after : Nat) (p : Page) : List Doc → Page
  | [] => p
  | d :: rest => setAll indent mode after (setOne indent mode (widthToBreak after rest) p d) rest

end

def text (docs : List Doc) : String := (setAll 0 .inconsistent 0 .start docs).text

end Layout

end Vmodl.Source
