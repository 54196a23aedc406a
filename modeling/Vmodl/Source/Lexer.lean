import Vmodl.Text.Blank
import Vmodl.Text.IdentifierSets
import Vmodl.Text.Quoted

/-!
# Lexemes of source

Source text is cut into identifiers, punctuation, literals and brackets. Blanks and comments stand
between lexemes and are dropped; comments that document something are not plain comments.
-/

namespace Vmodl.Source

inductive Lexeme where
  | ident (name : String)
  /-- A mark; `joint` says that another mark follows at once. -/
  | mark (c : Char) (joint : Bool)
  | lifetime (name : String)
  | literal (text : String)
  | opening (c : Char)
  | closing (c : Char)
deriving DecidableEq, Repr

namespace Lexer

def isIdentStart (c : Char) : Bool := c == '_' || Text.inRanges Text.startRanges c.toNat

def isIdentContinue (c : Char) : Bool :=
  Text.inRanges Text.startRanges c.toNat || Text.inRanges Text.continueRanges c.toNat

def marks : List Char := "~!@#$%^&*-=+|;:,<.>/?'".toList

def isMark (c : Char) : Bool := marks.contains c

/-- Left-to-right and right-to-left marks count as blanks, too. -/
def isBlank (c : Char) : Bool := Text.isBlank c || c == '\u200e' || c == '\u200f'

/-- A word that starts with a letter or an underscore. -/
def word? (s : List Char) : Option (List Char × List Char) :=
  match s with
  | c :: rest =>
    if isIdentStart c then
      let tail := rest.takeWhile isIdentContinue
      some (c :: tail, rest.drop tail.length)
    else none
  | [] => none

/-- An identifier, which is raw after `r#`. Some words cannot be raw. -/
def ident? (s : List Char) : Option (String × List Char) :=
  match s with
  | 'r' :: '#' :: rest =>
    match word? rest with
    | some (w, rest) =>
      let w := String.ofList w
      if ["_", "super", "self", "Self", "crate"].contains w then none else some ("r#" ++ w, rest)
    | none => none
  | s => (word? s).map fun (w, rest) => (String.ofList w, rest)

/-- What follows a comment in stars, which may hold others. -/
def skipComment : Nat → List Char → Option (List Char)
  | depth, '/' :: '*' :: rest => skipComment (depth + 1) rest
  | depth, '*' :: '/' :: rest => if depth ≤ 1 then some rest else skipComment (depth - 1) rest
  | depth, _ :: rest => skipComment depth rest
  | _, [] => none

/-- The rest of the text after one blank or plain comment. -/
def skipOne? (s : List Char) : Option (List Char) :=
  match s with
  | '/' :: '/' :: rest =>
    let documents := match rest with
      | '/' :: '/' :: _ => false
      | '/' :: _ => true
      | '!' :: _ => true
      | _ => false
    if documents then none else some (rest.dropWhile (· != '\n'))
  | '/' :: '*' :: '*' :: '/' :: rest => some rest
  | '/' :: '*' :: rest =>
    let documents := match rest with
      | '*' :: '*' :: _ => false
      | '*' :: _ => true
      | '!' :: _ => true
      | _ => false
    if documents then none else skipComment 1 rest
  | c :: rest => if isBlank c then some rest else none
  | [] => none

/-! ### Literals -/

/-- What follows the escape after a backslash. -/
def skipEscape : List Char → Option (List Char)
  | 'x' :: a :: b :: rest =>
    if '0' ≤ a ∧ a ≤ '7' ∧ b.isDigit || ('0' ≤ a ∧ a ≤ '7' ∧ 'a' ≤ b.toLower ∧ b.toLower ≤ 'f') then
      some rest
    else none
  | 'u' :: '\x7b' :: rest =>
    match rest.dropWhile fun c => c.isDigit || c == '_' || ('a' ≤ c.toLower && c.toLower ≤ 'f') with
    | '\x7d' :: rest => some rest
    | _ => none
  | '\n' :: rest => some rest
  | c :: rest => if ['n', 'r', 't', '\\', '0', '\'', '"'].contains c then some rest else none
  | [] => none

/-- What follows a text up to its closing quote, for at most `steps` characters. -/
def skipText (quote : Char) : Nat → List Char → Option (List Char)
  | steps + 1, '\\' :: rest => (skipEscape rest).bind (skipText quote steps)
  | steps + 1, c :: rest => if c = quote then some rest else skipText quote steps rest
  | _, _ => none

/-- What follows a raw text up to a quote and so many hashes. -/
def skipRaw (hashes : Nat) : List Char → Option (List Char)
  | '"' :: rest =>
    if (rest.take hashes).length = hashes ∧ (rest.take hashes).all (· == '#') then some (rest.drop hashes)
    else skipRaw hashes rest
  | _ :: rest => skipRaw hashes rest
  | [] => none

def rawText? (s : List Char) : Option (List Char) :=
  let hashes := (s.takeWhile (· == '#')).length
  match s.drop hashes with
  | '"' :: rest => skipRaw hashes rest
  | _ => none

def isDigitOf (base : Nat) (c : Char) : Bool :=
  c == '_' || (c.isDigit && c.toNat - 48 < base) ||
    (base == 16 && 'a' ≤ c.toLower && c.toLower ≤ 'f')

def skipDigits (base : Nat) (s : List Char) : Option (List Char) :=
  let digits := s.takeWhile (isDigitOf base)
  let rest := s.drop digits.length
  if digits.all (· == '_') || (rest.head?.any Char.isDigit) then none else some rest

/-- What follows the suffix of a literal, if it has one. -/
def skipSuffix (s : List Char) : List Char := ((word? s).map Prod.snd).getD s

/-- What follows a number: an integer, or a real with a point or an exponent. -/
def number? (s : List Char) : Option (List Char) :=
  match s with
  | '0' :: 'x' :: rest => (skipDigits 16 rest).map skipSuffix
  | '0' :: 'o' :: rest => (skipDigits 8 rest).map skipSuffix
  | '0' :: 'b' :: rest => (skipDigits 2 rest).map skipSuffix
  | c :: _ =>
    if c.isDigit then
      match skipDigits 10 s with
      | some ('.' :: rest) =>
        if rest.head?.any fun c => c == '.' || isIdentStart c then some ('.' :: rest)
        else some (skipSuffix (rest.dropWhile (isDigitOf 10)))
      | some rest => some (skipSuffix rest)
      | none => none
    else none
  | [] => none

def literal? (s : List Char) : Option (List Char) :=
  let rest := match s with
    | '"' :: rest => skipText '"' rest.length rest
    | 'r' :: '"' :: rest => rawText? ('"' :: rest)
    | 'r' :: '#' :: rest => rawText? ('#' :: rest)
    | 'b' :: '"' :: rest => skipText '"' rest.length rest
    | 'c' :: '"' :: rest => skipText '"' rest.length rest
    | 'b' :: 'r' :: rest => rawText? rest
    | 'c' :: 'r' :: rest => rawText? rest
    | 'b' :: '\'' :: '\\' :: rest => (skipEscape rest).bind closeChar
    | 'b' :: '\'' :: _ :: rest => closeChar rest
    | '\'' :: '\\' :: rest => (skipEscape rest).bind closeChar
    | '\'' :: _ :: rest => closeChar rest
    | _ => none
  match rest with
  | some rest => some (skipSuffix rest)
  | none => number? s
where
  closeChar : List Char → Option (List Char)
    | '\'' :: rest => some rest
    | _ => none

/-- The next lexeme of a text that does not start with a blank. -/
def next? (s : List Char) : Option (Lexeme × List Char) :=
  match literal? s with
  | some rest => some (.literal (String.ofList (s.take (s.length - rest.length))), rest)
  | none =>
    match s with
    | [] => none
    | '\'' :: rest =>
      match ident? rest with
      | some (name, rest) => if rest.head? = some '\'' then none else some (.lifetime name, rest)
      | none => none
    | c :: rest =>
      if ['(', '[', '\x7b'].contains c then some (.opening c, rest)
      else if [')', ']', '\x7d'].contains c then some (.closing c, rest)
      else if c = '/' ∧ (rest.head? = some '*') then none
      else if isMark c then
        let startsComment := rest.head? = some '/' ∧ (rest[1]? = some '/' ∨ rest[1]? = some '*')
        some (.mark c (rest.head?.any isMark && !startsComment), rest)
      else (ident? s).map fun (name, rest) => (.ident name, rest)

/-- The lexemes of a text, each of which takes at least one character. -/
def lexemesWithin : Nat → List Char → Option (List Lexeme)
  | _, [] => some []
  | 0, _ => none
  | steps + 1, s =>
    match skipOne? s with
    | some rest => lexemesWithin steps rest
    | none =>
      match next? s with
      | some (l, rest) => (lexemesWithin steps rest).map (l :: ·)
      | none => none

def closes (c d : Char) : Bool :=
  (c == '(' && d == ')') || (c == '[' && d == ']') || (c == '\x7b' && d == '\x7d')

/-- Whether all brackets are closed in order, with those that are open. -/
def balanced (opened : List Char) : List Lexeme → Bool
  | [] => opened.isEmpty
  | .opening c :: rest => balanced (c :: opened) rest
  | .closing d :: rest =>
    match opened with
    | c :: opened => closes c d && balanced opened rest
    | [] => false
  | _ :: rest => balanced opened rest

end Lexer

def lexemes? (text : String) : Option (List Lexeme) :=
  (Lexer.lexemesWithin text.toList.length text.toList).filter (Lexer.balanced [])

end Vmodl.Source
