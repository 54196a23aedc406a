/-!
# Scripts

A script is a list of commands. Its text is cut into words, marks that send output elsewhere, and marks
that end a command; quotes and backslashes keep the characters of a word together.
-/

namespace Vmodl.Shell

/-- A part of a word: characters as they are, or a parameter that stands for its value. -/
inductive Piece where
  | chars (s : List Char)
  | parameter (name : Char)
deriving DecidableEq, Repr

abbrev Word := List Piece

/-- Whether a command is run after the one before it. -/
inductive Joint where
  | always
  | ifSucceeded
  | ifFailed
deriving DecidableEq, Repr

inductive Token where
  | word (w : Word)
  /-- Sends a stream to the file that the next word names. -/
  | send (stream : Char) (append : Bool)
  /-- Sends a stream where another one goes. -/
  | follow (stream leader : Char)
  | finish (joint : Joint)
  | newline
deriving DecidableEq, Repr

namespace Token

/-- What the characters at a place are read as. -/
inductive Mode where
  | plain
  | single
  | double
  | comment

def isParameter (c : Char) : Bool := c.isDigit || "$@*#?".toList.contains c

/-- A word with a further character. -/
def extend (w : Option Word) (c : Char) : Option Word :=
  match w with
  | some (.chars s :: rest) => some (.chars (c :: s) :: rest)
  | some w => some (.chars [c] :: w)
  | none => some [.chars [c]]

def extendBy (w : Option Word) (name : Char) : Option Word := some (.parameter name :: w.getD [])

/-- The word that was put together backwards. -/
def flush : Option Word → List Token
  | none => []
  | some w => [.word (w.reverse.map fun
    | .chars s => .chars s.reverse
    | p => p)]

/-- The stream that a digit in front of a mark names, and the word before the mark otherwise. -/
def streamOf : Option Word → Char × Option Word
  | some [.chars [c]] => if c.isDigit then (c, none) else ('1', some [.chars [c]])
  | w => ('1', w)

def scan : Mode → Option Word → List Char → List Token
  | _, w, [] => flush w
  | .single, w, '\'' :: rest => scan .plain w rest
  | .single, w, c :: rest => scan .single (extend w c) rest
  | .double, w, '"' :: rest => scan .plain w rest
  | .double, w, '\\' :: c :: rest =>
    if ['$', '"', '\\', '\x60'].contains c then scan .double (extend w c) rest
    else scan .double (extend (extend w '\\') c) rest
  | .double, w, '$' :: c :: rest =>
    if isParameter c then scan .double (extendBy w c) rest
    else scan .double (extend w '$') (c :: rest)
  | .double, w, c :: rest => scan .double (extend w c) rest
  | .comment, _, '\n' :: rest => .newline :: scan .plain none rest
  | .comment, _, _ :: rest => scan .comment none rest
  | .plain, w, '\'' :: rest => scan .single (some (w.getD [])) rest
  | .plain, w, '"' :: rest => scan .double (some (w.getD [])) rest
  | .plain, w, '\\' :: c :: rest => scan .plain (extend w c) rest
  | .plain, w, '$' :: c :: rest =>
    if isParameter c then scan .plain (extendBy w c) rest
    else scan .plain (extend w '$') (c :: rest)
  | .plain, w, '>' :: '>' :: rest =>
    flush (streamOf w).2 ++ .send (streamOf w).1 true :: scan .plain none rest
  | .plain, w, '>' :: '&' :: c :: rest =>
    flush (streamOf w).2 ++ .follow (streamOf w).1 c :: scan .plain none rest
  | .plain, w, '>' :: rest =>
    flush (streamOf w).2 ++ .send (streamOf w).1 false :: scan .plain none rest
  | .plain, w, '&' :: '&' :: rest => flush w ++ .finish .ifSucceeded :: scan .plain none rest
  | .plain, w, '|' :: '|' :: rest => flush w ++ .finish .ifFailed :: scan .plain none rest
  | .plain, w, ';' :: rest => flush w ++ .finish .always :: scan .plain none rest
  | .plain, w, '\n' :: rest => flush w ++ .newline :: scan .plain none rest
  | .plain, w, c :: rest =>
    if c = ' ' || c = '\t' then flush w ++ scan .plain none rest
    else if c = '#' && w.isNone then scan .comment none rest
    else scan .plain (extend w c) rest

end Token

inductive Redirection where
  | send (stream : Char) (append : Bool) (file : Word)
  | follow (stream leader : Char)
deriving DecidableEq, Repr

structure Command where
  joint : Joint := .always
  line : Nat := 1
  words : List Word := []
  redirections : List Redirection := []
deriving Repr

namespace Command

def isEmpty (c : Command) : Bool := c.words.isEmpty && c.redirections.isEmpty

/-- The commands that some tokens make up, after the one begun. -/
def ofTokens (c : Command) : List Token → List Command
  | [] => [c]
  | .word w :: rest => ofTokens { c with words := c.words ++ [w] } rest
  | .send stream append :: .word w :: rest =>
    ofTokens { c with redirections := c.redirections ++ [.send stream append w] } rest
  | .send _ _ :: rest => ofTokens c rest
  | .follow stream leader :: rest =>
    ofTokens { c with redirections := c.redirections ++ [.follow stream leader] } rest
  | .finish joint :: rest => c :: ofTokens { joint := joint, line := c.line } rest
  | .newline :: rest =>
    if c.isEmpty then ofTokens { c with line := c.line + 1 } rest
    else c :: ofTokens { line := c.line + 1 } rest

def ofText (s : String) : List Command :=
  (ofTokens {} (Token.scan .plain none s.toList)).filter fun c => !c.isEmpty

end Command

end Vmodl.Shell
