import Vmodl.Source.Lexer
import Vmodl.Source.Syntax

/-!
# Reading paths

A path is a sequence of names with colon pairs between them. A name may carry arguments in angle
brackets; the words that stand for a place in the tree of modules may not. The arguments that are read
are lifetimes, literals and paths. Other forms of types, truth values and bindings of associated types
are refused, though the grammar of paths has them.
-/

namespace Vmodl.Source

inductive PathFlaw where
  | notTokens
  | truncated
  | notIdentifier
  | keyword (name : String)
  | trailing
  | noComma
  | notType
deriving DecidableEq, Repr

def PathFlaw.message : PathFlaw → String
  | .notTokens => "cannot parse string into token stream"
  | .truncated => "unexpected end of input, expected identifier"
  | .notIdentifier => "expected identifier"
  | .keyword name => s!"expected identifier, found keyword `{name}`"
  | .trailing => "unexpected token"
  | .noComma => "expected `,`"
  | .notType =>
    "expected one of: `for`, parentheses, `fn`, `unsafe`, `extern`, identifier, `::`, `<`, `dyn`, " ++
      "square brackets, `*`, `&`, `!`, `impl`, `_`, lifetime"

namespace PathReader

/-- Words that are no identifiers. -/
def keywords : List String :=
  ["_", "abstract", "as", "async", "await", "become", "box", "break", "const", "continue", "crate", "do",
    "dyn", "else", "enum", "extern", "false", "final", "fn", "for", "if", "impl", "in", "let", "loop",
    "macro", "match", "mod", "move", "mut", "override", "priv", "pub", "ref", "return", "Self", "self",
    "static", "struct", "super", "trait", "true", "try", "type", "typeof", "unsafe", "unsized", "use",
    "virtual", "where", "while", "yield"]

/-- Words that stand for a module. -/
def places : List String := ["super", "self", "crate", "try"]

/-- What follows a colon pair. -/
def colons? : List Lexeme → Option (List Lexeme)
  | .mark ':' true :: .mark ':' _ :: rest => some rest
  | _ => none

/-- What follows the bracket that opens arguments, and whether colons came before it. -/
def openArguments? (ls : List Lexeme) : Option (Bool × List Lexeme) :=
  match ls with
  | .mark '<' true :: .mark '=' _ :: _ => none
  | .mark '<' _ :: rest => some (false, rest)
  | ls =>
    match colons? ls with
    | some (.mark '<' _ :: rest) => some (true, rest)
    | _ => none

mutual

/-- The segments of a path. Each call takes a lexeme, so their number bounds the calls. -/
def segments : Nat → List Lexeme → Except PathFlaw (List Segment × List Lexeme)
  | 0, _ => .error .truncated
  | steps + 1, ls =>
    match ls with
    | [] => .error .truncated
    | .ident name :: rest => do
      let (segment, rest) ←
        if places.contains name then pure (.plain name, rest)
        else if keywords.contains name ∧ name ≠ "Self" then throw (.keyword name)
        else
          match openArguments? rest with
          | some (turbofish, rest) => do
            let (arguments, rest) ← arguments steps rest
            pure (.generic name turbofish arguments, rest)
          | none => pure (.plain name, rest)
      match colons? rest with
      | some (.opening '(' :: _) => pure ([segment], rest)
      | some more => do
        let (segments, rest) ← segments steps more
        pure (segment :: segments, rest)
      | none => pure ([segment], rest)
    | _ => .error .notIdentifier

/-- The arguments up to the closing bracket: lifetimes, literals and paths, and no other forms. -/
def arguments : Nat → List Lexeme → Except PathFlaw (List Argument × List Lexeme)
  | 0, _ => .error .notType
  | steps + 1, ls =>
    match ls with
    | .mark '>' _ :: rest => .ok ([], rest)
    | ls => do
      let (argument, rest) ← match ls with
        | .lifetime name :: rest => pure (Argument.lifetime name, rest)
        | .literal text :: rest => pure (Argument.literal text, rest)
        | .ident name :: rest => do
          let (segments, rest) ← segments steps (.ident name :: rest)
          pure (Argument.type (.path (.mk false segments)), rest)
        | ls =>
          match colons? ls with
          | some rest => do
            let (segments, rest) ← segments steps rest
            pure (Argument.type (.path (.mk true segments)), rest)
          | none => throw .notType
      match rest with
      | .mark '>' _ :: rest => pure ([argument], rest)
      | .mark ',' _ :: rest => do
        let (arguments, rest) ← arguments steps rest
        pure (argument :: arguments, rest)
      | _ => throw .noComma

end

end PathReader

def Path.ofText (text : String) : Except PathFlaw Path :=
  match lexemes? text with
  | none => .error .notTokens
  | some ls => do
    let (rooted, body) := match PathReader.colons? ls with
      | some rest => (true, rest)
      | none => (false, ls)
    let (segments, rest) ← PathReader.segments (ls.length + 1) body
    if rest.isEmpty then return .mk rooted segments else throw .trailing

/-- What the first segment that cannot stand before an imported name is expected to be. -/
def Path.importFlaw? (p : Path) : Option String := go p.segments
where
  name : String :=
    "expected one of: identifier, `self`, `super`, `crate`, `try`, `*`, curly braces"
  go : List Segment → Option String
    | [] => none
    | .plain ident :: rest => if ident = "Self" then some name else go rest
    | .generic ident turbofish _ :: _ =>
      if ident = "Self" ∨ turbofish then some name else some "expected `;`"

/-- Why a path cannot be written in an expression: arguments without colons are read as comparisons. -/
def Path.exprFlaw? (p : Path) : Option String :=
  if p.segments.any fun
    | .generic _ false _ => true
    | _ => false
  then some "comparison operators cannot be chained" else none

end Vmodl.Source
