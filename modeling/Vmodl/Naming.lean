import Vmodl.Text.Words

/-!
# Identifiers of the generated module

Names of a schema become identifiers: characters outside ASCII letters, digits and the underscore are
replaced, a digit at the front gets a letter before it, keywords are written raw, and the few words that
cannot be raw get an underscore. A scope keeps the identifiers of one item apart.
-/

namespace Vmodl.Naming

/-- The member under which a struct embeds its parent. -/
def baseField : String := "base"

/-- Words that are written raw as identifiers. -/
def keywords : List String :=
  ["as", "async", "await", "break", "const", "continue", "dyn", "else", "enum", "extern", "false", "fn",
    "for", "gen", "if", "impl", "in", "let", "loop", "match", "mod", "move", "mut", "pub", "ref",
    "return", "static", "struct", "trait", "true", "type", "unsafe", "use", "where", "while", "abstract",
    "become", "box", "do", "final", "macro", "override", "priv", "try", "typeof", "unsized", "virtual",
    "yield"]

/-- Words that cannot be identifiers even when written raw. -/
def reserved : List String := ["self", "Self", "super", "crate", "_"]

def isWordChar (c : Char) : Bool := c.isAlphanum || c == '_'

def clean (name : String) : String :=
  String.ofList (name.toList.map fun c => if isWordChar c then c else '_')

/-- The identifier for a cleaned name; `fallback` stands for names without a letter or digit. -/
def identifier (name digitPrefix fallback : String) : String :=
  let name := if name.toList.all (· == '_') then fallback else name
  let name := if name.toList.head?.any Char.isDigit then digitPrefix ++ name else name
  if reserved.contains name then name ++ "_"
  else if keywords.contains name then "r#" ++ name
  else name

def typeIdent (wireName : String) : String := identifier (clean wireName) "T" "Unnamed"

/-- How names are put into the case of members and methods, and into that of types. -/
structure Casing where
  snake : String → String
  pascal : String → String

namespace Casing

variable (casing : Casing)

def fieldIdent (name : String) : String :=
  let snake := clean (casing.snake name)
  if snake = baseField then baseField ++ "_" else identifier snake "f_" "field"

def methodIdent (name : String) : String := identifier (clean (casing.snake name)) "m_" "method"

def variantIdent (value : String) : String := identifier (clean (casing.pascal value)) "V" "Empty"

def argsIdent (owner name : String) : String :=
  identifier (clean owner ++ clean (casing.pascal name) ++ "Args") "T" "Args"

/-- The case in which the module is written. -/
def usual : Casing := ⟨Text.snakeCase, Text.pascalCase⟩

end Casing

def fieldIdent (name : String) : String := Casing.usual.fieldIdent name

def methodIdent (name : String) : String := Casing.usual.methodIdent name

def variantIdent (value : String) : String := Casing.usual.variantIdent value

def argsIdent (typeWireName methodName : String) : String :=
  Casing.usual.argsIdent typeWireName methodName

/-! ### Scopes -/

structure Scope where
  used : List String
deriving DecidableEq, Repr

namespace Scope

def empty : Scope := ⟨[]⟩

def reserve (s : Scope) (name : String) : Scope := ⟨name :: s.used⟩

/-- The identifier without any raw mark. -/
def stemChars : List Char → List Char
  | 'r' :: '#' :: rest => stemChars rest
  | s => s

def stem (ident : String) : String := String.ofList (stemChars ident.toList)

def numbered (stem : String) (n : Nat) : String := stem ++ "_" ++ toString n

/-- The first free identifier among the numbered ones. One more candidate than there are identifiers
in use always holds a free one. -/
def firstFree (s : Scope) (stem : String) : String :=
  let candidates := (List.range (s.used.length + 1)).map fun n => numbered stem (n + 2)
  (candidates.find? fun c => !s.used.contains c).getD stem

/-- Takes an identifier, or a numbered one where it is in use. -/
def claim (s : Scope) (ident : String) : String × Scope :=
  let ident := if s.used.contains ident then s.firstFree (stem ident) else ident
  (ident, s.reserve ident)

def claimAll (s : Scope) : List String → List String
  | [] => []
  | ident :: rest =>
    let (ident, s) := s.claim ident
    ident :: claimAll s rest

end Scope

end Vmodl.Naming
