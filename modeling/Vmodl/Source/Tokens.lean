import Vmodl.Source.Syntax
import Vmodl.Text.Quoted

/-!
# Token text

Source as a sequence of tokens with one blank between any two. Parentheses and brackets hold their
content without blanks inside, braces with one on each side.
-/

namespace Vmodl.Source

abbrev Tokens := List String

namespace Tokens

def text (ts : Tokens) : String := " ".intercalate ts

def parens (ts : Tokens) : String := "(" ++ ts.text ++ ")"

def brackets (ts : Tokens) : String := "[" ++ ts.text ++ "]"

def braces (ts : Tokens) : String :=
  if ts.isEmpty then "\x7b \x7d" else "\x7b " ++ ts.text ++ " \x7d"

/-- The lists with a comma between any two, and perhaps one at the end. -/
def commas (trailing : Bool) : List Tokens → Tokens
  | [] => []
  | [ts] => if trailing then ts ++ [","] else ts
  | ts :: rest => ts ++ "," :: commas trailing rest

end Tokens

open Tokens

def lifetimeText (name : String) : String := "'" ++ name

mutual

def Ty.tokens : Ty → Tokens
  | .path p => Path.tokens p
  | .reference lifetime isMutable referent =>
    "&" :: (lifetime.map lifetimeText).toList ++ (if isMutable then ["mut"] else []) ++ referent.tokens
  | .unit => ["()"]
  | .bounded bound lifetime => "impl" :: Path.tokens bound ++ ["+", lifetimeText lifetime]

def Path.tokens : Path → Tokens
  | .mk rooted segments => (if rooted then ["::"] else []) ++ Segment.tokensList segments

def Segment.tokensList : List Segment → Tokens
  | [] => []
  | [s] => s.tokens
  | s :: rest => s.tokens ++ "::" :: Segment.tokensList rest

def Segment.tokens : Segment → Tokens
  | .plain ident => [ident]
  | .generic ident turbofish arguments =>
    ident :: (if turbofish then ["::"] else []) ++ "<" :: Argument.tokensList arguments ++ [">"]

def Argument.tokensList : List Argument → Tokens
  | [] => []
  | [a] => a.tokens
  | a :: rest => a.tokens ++ "," :: Argument.tokensList rest

def Argument.tokens : Argument → Tokens
  | .lifetime name => [lifetimeText name]
  | .literal text => [text]
  | .type t => t.tokens

end

mutual

def Expr.tokens : Expr → Tokens
  | .path p => p.tokens
  | .qualified type trait member =>
    "<" :: type.tokens ++ "as" :: trait.tokens ++ [">", "::", member]
  | .literal text => [Text.literal text]
  | .tuple items trailing => [parens (commas trailing (Expr.tokensList items))]
  | .array items trailing => [brackets (commas trailing (Expr.tokensList items))]
  | .call function arguments trailing =>
    function.tokens ++ [parens (commas trailing (Expr.tokensList arguments))]
  | .method receiver name arguments trailing =>
    receiver.tokens ++ [".", name, parens (commas trailing (Expr.tokensList arguments))]
  | .field receiver name => receiver.tokens ++ [".", name]
  | .await e => e.tokens ++ [".", "await"]
  | .attempt e => e.tokens ++ ["?"]
  | .borrow isMutable e => "&" :: (if isMutable then ["mut"] else []) ++ e.tokens
  | .record fields => ["Self", braces (Expr.tokensFields fields)]
  | .assign target value => target.tokens ++ "=" :: value.tokens

def Expr.tokensList : List Expr → List Tokens
  | [] => []
  | e :: rest => e.tokens :: Expr.tokensList rest

def Expr.tokensFields : List (String × Expr) → Tokens
  | [] => []
  | (name, e) :: rest => name :: ":" :: e.tokens ++ "," :: Expr.tokensFields rest

end

def Stmt.tokens : Stmt → Tokens
  | .bind isMutable name value =>
    "let" :: (if isMutable then ["mut"] else []) ++ name :: "=" :: value.tokens ++ [";"]
  | .run e => e.tokens ++ [";"]
  | .result e => e.tokens

/-- The tokens of a path of plain names. -/
def identsTokens (idents : List String) : Tokens := idents.intersperse "::"

def Entry.tokens : Entry → Tokens
  | .path idents => identsTokens idents
  | .text name value => [name, "=", Text.literal value]

/-- Fixed documentation is a raw literal. -/
def Attribute.tokens : Attribute → Tokens
  | .doc isInner fixed text =>
    hash isInner ["doc", "=", if fixed then "r\"" ++ text ++ "\"" else Text.literal text]
  | .list isInner name entries trailing =>
    hash isInner [name, parens (commas trailing (entries.map Entry.tokens))]
where
  hash (isInner : Bool) (ts : Tokens) : Tokens :=
    "#" :: (if isInner then ["!"] else []) ++ [brackets ts]

def Parameter.tokens : Parameter → Tokens
  | .receiver isMutable => "&" :: (if isMutable then ["mut"] else []) ++ ["self"]
  | .typed name type => name :: ":" :: type.tokens

def Function.tokens (f : Function) : Tokens :=
  f.attributes.flatMap Attribute.tokens ++ (if f.isPublic then ["pub"] else []) ++
    (if f.isAsync then ["async"] else []) ++ ["fn", f.name] ++
    (match f.typeParameter with
      | some (name, bound) => "<" :: name :: ":" :: bound.tokens ++ [">"]
      | none => []) ++
    [parens (commas f.trailing (f.parameters.map Parameter.tokens))] ++
    (match f.result with
      | some type => "->" :: type.tokens
      | none => []) ++
    [braces (f.body.flatMap Stmt.tokens)]

def Definition.tokens : Definition → Tokens
  | .constant name type value =>
    "const" :: name :: ":" :: type.tokens ++ "=" :: value.tokens ++ [";"]
  | .synonym name type => "type" :: name :: "=" :: type.tokens ++ [";"]
  | .function f => f.tokens

def Field.tokens (f : Field) : Tokens :=
  f.attributes.flatMap Attribute.tokens ++ "pub" :: f.name :: ":" :: f.type.tokens ++ [","]

def Variant.tokens (v : Variant) : Tokens := v.attributes.flatMap Attribute.tokens ++ [v.name, ","]

def Item.tokens : Item → Tokens
  | .reexport p names =>
    "pub" :: "use" :: p.tokens ++ ["::", braces (commas false (names.map fun n => [n])), ";"]
  | .struct attributes name fields =>
    attributes.flatMap Attribute.tokens ++ ["pub", "struct", name, braces (fields.flatMap Field.tokens)]
  | .enumeration attributes name variants =>
    attributes.flatMap Attribute.tokens ++
      ["pub", "enum", name, braces (variants.flatMap Variant.tokens)]
  | .implementation trait type definitions =>
    "impl" :: (match trait with
      | some p => p.tokens ++ ["for"]
      | none => []) ++ type.tokens ++ [braces (definitions.flatMap Definition.tokens)]
  | .function f => f.tokens

def Module.tokens (m : Module) : Tokens :=
  m.attributes.flatMap Attribute.tokens ++ m.items.flatMap Item.tokens

end Vmodl.Source
