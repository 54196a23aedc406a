import Vmodl.Source.Layout
import Vmodl.Source.Syntax
import Vmodl.Text.Quoted

/-!
# Formatted source

How each piece of source is set in lines: four blanks for each level, one member, field or statement
a line, and lists that do not fit with one element a line and a comma after the last.
-/

namespace Vmodl.Source

open Layout

def step : Int := 4

def words (s : String) : List Doc := [.word s]

/-- The elements of a list with a break after each, the last of which ends its line with a comma. -/
def commaBreaks (lastBlanks : Nat) : List (List Doc) → List Doc
  | [] => []
  | [ds] => ds ++ [commaBreak lastBlanks]
  | ds :: rest => ds ++ .word "," :: space :: commaBreaks lastBlanks rest

/-- A list between delimiters that are not part of its box. -/
def listing (indent : Int) (opening closing : String) (items : List (List Doc)) : List Doc :=
  .word opening ::
    consistent indent (shiftLast (-step) (zeroBreak :: commaBreaks 0 items)) :: [.word closing]

/-- A body in braces with each piece on lines of its own. -/
def braced (pieces : List Doc) : List Doc :=
  .word "\x7b" :: shiftLast (-step) (.brk { blanks := unbounded, ifNonempty := true } :: pieces)

mutual

def Ty.docs : Ty → List Doc
  | .path p => Path.docs false p
  | .reference lifetime isMutable referent =>
    .word "&" :: (match lifetime with
      | some name => [.word ("'" ++ name ++ " ")]
      | none => []) ++ (if isMutable then words "mut " else []) ++ referent.docs
  | .unit => words "()"
  | .bounded bound lifetime =>
    .word "impl " :: Path.docs false bound ++ words (" + '" ++ lifetime)

/-- In expressions the arguments of a segment come after a colon pair. -/
def Path.docs (inExpr : Bool) : Path → List Doc
  | .mk rooted segments => (if rooted then words "::" else []) ++ Segment.docsList inExpr segments

def Segment.docsList (inExpr : Bool) : List Segment → List Doc
  | [] => []
  | [s] => s.docs inExpr
  | s :: rest => s.docs inExpr ++ .word "::" :: Segment.docsList inExpr rest

def Segment.docs (inExpr : Bool) : Segment → List Doc
  | .plain ident => words ident
  | .generic ident _ arguments =>
    if arguments.isEmpty then words ident
    else
      .word ident :: (if inExpr then words "::" else []) ++
        listing step "<" ">" (Argument.docsList arguments)

def Argument.docsList : List Argument → List (List Doc)
  | [] => []
  | a :: rest => a.docs :: Argument.docsList rest

def Argument.docs : Argument → List Doc
  | .lifetime name => words ("'" ++ name)
  | .literal text => words text
  | .type t => t.docs

end

/-- Names of at most this length stay on the line of what they are the start of. -/
def shortLength : Nat := 4

def Expr.isShort : Expr → Bool
  | .path (.mk false [.plain ident]) => ident.utf8ByteSize ≤ shortLength
  | _ => false

/-- Whether the expression puts its own lines between the parentheses of a call. -/
def Expr.isBlock : Expr → Bool
  | .array .. => true
  | .record _ => true
  | _ => false

/-- The break before a point, which is left out after a short name at the start of a line. -/
def pointBreak (atStart : Bool) (receiver : Expr) : List Doc :=
  if atStart && receiver.isShort then [] else [zeroBreak]

def listBody (items : List (List Doc)) : Doc :=
  consistent step (shiftLast (-step) (zeroBreak :: commaBreaks 0 items))

/-- A record of the type at hand is set on one line only if it is short. -/
def recordWidth : Nat := 34

mutual

/-- An expression; `atStart` says whether it starts a line. -/
def Expr.docs (atStart : Bool) : Expr → List Doc
  | .path p => p.docs true
  | .qualified type trait member =>
    .word "<" :: type.docs ++ .word " as " :: trait.docs false ++ words (">::" ++ member)
  | .literal text => words (Text.literal text)
  | .tuple [e] _ =>
    .word "(" :: consistent step
      (shiftLast (-step) (zeroBreak :: Expr.docs false e ++ [.word ",", zeroBreak])) :: words ")"
  | .tuple items _ => .word "(" :: listBody (Expr.docsList items) :: words ")"
  | .array [] _ => words "[]"
  | .array items _ => .word "[" :: listBody (Expr.docsList items) :: words "]"
  | .call function arguments _ =>
    Expr.docs false function ++ .word "(" :: Expr.callDocs arguments ++ words ")"
  | .method receiver name arguments _ =>
    let indent := if atStart && receiver.isShort then -step else 0
    [consistent step (Expr.subDocs atStart receiver ++ pointBreak atStart receiver ++
      .word ("." ++ name) ::
        [consistent indent (.word "(" :: Expr.callDocs arguments ++ words ")")])]
  | .field receiver name =>
    [consistent step (Expr.subDocs atStart receiver ++ pointBreak atStart receiver ++
      words ("." ++ name))]
  | .await e =>
    [consistent step (Expr.subDocs atStart e ++ pointBreak atStart e ++ words ".await")]
  | .attempt e => Expr.docs atStart e ++ words "?"
  | .borrow isMutable e =>
    .word "&" :: (if isMutable then words "mut " else []) ++ Expr.docs false e
  | .record fields =>
    let inner : List Doc := inconsistent (-step) (words "Self") :: .word " \x7b" ::
      .brk { blanks := 1, ifNonempty := true } :: Expr.fieldDocs fields
    [.box true step (some recordWidth) (tidy (shiftLast (-step) inner)), .word "\x7d"]
  | .assign target value =>
    [inconsistent 0 (Expr.docs false target ++ .word " = " :: neverBreak :: Expr.docs false value)]

/-- An expression that a chain goes on from. -/
def Expr.subDocs (atStart : Bool) : Expr → List Doc
  | .method receiver name arguments _ =>
    Expr.subDocs atStart receiver ++ pointBreak atStart receiver ++ .word ("." ++ name) ::
      [consistent 0 (.word "(" :: Expr.callDocs arguments ++ words ")")]
  | .field receiver name =>
    Expr.subDocs atStart receiver ++ pointBreak atStart receiver ++ words ("." ++ name)
  | .await e => Expr.subDocs atStart e ++ pointBreak atStart e ++ words ".await"
  | .attempt e => Expr.subDocs atStart e ++ words "?"
  | .call function arguments _ =>
    Expr.subDocs false function ++ .word "(" :: Expr.callDocs arguments ++ words ")"
  | .path p => [consistent (-step) (p.docs true)]
  | .qualified type trait member =>
    [consistent (-step)
      (.word "<" :: type.docs ++ .word " as " :: trait.docs false ++ words (">::" ++ member))]
  | .literal text => [consistent (-step) (words (Text.literal text))]
  | .borrow isMutable e =>
    [consistent (-step)
      (.word "&" :: (if isMutable then words "mut " else []) ++ Expr.docs false e)]
  | .tuple items _ => [consistent (-step) (.word "(" :: listBody (Expr.docsList items) :: words ")")]
  | .array items _ => [consistent (-step) (.word "[" :: listBody (Expr.docsList items) :: words "]")]
  | .record fields => [consistent (-step) (.word "Self \x7b" :: Expr.fieldDocs fields ++ words "\x7d")]
  | .assign target value =>
    [consistent (-step) (Expr.docs false target ++ .word " = " :: Expr.docs false value)]

/-- What stands between the parentheses of a call. -/
def Expr.callDocs : List Expr → List Doc
  | [e] => if e.isBlock then Expr.docs false e else [listBody [Expr.docs false e]]
  | arguments => [listBody (Expr.docsList arguments)]

def Expr.docsList : List Expr → List (List Doc)
  | [] => []
  | e :: rest => Expr.docs false e :: Expr.docsList rest

def Expr.fieldDocs : List (String × Expr) → List Doc
  | [] => []
  | [(name, e)] => [.word (name ++ ": "), inconsistent 0 (Expr.docs false e), commaBreak 1]
  | (name, e) :: rest =>
    .word (name ++ ": ") :: inconsistent 0 (Expr.docs false e) :: .word "," :: space ::
      Expr.fieldDocs rest

end

def Stmt.docs : Stmt → List Doc
  | .bind isMutable name value =>
    [inconsistent 0
      (.word ("let " ++ (if isMutable then "mut " else "") ++ name ++ " = ") :: neverBreak ::
        value.docs false), .word ";", hardBreak]
  | .run e => [inconsistent 0 (e.docs true ++ words ";"), hardBreak]
  | .result e => [inconsistent 0 (e.docs true), hardBreak]

def trimBlanks (s : List Char) : List Char := (s.reverse.dropWhile (· == ' ')).reverse

/-- Whether each opening of a comment has its end, with the number of those that are open. -/
def closesComments : Nat → List Char → Bool
  | depth, '/' :: '*' :: rest => closesComments (depth + 1) rest
  | depth, '*' :: '/' :: rest => depth != 0 && closesComments (depth - 1) rest
  | depth, _ :: rest => closesComments depth rest
  | depth, [] => depth == 0

/-- The lines without blanks at their ends, but for the last line. -/
def trimLines : List Char → List Char
  | [] => []
  | c :: rest =>
    match c, trimLines rest with
    | ' ', '\n' :: more => '\n' :: more
    | c, more => c :: more

def Entry.words : Entry → List Doc
  | .path idents => Source.words ("::".intercalate idents)
  | .text name value => Source.words (name ++ " = " ++ Text.literal value)

/-- The entries of an attribute; a list that has no comma at its end gets none. -/
def entryDocs (trailing : Bool) : List Entry → List Doc
  | [] => [zeroBreak]
  | [e] => e.words ++ [if trailing then commaBreak 0 else zeroBreak]
  | e :: rest => e.words ++ .word "," :: space :: entryDocs trailing rest

/-- Documentation is a comment wherever it can be one. -/
def docDocs (isInner : Bool) (doc : String) : List Doc :=
  let s := doc.toList
  let startsWith (cs : List Char) : Bool := !isInner && (s.head?.any fun c => cs.contains c)
  if !s.contains '\n' && !startsWith ['/'] then
    [.word ((if isInner then "//!" else "///") ++ String.ofList (trimBlanks s)), hardBreak]
  else if closesComments 0 s && s.getLast? != some '/' && !startsWith ['*', '/'] then
    [.word ((if isInner then "/*!" else "/**") ++ String.ofList (trimLines s) ++ "*/"), hardBreak]
  else [.word ((if isInner then "#![doc = " else "#[doc = ") ++ Text.literal doc ++ "]"), space]

def Attribute.docs : Attribute → List Doc
  | .doc isInner _ text => docDocs isInner text
  | .list isInner name entries trailing =>
    [.word ((if isInner then "#![" else "#[") ++ name ++ "("),
      consistent step (shiftLast (-step) (zeroBreak :: entryDocs trailing entries)), .word ")]", space]

/-! ### Items -/

def Parameter.docs : Parameter → List Doc
  | .receiver isMutable => words (if isMutable then "&mut self" else "&self")
  | .typed name type => .word (name ++ ": ") :: type.docs

def Function.docs (f : Function) : List Doc :=
  f.attributes.flatMap Attribute.docs ++
    [consistent step
      (.word ((if f.isPublic then "pub " else "") ++ (if f.isAsync then "async " else "") ++
          "fn " ++ f.name) ::
        (match f.typeParameter with
          | some (name, bound) =>
            listing 0 "<" ">" [[.word name, inconsistent step (.word ": " :: bound.docs false)]]
          | none => []) ++
        .word "(" :: neverBreak ::
          consistent 0 (shiftLast (-step) (zeroBreak :: commaBreaks 0 (f.parameters.map Parameter.docs))) ::
        .word ")" ::
        (match f.result with
          | some type => [consistent (-step) (.word " -> " :: type.docs)]
          | none => []) ++
        .word " " :: braced (f.body.flatMap Stmt.docs)),
      .word "\x7d", hardBreak]

def Definition.docs : Definition → List Doc
  | .constant name type value =>
    [consistent 0
      (.word ("const " ++ name ++ ": ") :: consistent step type.docs :: .word " = " :: neverBreak ::
        value.docs false ++ words ";"), hardBreak]
  | .synonym name type =>
    [consistent step
      [.word ("type " ++ name ++ " = "), neverBreak, inconsistent (-step) type.docs, .word ";"],
      hardBreak]
  | .function f => f.docs

def Field.docs (f : Field) : List Doc :=
  f.attributes.flatMap Attribute.docs ++ .word ("pub " ++ f.name ++ ": ") :: f.type.docs ++
    [.word ",", hardBreak]

def Variant.docs (v : Variant) : List Doc :=
  v.attributes.flatMap Attribute.docs ++ [.word v.name, .word ",", hardBreak]

/-- An item with a head and a body in braces. -/
def block (head pieces : List Doc) : List Doc :=
  [consistent step (head ++ .word " " :: braced pieces), .word "\x7d", hardBreak]

/-- Names with a comma and a break between any two. -/
def spaced : List String → List Doc
  | [] => []
  | [name] => words name
  | name :: rest => .word name :: .word "," :: space :: spaced rest

def Item.docs : Item → List Doc
  | .reexport p names =>
    .word "pub use " :: p.docs false ++ .word "::\x7b" ::
      [consistent step (shiftLast (-step)
        [zeroBreak, inconsistent 0 (spaced names), commaBreak 0]), .word "\x7d", .word ";", hardBreak]
  | .struct attributes name fields =>
    attributes.flatMap Attribute.docs ++ block (words ("pub struct " ++ name)) (fields.flatMap Field.docs)
  | .enumeration attributes name variants =>
    attributes.flatMap Attribute.docs ++
      block (words ("pub enum " ++ name)) (variants.flatMap Variant.docs)
  | .implementation trait type definitions =>
    let head := match trait with
      | some p => p.docs false ++ space :: .word "for " :: type.docs
      | none => type.docs
    block [inconsistent (-step) (.word "impl" :: .word " " :: head)] (definitions.flatMap Definition.docs)
  | .function f => f.docs

def Module.docs (m : Module) : List Doc :=
  [consistent 0 (m.attributes.flatMap Attribute.docs ++ m.items.flatMap Item.docs)]

def notice : String :=
  "// This code was automatically generated by vmomi-gen. Do not edit manually."

def Module.text (m : Module) : String := notice ++ "\n\n" ++ Layout.text m.docs

end Vmodl.Source
