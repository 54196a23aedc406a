/-!
# Syntax of generated source

The part of the source language that generated modules use, as trees: types, expressions, statements
and items. Lists that may end in a comma say whether they do, for that shows in the token text.
-/

namespace Vmodl.Source

mutual

inductive Ty where
  | path (p : Path)
  | reference (lifetime : Option String) (isMutable : Bool) (referent : Ty)
  | unit
  /-- Any type that implements a trait and outlives a lifetime. -/
  | bounded (bound : Path) (lifetime : String)

/-- A path through modules, from the root of all of them or from here. -/
inductive Path where
  | mk (rooted : Bool) (segments : List Segment)

inductive Segment where
  | plain (ident : String)
  | generic (ident : String) (turbofish : Bool) (arguments : List Argument)

inductive Argument where
  | lifetime (name : String)
  | literal (text : String)
  | type (t : Ty)

end

namespace Path

def segments : Path → List Segment
  | .mk _ segments => segments

def ofIdents (idents : List String) : Path := .mk false (idents.map .plain)

def ofIdent (ident : String) : Path := ofIdents [ident]

/-- The path of a name inside this one. -/
def child (p : Path) (ident : String) : Path :=
  match p with
  | .mk rooted segments => .mk rooted (segments ++ [.plain ident])

end Path

namespace Ty

def ofIdent (ident : String) : Ty := .path (.ofIdent ident)

def apply (ident : String) (arguments : List Ty) : Ty :=
  .path (.mk false [.generic ident false (arguments.map .type)])

end Ty

inductive Expr where
  | path (p : Path)
  /-- A function of a type that it has from a trait. -/
  | qualified (type : Ty) (trait : Path) (member : String)
  | literal (text : String)
  | tuple (items : List Expr) (trailing : Bool)
  | array (items : List Expr) (trailing : Bool)
  | call (function : Expr) (arguments : List Expr) (trailing : Bool)
  | method (receiver : Expr) (name : String) (arguments : List Expr) (trailing : Bool)
  | field (receiver : Expr) (name : String)
  | await (e : Expr)
  | attempt (e : Expr)
  | borrow (isMutable : Bool) (e : Expr)
  /-- A value of the type whose items these are. -/
  | record (fields : List (String × Expr))
  | assign (target value : Expr)

namespace Expr

def ofIdent (ident : String) : Expr := .path (.ofIdent ident)

def unit : Expr := .tuple [] false

end Expr

inductive Stmt where
  | bind (isMutable : Bool) (name : String) (value : Expr)
  | run (e : Expr)
  /-- The value of the block. -/
  | result (e : Expr)

/-- An entry in the list of an attribute. -/
inductive Entry where
  | path (idents : List String)
  | text (name value : String)

inductive Attribute where
  /-- Documentation; `fixed` is the part of it that is the same in all modules. -/
  | doc (isInner fixed : Bool) (text : String)
  | list (isInner : Bool) (name : String) (entries : List Entry) (trailing : Bool)

inductive Parameter where
  | receiver (isMutable : Bool)
  | typed (name : String) (type : Ty)

structure Function where
  attributes : List Attribute := []
  isPublic : Bool := false
  isAsync : Bool := false
  name : String
  /-- A type parameter and the trait that it implements. -/
  typeParameter : Option (String × Path) := none
  parameters : List Parameter
  trailing : Bool := false
  result : Option Ty := none
  body : List Stmt

inductive Definition where
  | constant (name : String) (type : Ty) (value : Expr)
  | synonym (name : String) (type : Ty)
  | function (f : Function)

structure Field where
  attributes : List Attribute := []
  name : String
  type : Ty

structure Variant where
  attributes : List Attribute := []
  name : String

inductive Item where
  | reexport (p : Path) (names : List String)
  | struct (attributes : List Attribute) (name : String) (fields : List Field)
  | enumeration (attributes : List Attribute) (name : String) (variants : List Variant)
  | implementation (trait : Option Path) (type : Ty) (definitions : List Definition)
  | function (f : Function)

structure Module where
  attributes : List Attribute := []
  items : List Item

end Vmodl.Source
