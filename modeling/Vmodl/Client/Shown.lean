import Vmodl.Client.Value

/-!
# Values as shown in logs

The text that a generated type prints for debugging. Structures print the fields of each parent inside a
field `base`; only the arguments of a method leave out their secrets.
-/

namespace Vmodl

/-- How reals are shown: a decimal place always, and an exponent outside `1e-4` to `1e16`. -/
def Decimal.shown (d : Decimal) : String :=
  if d.digits = 0 then "0.0"
  else if d.leading < -4 ∨ 16 ≤ d.leading then
    let mantissa := match d.digitList with
      | c :: e :: rest => String.ofList (c :: '.' :: e :: rest)
      | ds => String.ofList ds
    mantissa ++ "e" ++ toString d.leading
  else if 0 ≤ d.exponent then d.positional ++ ".0" else d.positional

def BinaryFormat.shown (f : BinaryFormat) (bits : Nat) : String :=
  match f.value bits with
  | .nan => "NaN"
  | .infinite negative => if negative then "-inf" else "inf"
  | .finite negative m q => (if negative then "-" else "") ++ (Decimal.shortest f m q).shown

namespace Shown

def block (opening closing : String) (parts : List String) : String :=
  opening ++ ", ".intercalate parts ++ closing

/-- A structure with its fields; one without fields is its name alone. -/
def fields (name : String) (parts : List String) : String :=
  if parts.isEmpty then name else block (name ++ " \x7b ") " \x7d" parts

def field (name text : String) : String := name ++ ": " ++ text

/-- The name without any raw mark. -/
def bare (ident : String) : String := Naming.Scope.stem ident

/-- What stands for a secret. -/
def redacted : String := Text.quoted "<redacted>"

def byteChars (b : UInt8) : List Char :=
  match Char.ofNat b.toNat with
  | '\n' => ['\\', 'n']
  | '\r' => ['\\', 'r']
  | '\t' => ['\\', 't']
  | '\\' => ['\\', '\\']
  | '"' => ['\\', '"']
  | '\x00' => ['\\', '0']
  | c =>
    if 0x20 ≤ b ∧ b < 0x7f then [c]
    else ['\\', 'x', Json.hexDigit (b.toNat / 16), Json.hexDigit (b.toNat % 16)]

def bytes (bs : List UInt8) : String := String.ofList ('b' :: '"' :: bs.flatMap byteChars ++ ['"'])

mutual

def json : Json → String
  | .null => "Null"
  | .bool b => "Bool(" ++ toString b ++ ")"
  | .number n => "Number(" ++ n.text ++ ")"
  | .string s => "String(" ++ Text.quoted s ++ ")"
  | .array items => "Array " ++ block "[" "]" (jsonItems items)
  | .object members => "Object " ++ block "\x7b" "\x7d" (jsonMembers members)

def jsonItems : List Json → List String
  | [] => []
  | j :: rest => json j :: jsonItems rest

def jsonMembers : List (String × Json) → List String
  | [] => []
  | (name, j) :: rest => field (Text.quoted name) (json j) :: jsonMembers rest

end

/-- The texts of the fields of a chain of types, each type inside the next one as its `base`. -/
def chain (base : Option String) : List StructType → List String → Option String
  | [], _ => base
  | t :: types, texts =>
    let own := t.own.zipWith (fun slot text => field (bare slot.ident) text) texts
    let parts := match base with
      | some base => field Naming.baseField base :: own
      | none => own
    chain (some (fields (bare t.name.ident) parts)) types (texts.drop t.own.length)

/-- The root of a handle shows its reference. -/
def reference (r : Wire.Reference) : String :=
  "ManagedObject \x7b reference: ManagedObjectReference \x7b type_name: " ++ Text.quoted r.typeName ++
    ", value: " ++ Text.quoted r.handle ++ " \x7d, .. \x7d"

def variant (c : Client) (type : TypeName) (value : String) : String :=
  match (c.enum? type).bind fun e => e.variants.find? fun v => v.2 == value with
  | some (ident, _) => bare ident
  | none => value

end Shown

namespace Value

mutual

def shown (c : Client) : Value → String
  | .unit => "()"
  | .integer n => toString n
  | .single bits => BinaryFormat.single.shown bits.toNat
  | .double bits => BinaryFormat.double.shown bits.toNat
  | .boolean b => toString b
  | .text s => Text.quoted s
  | .any j => Shown.json j
  | .dateTime t => t.textZulu
  | .binary bytes => "Binary(" ++ Shown.bytes bytes ++ ")"
  | .enumeration type value => Shown.variant c type value
  | .absent => "None"
  | .present v => "Some(" ++ shown c v ++ ")"
  | .list items => Shown.block "[" "]" (shownItems c items)
  | .record type values =>
    (Shown.chain none (c.recordChain type) (shownItems c values)).getD type.ident
  | .handle type reference values =>
    let base := Shown.reference reference
    (Shown.chain (some base) ((c.handleChain type).drop 1) (shownItems c values)).getD type.ident

def shownItems (c : Client) : List Value → List String
  | [] => []
  | v :: rest => shown c v :: shownItems c rest

end

end Value

end Vmodl
