import Vmodl.Json.Basic

/-!
# Documents read as far as they are well formed

A `Draft` is the tree of a text up to its first flaw, and keeps the flaw at the place where a reader
meets it. A reader that walks a draft in document order so reports whichever comes first, its own
complaint or the flaw of the text. Some flaws matter only to readers that want the value: a number
out of range, or half of a surrogate pair in a string.
-/

namespace Vmodl.Json

/-- Why a text is not a document: it ends too soon, or something in it is out of place. -/
inductive Flaw where
  | truncated
  | misplaced
deriving DecidableEq, Repr

inductive Draft where
  | null
  | bool (b : Bool)
  | number (n : Except Flaw Number)
  | string (s : Except Flaw String)
  /-- The `flaw` stands after the last item. -/
  | array (items : List Draft) (flaw : Option Flaw)
  | object (members : List (Except Flaw String × Draft)) (flaw : Option Flaw)
  | broken (flaw : Flaw)

namespace Draft

def isSpace (c : Char) : Bool := c == ' ' || c == '\n' || c == '\t' || c == '\r'

def skipSpace (s : List Char) : List Char := s.dropWhile isSpace

/-- The flaw of finding `s` where something else has to stand. -/
def flawAt (s : List Char) : Flaw := if s.isEmpty then .truncated else .misplaced

/-- The digits at the start that still fit 64 bits, the number of those taken, and the rest. -/
def takeDigits : Nat → Nat → List Char → Nat × Nat × List Char
  | acc, count, c :: rest =>
    if c.isDigit then
      let next := acc * 10 + (c.toNat - 48)
      if next < UInt64.size then takeDigits next (count + 1) rest else (acc, count, c :: rest)
    else (acc, count, c :: rest)
  | acc, count, [] => (acc, count, [])

/-- Division of doubles, rounded to the nearest. -/
def divide (a b : Nat) : Nat :=
  match BinaryFormat.double.value a, BinaryFormat.double.value b with
  | .finite _ m e, .finite _ n k =>
    if 0 ≤ e - k then BinaryFormat.double.nearest false (m <<< (e - k).toNat) n
    else BinaryFormat.double.nearest false m (n <<< (k - e).toNat)
  | _, _ => a

def multiply (a b : Nat) : Nat :=
  match BinaryFormat.double.value a, BinaryFormat.double.value b with
  | .finite _ m e, .finite _ n k => BinaryFormat.double.ofValue (.finite false (m * n) (e + k))
  | _, _ => a

def powerOfTen (e : Nat) : Nat := BinaryFormat.double.nearestDecimal false 1 e

/-- The double for `significand * 10 ^ e`: the significand is rounded first and then scaled once by a
rounded power of ten, or twice where the power is below `1e-308`. -/
def scaled (significand : Nat) (e : Int) : Except Flaw Nat :=
  let s := BinaryFormat.double.nearest false significand 1
  if significand = 0 then .ok s
  else if 308 < e then .error .misplaced
  else if 0 ≤ e then
    let r := multiply s (powerOfTen e.toNat)
    if r = BinaryFormat.double.infinityBits then .error .misplaced else .ok r
  else if -308 ≤ e then .ok (divide s (powerOfTen (-e).toNat))
  else
    let s := divide s (powerOfTen 308)
    if s = 0 then .ok s
    else if -616 ≤ e then .ok (divide s (powerOfTen (-(e + 308)).toNat))
    else .ok 0

def real (negative : Bool) (significand : Nat) (e : Int) : Except Flaw Number :=
  (scaled significand e).map fun bits => .real (BinaryFormat.double.withSign negative bits).toUInt64

/-- Reads the exponent part after its letter. -/
def readExponent (negative : Bool) (significand : Nat) (e : Int) (s : List Char) :
    Except Flaw (Except Flaw Number × List Char) :=
  let (minus, s) := match s with
    | '+' :: r => (false, r)
    | '-' :: r => (true, r)
    | r => (false, r)
  let digits := s.takeWhile Char.isDigit
  let rest := s.dropWhile Char.isDigit
  if digits.isEmpty then .error (flawAt s)
  else
    let size : Nat := digits.foldl (fun acc c => acc * 10 + (c.toNat - 48)) 0
    let number : Except Flaw Number :=
      if size < 0x80000000 then real negative significand (if minus then e - (size : Nat) else e + (size : Nat))
      else if significand ≠ 0 ∧ !minus then .error .misplaced
      else real negative 0 0
    .ok (number, rest)

/-- Reads what may follow the integer part. -/
def readExponentPart (negative : Bool) (significand : Nat) (e : Int) (s : List Char) :
    Except Flaw (Except Flaw Number × List Char) :=
  match s with
  | 'e' :: r => readExponent negative significand e r
  | 'E' :: r => readExponent negative significand e r
  | _ => .ok (real negative significand e, s)

/-- Reads the digits after the point. Those that no longer fit 64 bits are dropped. -/
def readFraction (negative : Bool) (significand : Nat) (e : Int) (s : List Char) :
    Except Flaw (Except Flaw Number × List Char) :=
  let (significand, count, rest) := takeDigits significand 0 s
  if count = 0 ∧ !(rest.head?.any Char.isDigit) then .error (flawAt rest)
  else readExponentPart negative significand (e - count) (rest.dropWhile Char.isDigit)

/-- Reads a number after its sign. Integers that fit 64 bits stay integers, `-0` apart. -/
def readNumber (negative : Bool) (s : List Char) : Except Flaw (Except Flaw Number × List Char) :=
  let (significand, count, rest) := takeDigits 0 0 s
  if count = 0 then .error (flawAt s)
  else if s.head? = some '0' ∧ 1 < count then .error .misplaced
  else
    let dropped := rest.takeWhile Char.isDigit
    let rest := rest.dropWhile Char.isDigit
    match rest with
    | '.' :: r => readFraction negative significand dropped.length r
    | _ =>
      if dropped.isEmpty ∧ !(rest.head?.any fun c => c == 'e' || c == 'E') then
        if !negative then .ok (.ok (.integer significand), rest)
        else if significand = 0 ∨ 0x8000000000000000 < significand then .ok (real true significand 0, rest)
        else .ok (.ok (.integer (-significand)), rest)
      else readExponentPart negative significand dropped.length rest

def hexValue? (c : Char) : Option Nat :=
  if c.isDigit then some (c.toNat - 48)
  else if 'a' ≤ c ∧ c ≤ 'f' then some (c.toNat - 87)
  else if 'A' ≤ c ∧ c ≤ 'F' then some (c.toNat - 55)
  else none

def hexQuad? (a b c d : Char) : Option Nat := do
  let a ← hexValue? a
  let b ← hexValue? b
  let c ← hexValue? c
  let d ← hexValue? d
  return ((a * 16 + b) * 16 + c) * 16 + d

/-- A string whose opening quote is read. `half` is a leading surrogate that waits for its partner,
and `soft` a flaw that only matters where the text of the string is wanted. -/
def readString (acc : List Char) (half : Option Nat) (soft : Option Flaw) :
    List Char → Except Flaw (Except Flaw String × List Char)
  | [] => .error (soft.getD .truncated)
  | '"' :: rest =>
    match soft, half with
    | none, none => .ok (.ok (String.ofList acc.reverse), rest)
    | _, _ => .ok (.error .misplaced, rest)
  | '\\' :: 'u' :: a :: b :: c :: d :: rest =>
    match hexQuad? a b c d with
    | none => .error .misplaced
    | some n =>
      let leading := 0xD800 ≤ n ∧ n < 0xDC00
      let trailing := 0xDC00 ≤ n ∧ n < 0xE000
      match half with
      | some h =>
        if trailing then
          readString (Char.ofNat (0x10000 + (h - 0xD800) * 0x400 + (n - 0xDC00)) :: acc) none soft rest
        else readString acc none (some .misplaced) rest
      | none =>
        if leading then readString acc (some n) soft rest
        else if trailing then readString acc none (some .misplaced) rest
        else readString (Char.ofNat n :: acc) none soft rest
  | '\\' :: 'u' :: rest => .error (soft.getD (if rest.all (hexValue? · |>.isSome) then .truncated else .misplaced))
  | '\\' :: c :: rest =>
    let soft := if half.isSome then some .misplaced else soft
    match c with
    | '"' => readString ('"' :: acc) none soft rest
    | '\\' => readString ('\\' :: acc) none soft rest
    | '/' => readString ('/' :: acc) none soft rest
    | 'b' => readString ('\x08' :: acc) none soft rest
    | 'f' => readString ('\x0c' :: acc) none soft rest
    | 'n' => readString ('\n' :: acc) none soft rest
    | 'r' => readString ('\r' :: acc) none soft rest
    | 't' => readString ('\t' :: acc) none soft rest
    | _ => .error .misplaced
  | ['\\'] => .error (soft.getD .truncated)
  | c :: rest =>
    let soft := if half.isSome then some .misplaced else soft
    if c.toNat < 32 then .error (soft.getD .misplaced) else readString (c :: acc) none soft rest

/-! ### Values -/

/-- The rest after a word, or the flaw of not finding it. -/
def readWord : List Char → List Char → Except Flaw (List Char)
  | [], s => .ok s
  | _ :: _, [] => .error .truncated
  | w :: ws, c :: s => if w = c then readWord ws s else .error .misplaced

def ofRead (read : Except Flaw (α × List Char)) (build : α → Draft) : Draft × List Char :=
  match read with
  | .ok (a, rest) => (build a, rest)
  | .error flaw => (.broken flaw, [])

/-- A draft that stopped at a flaw; nothing after it is read. -/
def stopped : Draft → Bool
  | .broken _ => true
  | .array _ flaw => flaw.isSome
  | .object _ flaw => flaw.isSome
  | _ => false

mutual

/-- Reads a value. Every call is made on a shorter text, so the length of the text is enough fuel. -/
def readValue : Nat → List Char → Draft × List Char
  | 0, _ => (.broken .truncated, [])
  | fuel + 1, s =>
    match skipSpace s with
    | [] => (.broken .truncated, [])
    | 'n' :: r => ofRead ((readWord "ull".toList r).map fun r => ((), r)) fun _ => .null
    | 't' :: r => ofRead ((readWord "rue".toList r).map fun r => ((), r)) fun _ => .bool true
    | 'f' :: r => ofRead ((readWord "alse".toList r).map fun r => ((), r)) fun _ => .bool false
    | '"' :: r => ofRead (readString [] none none r) .string
    | '-' :: r => ofRead (readNumber true r) .number
    | '[' :: r =>
      match skipSpace r with
      | ']' :: r => (.array [] none, r)
      | r =>
        let (items, flaw, rest) := readItems fuel r
        (.array items flaw, rest)
    | '\x7b' :: r =>
      match skipSpace r with
      | '\x7d' :: r => (.object [] none, r)
      | r =>
        let (members, flaw, rest) := readMembers fuel r
        (.object members flaw, rest)
    | c :: r => if c.isDigit then ofRead (readNumber false (c :: r)) .number else (.broken .misplaced, [])

/-- Reads items up to the closing bracket, from the start of an item. -/
def readItems : Nat → List Char → List Draft × Option Flaw × List Char
  | 0, _ => ([], some .truncated, [])
  | fuel + 1, s =>
    let (item, rest) := readValue fuel s
    if item.stopped then ([item], some .misplaced, [])
    else
      match skipSpace rest with
      | ']' :: rest => ([item], none, rest)
      | ',' :: rest =>
        match skipSpace rest with
        | ']' :: _ => ([item], some .misplaced, [])
        | [] => ([item], some .truncated, [])
        | rest =>
          let (items, flaw, rest) := readItems fuel rest
          (item :: items, flaw, rest)
      | rest => ([item], some (flawAt rest), [])

/-- Reads members up to the closing brace, from the start of a name. -/
def readMembers : Nat → List Char → List (Except Flaw String × Draft) × Option Flaw × List Char
  | 0, _ => ([], some .truncated, [])
  | fuel + 1, s =>
    match skipSpace s with
    | '"' :: r =>
      match readString [] none none r with
      | .error flaw => ([], some flaw, [])
      | .ok (name, rest) =>
        match skipSpace rest with
        | ':' :: rest =>
          let (value, rest) := readValue fuel rest
          if value.stopped then ([(name, value)], some .misplaced, [])
          else
            match skipSpace rest with
            | '\x7d' :: rest => ([(name, value)], none, rest)
            | ',' :: rest =>
              let (members, flaw, rest) := readMembers fuel rest
              ((name, value) :: members, flaw, rest)
            | rest => ([(name, value)], some (flawAt rest), [])
        | rest => ([(name, .broken (flawAt rest))], some .misplaced, [])
    | rest => ([], some (flawAt rest), [])

end

/-- A text as a draft, with the flaw of what follows the value. -/
def ofText (s : String) : Draft × Option Flaw :=
  let cs := s.toList
  let (draft, rest) := readValue (2 * cs.length + 2) cs
  (draft, if draft.stopped || (skipSpace rest).isEmpty then none else some .misplaced)

/-- Containers may nest 127 deep. -/
def depthLimit : Nat := 127

mutual

/-- The value of a draft, with `depth` levels of containers to go. -/
def toJson (depth : Nat) : Draft → Except Flaw Json
  | .null => .ok .null
  | .bool b => .ok (.bool b)
  | .number n => n.map .number
  | .string s => s.map .string
  | .array items flaw =>
    if depth = 0 then .error .misplaced else do
      let items ← toJsonItems (depth - 1) items
      match flaw with
      | some flaw => .error flaw
      | none => .ok (.array items)
  | .object members flaw =>
    if depth = 0 then .error .misplaced else do
      let members ← toJsonMembers (depth - 1) members []
      match flaw with
      | some flaw => .error flaw
      | none => .ok (.object members)
  | .broken flaw => .error flaw

def toJsonItems (depth : Nat) : List Draft → Except Flaw (List Json)
  | [] => .ok []
  | d :: rest => do
    let j ← toJson depth d
    let items ← toJsonItems depth rest
    return j :: items

def toJsonMembers (depth : Nat) :
    List (Except Flaw String × Draft) → Members → Except Flaw Members
  | [], acc => .ok acc
  | (name, d) :: rest, acc => do
    let name ← name
    let value ← toJson depth d
    toJsonMembers depth rest (acc.insert name value)

end

mutual

/-- Passes over a draft whose value is not wanted. -/
def skip : Draft → Except Flaw Unit
  | .array items flaw => do
    skipItems items
    match flaw with
    | some flaw => .error flaw
    | none => .ok ()
  | .object members flaw => do
    skipMembers members
    match flaw with
    | some flaw => .error flaw
    | none => .ok ()
  | .broken flaw => .error flaw
  | _ => .ok ()

def skipItems : List Draft → Except Flaw Unit
  | [] => .ok ()
  | d :: rest => do
    skip d
    skipItems rest

def skipMembers : List (Except Flaw String × Draft) → Except Flaw Unit
  | [] => .ok ()
  | (_, d) :: rest => do
    skip d
    skipMembers rest

end

end Draft

def ofText (s : String) : Except Flaw Json := do
  let (draft, trailing) := Draft.ofText s
  let j ← draft.toJson Draft.depthLimit
  match trailing with
  | some flaw => .error flaw
  | none => .ok j

end Vmodl.Json
