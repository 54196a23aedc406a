import Vmodl.Text.Blank
import Vmodl.Time.Instant

/-!
# Reading instants

`strict` reads RFC 3339. `loose` reads a date and time without an offset, which counts as UTC, and
lets numbers be short or led by blanks. `Instant.ofText` tries both, in that order, and reports the
flaw that the strict form found.
-/

namespace Vmodl.Time

inductive Flaw where
  | tooShort
  | invalid
  | outOfRange
  | trailing
deriving DecidableEq, Repr

def Flaw.message : Flaw → String
  | .tooShort => "premature end of input"
  | .invalid => "input contains invalid characters"
  | .outOfRange => "input is out of range"
  | .trailing => "trailing input"

def digitValue (c : Char) : Nat := c.toNat - 48

def numberOf (digits : List Char) : Nat := digits.foldl (fun n c => n * 10 + digitValue c) 0

/-- Exactly `count` digits. -/
def takeDigits : Nat → List Char → Except Flaw (List Char × List Char)
  | 0, s => .ok ([], s)
  | _ + 1, [] => .error .tooShort
  | n + 1, c :: rest =>
    if c.isDigit then do
      let (ds, rest) ← takeDigits n rest
      return (c :: ds, rest)
    else .error .invalid

def takeNumber (count : Nat) (s : List Char) : Except Flaw (Nat × List Char) :=
  (takeDigits count s).map fun (ds, rest) => (numberOf ds, rest)

def takeChar (accept : Char → Bool) : List Char → Except Flaw (List Char)
  | [] => .error .tooShort
  | c :: rest => if accept c then .ok rest else .error .invalid

/-- The nanoseconds of the digits after the point, of which nine count. -/
def nanosOf (digits : List Char) : Nat :=
  let used := digits.take 9
  numberOf (used ++ List.replicate (9 - used.length) '0')

/-- A time of day, with a leap second kept apart. -/
structure Clock where
  hour : Nat
  minute : Nat
  second : Nat
  nanos : Nat
deriving DecidableEq, Repr

/-- Second 60 is the leap second that follows second 59. -/
def Clock.ofParts? (hour minute second nanos : Nat) : Option Clock :=
  if hour < 24 ∧ minute < 60 ∧ second ≤ 60 then
    some ⟨hour, minute, min second 59, nanos + if second = 60 then 1000000000 else 0⟩
  else none

def Clock.seconds (c : Clock) : Nat := c.hour * 3600 + c.minute * 60 + c.second

def takeFraction : List Char → Except Flaw (Nat × List Char)
  | '.' :: rest =>
    let digits := rest.takeWhile Char.isDigit
    let rest := rest.dropWhile Char.isDigit
    if digits.isEmpty then .error (if rest.isEmpty then .tooShort else .invalid)
    else .ok (nanosOf digits, rest)
  | s => .ok (0, s)

/-- Two digits of an offset; a single byte counts as an end of the text, whatever it is. -/
def takePair (s : List Char) : Except Flaw (Nat × List Char) :=
  if (String.ofList s).utf8ByteSize < 2 then .error .tooShort else takeNumber 2 s

/-- The offset east of UTC in seconds. -/
def takeOffset : List Char → Except Flaw (Int × List Char)
  | [] => .error .tooShort
  | c :: rest =>
    if c = 'Z' ∨ c = 'z' then .ok (0, rest)
    else if c = '+' ∨ c = '-' ∨ c = '\u2212' then do
      let (hours, rest) ← takePair rest
      let rest ← takeChar (· == ':') rest
      let (minutes, rest) ← takePair rest
      if 60 ≤ minutes then .error .outOfRange
      let size : Int := hours * 3600 + minutes * 60
      return (if c = '+' then size else -size, rest)
    else .error .invalid

def strict (text : String) : Except Flaw Instant := do
  if text.utf8ByteSize < 19 then .error .tooShort
  let s := text.toList
  let (year, s) ← takeNumber 4 s
  let s ← takeChar (· == '-') s
  let (month, s) ← takeNumber 2 s
  let s ← takeChar (· == '-') s
  let (day, s) ← takeNumber 2 s
  let date : Date := ⟨year, month, day⟩
  if ¬date.Valid then .error .outOfRange
  let s ← takeChar (fun c => c == 'T' || c == 't' || c == ' ') s
  let (hour, s) ← takeNumber 2 s
  let s ← takeChar (· == ':') s
  let (minute, s) ← takeNumber 2 s
  let s ← takeChar (· == ':') s
  let (second, s) ← takeNumber 2 s
  let (nanos, s) ← takeFraction s
  match Clock.ofParts? hour minute second nanos with
  | none => .error .outOfRange
  | some clock =>
    let (offset, s) ← takeOffset s
    if !s.isEmpty then .error .trailing
    if 86400 ≤ offset.natAbs then .error .outOfRange
    return ⟨(date.toDays - epochDay) * 86400 + clock.seconds - offset, clock.nanos⟩

/-- A number of one to `width` digits, with blanks allowed in front. -/
def takeLoose? (width : Nat) (s : List Char) : Option (Nat × List Char) :=
  let s := s.dropWhile Text.isBlank
  let digits := (s.takeWhile Char.isDigit).take width
  if digits.isEmpty then none else some (numberOf digits, s.drop digits.length)

/-- A year, of any length if it has a sign. -/
def takeYear? (s : List Char) : Option (Int × List Char) :=
  match s.dropWhile Text.isBlank with
  | '-' :: rest => signed (-1) rest
  | '+' :: rest => signed 1 rest
  | s => (takeLoose? 4 s).map fun (n, rest) => (n, rest)
where
  signed (sign : Int) (s : List Char) : Option (Int × List Char) :=
    let digits := s.takeWhile Char.isDigit
    if digits.isEmpty then none else some (sign * numberOf digits, s.drop digits.length)

def takeExact? (c : Char) : List Char → Option (List Char)
  | [] => none
  | d :: rest => if d = c then some rest else none

def loose (text : String) : Option Instant := do
  let s := text.toList
  let (year, s) ← takeYear? s
  let s ← takeExact? '-' s
  let (month, s) ← takeLoose? 2 s
  let s ← takeExact? '-' s
  let (day, s) ← takeLoose? 2 s
  let s ← takeExact? 'T' s
  let (hour, s) ← takeLoose? 2 s
  let s ← takeExact? ':' s
  let (minute, s) ← takeLoose? 2 s
  let s ← takeExact? ':' s
  let (second, s) ← takeLoose? 2 s
  let (nanos, s) ← (takeFraction s).toOption
  let date : Date := ⟨year, month, day⟩
  let clock ← Clock.ofParts? hour minute second nanos
  if s.isEmpty ∧ date.Valid ∧ -262143 ≤ year ∧ year ≤ 262142 then
    some ⟨(date.toDays - epochDay) * 86400 + clock.seconds, clock.nanos⟩
  else none

end Vmodl.Time

namespace Vmodl

/-- The instant of a text in the strict or else in the loose form. -/
def Instant.ofText (text : String) : Except Time.Flaw Instant :=
  match Time.strict text, Time.loose text with
  | .ok t, _ => .ok t
  | .error _, some t => .ok t
  | .error flaw, none => .error flaw

end Vmodl
