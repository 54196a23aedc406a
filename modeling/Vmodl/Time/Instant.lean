import Vmodl.Time.Calendar

/-!
# Instants

An instant is a count of seconds since 1970 and the nanoseconds within the second. In a leap second
the nanoseconds run on from `10 ^ 9`.
-/

namespace Vmodl

structure Instant where
  seconds : Int
  nanos : Nat
deriving DecidableEq, Repr

namespace Instant

/-- `n` in decimal, with zeros in front up to `width` digits. -/
def padded (width n : Nat) : String :=
  let digits := Nat.toDigits 10 n
  String.ofList (List.replicate (width - digits.length) '0' ++ digits)

/-- Years outside `0` to `9999` carry a sign. -/
def yearText (year : Int) : String :=
  if 0 ≤ year ∧ year ≤ 9999 then padded 4 year.toNat
  else (if year < 0 then "-" else "+") ++ padded 4 year.natAbs

/-- The fraction with as many groups of three digits as it needs. -/
def fractionText (nanos : Nat) : String :=
  if nanos = 0 then ""
  else if nanos % 1000000 = 0 then "." ++ padded 3 (nanos / 1000000)
  else if nanos % 1000 = 0 then "." ++ padded 6 (nanos / 1000)
  else "." ++ padded 9 nanos

/-- The text without an offset. A leap second is written as second 60. -/
def civilText (t : Instant) : String :=
  let date := Time.Date.ofDays (t.seconds / 86400 + Time.epochDay)
  let second := (t.seconds % 86400).toNat
  let leap := 1000000000 ≤ t.nanos
  let nanos := if leap then t.nanos - 1000000000 else t.nanos
  yearText date.year ++ "-" ++ padded 2 date.month ++ "-" ++ padded 2 date.day ++ "T" ++
    padded 2 (second / 3600) ++ ":" ++ padded 2 (second / 60 % 60) ++ ":" ++
    padded 2 (second % 60 + if leap then 1 else 0) ++ fractionText nanos

/-- The RFC 3339 text with a numeric offset. -/
def text (t : Instant) : String := t.civilText ++ "+00:00"

/-- The RFC 3339 text with the short offset. -/
def textZulu (t : Instant) : String := t.civilText ++ "Z"

end Instant

end Vmodl
