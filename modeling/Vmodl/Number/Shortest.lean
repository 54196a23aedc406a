import Vmodl.Number.Binary

/-!
# Shortest decimals

The fewest digits that read back as a given binary value, found in exact arithmetic: a decimal reads
back when it lies in the interval of reals that round to the value.
-/

namespace Vmodl

/-- The number `digits * 10 ^ exponent`. -/
structure Decimal where
  digits : Nat
  exponent : Int
deriving DecidableEq, Repr

namespace Decimal

/-- The reals that round to `m * 2 ^ q`, as multiples of `unit` quarters of the last place. -/
structure Interval where
  low : Nat
  mid : Nat
  high : Nat
  closed : Bool

/-- Below a power of two the spacing halves, except at the least exponent. -/
def roundingInterval (f : BinaryFormat) (m : Nat) (q : Int) : Interval where
  low := 4 * m - (if m = f.hiddenBit ∧ f.leastExponent < q then 1 else 2)
  mid := 4 * m
  high := 4 * m + 2
  closed := m % 2 = 0

/-- Factors `(a, b)` such that `x * 2 ^ (q - 2)` compares with `d * 10 ^ k` as `x * a` with `d * b`. -/
def commonScale (q k : Int) : Nat × Nat :=
  let e := q - 2
  ((if 0 ≤ e then 1 <<< e.toNat else 1) * (if 0 ≤ k then 1 else Nat.pow 10 (-k).toNat),
    (if 0 ≤ e then 1 else 1 <<< (-e).toNat) * (if 0 ≤ k then Nat.pow 10 k.toNat else 1))

/-- The exponent of the leading decimal digit of `m * 2 ^ q`, for `0 < m`. -/
def leadingExponent (m : Nat) (q : Int) : Int :=
  let guess : Int := ((m.log2 : Int) + q) * 30103 / 100000
  let atLeast (k : Int) : Bool :=
    let (a, b) := commonScale q k
    b ≤ 4 * m * a
  if atLeast (guess + 1) then guess + 1 else if atLeast guess then guess else guess - 1

/-- The nearest decimal on the grid of `10 ^ k` that reads back, if one does. -/
def onGrid? (i : Interval) (q k : Int) : Option Decimal :=
  let (a, b) := commonScale q k
  let inside (d : Nat) : Bool :=
    if i.closed then i.low * a ≤ d * b ∧ d * b ≤ i.high * a else i.low * a < d * b ∧ d * b < i.high * a
  let below := i.mid * a / b
  let distBelow := i.mid * a - below * b
  let distAbove := (below + 1) * b - i.mid * a
  let belowFirst := distBelow < distAbove ∨ (distBelow = distAbove ∧ below % 2 = 0)
  let (near, far) := if belowFirst then (below, below + 1) else (below + 1, below)
  if inside near then some ⟨near, k⟩ else if inside far then some ⟨far, k⟩ else none

/-- Drops the zeros at the end. Each step divides, so the digits bound the number of steps. -/
def trimZeros : Nat → Decimal → Decimal
  | 0, d => d
  | fuel + 1, d =>
    if d.digits ≠ 0 ∧ d.digits % 10 = 0 then trimZeros fuel ⟨d.digits / 10, d.exponent + 1⟩ else d

/-- The shortest decimal that reads back as `m * 2 ^ q`. Seventeen digits always suffice for the
formats in use, so the search does not fail. -/
def shortest (f : BinaryFormat) (m : Nat) (q : Int) : Decimal :=
  if m = 0 then ⟨0, 0⟩ else
  let i := roundingInterval f m q
  let top := leadingExponent m q
  let found := (List.range 17).findSome? fun (n : Nat) => onGrid? i q (top - n)
  trimZeros 20 (found.getD ⟨0, 0⟩)

/-- The decimal digits, most significant first. -/
def digitList (d : Decimal) : List Char := Nat.toDigits 10 d.digits

def leading (d : Decimal) : Int := d.exponent + (d.digitList.length - 1 : Nat)

/-- Positional text, without a point when the value is an integer. -/
def positional (d : Decimal) : String :=
  let ds := d.digitList
  if 0 ≤ d.exponent then String.ofList (ds ++ List.replicate d.exponent.toNat '0')
  else
    let places := (-d.exponent).toNat
    let padded := List.replicate (places + 1 - ds.length) '0' ++ ds
    let whole := padded.length - places
    String.ofList (padded.take whole ++ '.' :: padded.drop whole)

/-- Scientific text with the sign of the exponent always written. -/
def scientific (d : Decimal) : String :=
  let mantissa := match d.digitList with
    | [] => ""
    | [c] => String.singleton c
    | c :: rest => String.ofList (c :: '.' :: rest)
  let e := d.leading
  mantissa ++ (if e < 0 then "e-" else "e+") ++ toString e.natAbs

end Decimal

end Vmodl
