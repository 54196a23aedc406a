/-!
# Binary floating-point formats

A format is given by the widths of its two stored fields. `value` reads a bit pattern, and `nearest`
gives the pattern closest to a fraction, a tie going to the even significand.
-/

namespace Vmodl

/-- A binary interchange format with `fractionBits` stored bits of the significand. -/
structure BinaryFormat where
  fractionBits : Nat
  exponentBits : Nat
deriving DecidableEq, Repr

namespace BinaryFormat

def single : BinaryFormat := ⟨23, 8⟩

def double : BinaryFormat := ⟨52, 11⟩

/-- What a bit pattern stands for; a finite value is `± significand * 2 ^ exponent`. -/
inductive Value where
  | nan
  | infinite (negative : Bool)
  | finite (negative : Bool) (significand : Nat) (exponent : Int)
deriving DecidableEq, Repr

variable (f : BinaryFormat)

def signBit : Nat := 1 <<< (f.fractionBits + f.exponentBits)

def hiddenBit : Nat := 1 <<< f.fractionBits

/-- The field that marks infinities and NaNs, in place. -/
def infinityBits : Nat := (1 <<< f.exponentBits - 1) * f.hiddenBit

/-- The exponent of the last place of the subnormal values. -/
def leastExponent : Int := 2 - (1 <<< (f.exponentBits - 1) : Nat) - (f.fractionBits : Int)

def value (bits : Nat) : Value :=
  let fraction := bits % f.hiddenBit
  let field := bits / f.hiddenBit % 1 <<< f.exponentBits
  let negative := bits / f.signBit % 2 == 1
  if field = 1 <<< f.exponentBits - 1 then
    if fraction = 0 then .infinite negative else .nan
  else if field = 0 then .finite negative fraction f.leastExponent
  else .finite negative (f.hiddenBit + fraction) (f.leastExponent + field - 1)

def withSign (negative : Bool) (magnitude : Nat) : Nat :=
  if negative then f.signBit + magnitude else magnitude

/-- `num / den` rounded to an integer, a half going to the even neighbour. -/
def roundHalfEven (num den : Nat) : Nat :=
  let q := num / den
  let r := num % den
  if 2 * r < den then q else if den < 2 * r then q + 1 else q + q % 2

/-- `num / den * 2 ^ (-e)` as a fraction. -/
def scaleDown (num den : Nat) (e : Int) : Nat × Nat :=
  if 0 ≤ e then (num, den <<< e.toNat) else (num <<< (-e).toNat, den)

/-- The magnitude nearest to `num / den`; what is too large for the format becomes infinity. -/
def nearestMagnitude (num den : Nat) : Nat :=
  if num = 0 then 0 else
  let guess := max ((num.log2 : Int) - den.log2 - f.fractionBits) f.leastExponent
  let (n, d) := scaleDown num den guess
  let e := if n < d * f.hiddenBit ∧ f.leastExponent < guess then guess - 1 else guess
  let (n, d) := scaleDown num den e
  min ((e - f.leastExponent).toNat * f.hiddenBit + roundHalfEven n d) f.infinityBits

def nearest (negative : Bool) (num den : Nat) : Nat :=
  f.withSign negative (f.nearestMagnitude num den)

/-- The magnitude nearest to `digits * 10 ^ e`. Exponents far outside the format are not expanded. -/
def nearestDecimalMagnitude (digits : Nat) (e : Int) : Nat :=
  let places : Int := (Nat.toDigits 10 digits).length
  if digits = 0 ∨ places + e < -400 then 0
  else if 400 < places + e then f.infinityBits
  else if 0 ≤ e then f.nearestMagnitude (digits * Nat.pow 10 e.toNat) 1
  else f.nearestMagnitude digits (Nat.pow 10 (-e).toNat)

def nearestDecimal (negative : Bool) (digits : Nat) (e : Int) : Nat :=
  f.withSign negative (f.nearestDecimalMagnitude digits e)

/-- The pattern of this format nearest to a value of another one. NaNs keep no payload. -/
def ofValue : Value → Nat
  | .nan => f.infinityBits + f.hiddenBit / 2
  | .infinite negative => f.withSign negative f.infinityBits
  | .finite negative m e =>
    if 0 ≤ e then f.nearest negative (m <<< e.toNat) 1
    else f.nearest negative m (1 <<< (-e).toNat)

def ofInt (n : Int) : Nat := f.nearest (n < 0) n.natAbs 1

def isNaN (bits : Nat) : Bool := f.value bits == .nan

end BinaryFormat

end Vmodl
