/-!
# Double-precision numbers

A number is a NaN, a signed infinity, or a signed finite magnitude. Finite magnitudes are
numbered in ascending order from zero: the number of a magnitude is its bit pattern, whose
upper part is the biased exponent and whose lower 52 bits are the fraction. All arithmetic
here is exact; the only rounding is `nearest?`, to the nearest magnitude and to the even
one of two that are equally near.
-/

namespace MessageForms

/-- A coefficient times a power of a base, as a quotient of naturals. -/
def scaled (base coefficient : Nat) (exponent : Int) : Nat × Nat :=
  (coefficient * Nat.pow base exponent.toNat, Nat.pow base (-exponent).toNat)

/-- The bit pattern of positive infinity, which is one above that of the greatest finite
magnitude. -/
abbrev infinityBits : Nat := 0x7FF0000000000000

/-- The finite magnitudes, in ascending order. -/
abbrev Magnitude := Fin infinityBits

namespace Magnitude

/-- The number of fractions, which is `2 ^ 52`. -/
def fractionCount : Nat := 0x10000000000000

/-- The magnitude zero. -/
def zero : Magnitude := ⟨0, by decide⟩

/-- The exponent field of the bit pattern. -/
def biased (magnitude : Magnitude) : Nat :=
  magnitude.val / fractionCount

/-- The integer whose multiple by a power of two the magnitude is. -/
def significand (magnitude : Magnitude) : Nat :=
  magnitude.val % fractionCount + if magnitude.biased = 0 then 0 else fractionCount

/-- The exponent of two by which the significand is multiplied. -/
def exponent (magnitude : Magnitude) : Int :=
  (max magnitude.biased 1 : Nat) - 1075

/-- The magnitude as a quotient of naturals. -/
def quotient (magnitude : Magnitude) : Nat × Nat :=
  scaled 2 magnitude.significand magnitude.exponent

/-- The magnitude as a natural number, if it is one. -/
def natural? (magnitude : Magnitude) : Option Nat :=
  let (numerator, denominator) := magnitude.quotient
  if numerator % denominator = 0 then some (numerator / denominator) else none

/-- A quotient rounded to the nearest natural number, a half to the even neighbour. -/
def roundQuotient (numerator denominator : Nat) : Nat :=
  let whole := numerator / denominator
  let twice := 2 * (numerator % denominator)
  if twice < denominator then whole
  else if twice = denominator then whole + whole % 2
  else whole + 1

/-- The greatest exponent of two that does not exceed a positive quotient. -/
def floorLog2 (numerator denominator : Nat) : Int :=
  let guess : Int := numerator.log2 - denominator.log2
  if denominator * Nat.pow 2 guess.toNat ≤ numerator * Nat.pow 2 (-guess).toNat then guess
  else guess - 1

/-- The magnitude nearest to a quotient, or none if the quotient rounds beyond the finite
magnitudes. The significand has 53 bits unless the exponent is the least one, and a
significand that rounds up to `2 ^ 53` carries into the exponent. -/
def nearest? (numerator denominator : Nat) : Option Magnitude :=
  if numerator = 0 then some zero
  else
    let scale := max (floorLog2 numerator denominator - 52) (-1074)
    let significand :=
      roundQuotient (numerator * Nat.pow 2 (-scale).toNat) (denominator * Nat.pow 2 scale.toNat)
    let code := (scale + 1074).toNat * fractionCount + significand
    if fits : code < infinityBits then some ⟨code, fits⟩ else none

end Magnitude

/-- A double-precision number; there is one NaN, and zero has a sign. -/
inductive Double where
  | nan
  | infinite (negative : Bool)
  | finite (negative : Bool) (magnitude : Magnitude)
deriving DecidableEq

namespace Double

/-- Positive zero. -/
def zero : Double := finite false .zero

/-- The number one. -/
def one : Double := finite false ⟨0x3FF0000000000000, by decide⟩

/-- Whether a number is the NaN. -/
def isNaN : Double → Bool
  | nan => true
  | _ => false

/-- Numeric equality: zeros of both signs are equal, and the NaN is equal to nothing. -/
def equals : Double → Double → Bool
  | infinite left, infinite right => left == right
  | finite left magnitude, finite right other =>
    magnitude == other && (left == right || magnitude == .zero)
  | _, _ => false

/-- The number with a given sign nearest to a quotient. -/
def ofQuotient (negative : Bool) (numerator denominator : Nat) : Double :=
  match Magnitude.nearest? numerator denominator with
  | some magnitude => finite negative magnitude
  | none => infinite negative

/-- The number nearest to an integer. -/
def ofInt (value : Int) : Double :=
  ofQuotient (value < 0) value.natAbs 1

/-- One for true and zero for false. -/
def ofBool (flag : Bool) : Double :=
  if flag then one else zero

/-- The bit that marks a negative number. -/
def signBit : Nat := 0x8000000000000000

/-- The number with a given bit pattern. -/
def ofBits (bits : Nat) : Double :=
  let negative := bits / signBit % 2 = 1
  let code := bits % signBit
  if fits : code < infinityBits then finite negative ⟨code, fits⟩
  else if code = infinityBits then infinite negative
  else nan

/-- The bit pattern of a number; the NaN has the quiet one. -/
def toBits : Double → Nat
  | nan => 0x7FF8000000000000
  | infinite negative => (if negative then signBit else 0) + infinityBits
  | finite negative magnitude => (if negative then signBit else 0) + magnitude.val

end Double

end MessageForms
