namespace Salutation
namespace Decimal

/-!
# Magnitudes of double precision

A finite double without its sign is a whole number of units, the unit being
2 to the power -1074.  Every operation is computed exactly on the units and
then rounded once, to the nearest magnitude with 53 significant bits and to
the even one of two equally near.  A result that would need an exponent of
1024 has no magnitude.  No machine arithmetic is involved.
-/

/-- A finite magnitude: the number of units it is made of.  Only the
operations of this module are meant to build one, and they keep at most 53
significant bits. -/
structure Binary64 where
  units : Nat
  deriving DecidableEq, Repr

namespace Binary64

/-- How many units make one. -/
def unitsPerOne : Nat := Nat.pow 2 1074

/-- The first number of units that is too large. -/
def unitLimit : Nat := Nat.pow 2 2098

/-- How many low bits a number of units gives up to keep 53 of them. -/
def surplusBits (units : Nat) : Nat :=
  units.log2 + 1 - 53

/-- The whole number nearest to a quotient, the even one of two. -/
def nearestQuotient (numerator denominator : Nat) : Nat :=
  let quotient := numerator / denominator
  let twice := 2 * (numerator % denominator)
  if twice < denominator then quotient
  else if denominator < twice then quotient + 1
  else if quotient % 2 = 0 then quotient
  else quotient + 1

/-- The magnitude nearest to a quotient, or none beyond the largest one. -/
def ofRatio? (numerator denominator : Nat) : Option Binary64 :=
  let scaled := numerator * unitsPerOne
  let step := Nat.pow 2 (surplusBits (scaled / denominator))
  let units := nearestQuotient scaled (denominator * step) * step
  if units < unitLimit then some ⟨units⟩ else none

/-- The magnitude nearest to a whole number. -/
def ofNat? (value : Nat) : Option Binary64 :=
  ofRatio? value 1

def zero : Binary64 := ⟨0⟩

def add? (left right : Binary64) : Option Binary64 :=
  ofRatio? (left.units + right.units) unitsPerOne

def mul? (left right : Binary64) : Option Binary64 :=
  ofRatio? (left.units * right.units) (unitsPerOne * unitsPerOne)

def div? (left right : Binary64) : Option Binary64 :=
  ofRatio? left.units right.units

/-- The largest power of ten that has a magnitude is 10 to the power 308. -/
def largestPower : Nat := 308

/-- Ten to a power, rounded once. -/
def powerOfTen? (power : Nat) : Option Binary64 :=
  ofRatio? (Nat.pow 10 power) 1

/-- Divide by the largest power of ten as often as stated, then by a smaller
one.  Each division rounds, so the order of the divisions matters; a
magnitude that has come down to zero stays there. -/
def scaleDown? (value : Binary64) (last : Nat) : Nat -> Option Binary64
  | 0 => (powerOfTen? last).bind value.div?
  | times + 1 =>
      if value.units = 0 then some value
      else ((powerOfTen? largestPower).bind value.div?).bind
        (fun smaller => scaleDown? smaller last times)

/-- A magnitude times a power of ten.  A negative power divides by the power
of ten of the opposite sign, which is itself a rounded magnitude. -/
def scale? (value : Binary64) (power : Int) : Option Binary64 :=
  if power < 0 then
    let places := power.natAbs
    let times := (places - 1) / largestPower
    scaleDown? value (places - largestPower * times) times
  else if power.natAbs <= largestPower then
    (powerOfTen? power.natAbs).bind value.mul?
  else if value.units = 0 then some value
  else none

end Binary64
end Decimal
end Salutation
