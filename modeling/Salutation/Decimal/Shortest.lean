import Salutation.Decimal.Binary64

namespace Salutation
namespace Decimal

/-!
# The shortest decimal of a magnitude

The text of a magnitude has the fewest significant digits that still round
back to it, and of those the nearest.  The search goes through the decimal
grids from one digit to seventeen: on each grid only the two neighbours of
the magnitude can qualify.  How the digits are laid out is decided in one
place, `Binary64.text`.
-/

/-- Digits and the power of ten of the first of them. -/
structure Scientific where
  digits : List Char
  exponent : Int
  deriving DecidableEq, Repr

namespace Binary64

/-- Half the distance to the next magnitude, in half units. -/
def gapAbove (value : Binary64) : Nat :=
  Nat.pow 2 (surplusBits value.units)

/-- Half the distance to the magnitude below, in half units.  It shrinks at a
power of two, unless the magnitude below has the same spacing. -/
def gapBelow (value : Binary64) : Nat :=
  let surplus := surplusBits value.units
  if surplus ≠ 0 && value.units = Nat.pow 2 value.units.log2 then Nat.pow 2 (surplus - 1)
  else Nat.pow 2 surplus

/-- The last kept bit is zero, so that the ends of the rounding interval
belong to this magnitude. -/
def isEven (value : Binary64) : Bool :=
  value.units / Nat.pow 2 (surplusBits value.units) % 2 = 0

/-- The power of ten of the first significant digit. -/
def leadingExponent (value : Binary64) : Int :=
  let whole := value.units / unitsPerOne
  if 0 < whole then
    ((Nat.toDigits 10 whole).length : Int) - 1
  else
    match (List.range 400).find? (fun places =>
        unitsPerOne <= value.units * Nat.pow 10 places) with
    | some places => -(places : Int)
    | none => 0

/-- The neighbour of the magnitude on the grid of one power of ten that lies
in the rounding interval, the nearer one if both do. -/
def onGrid? (value : Binary64) (grid : Int) : Option Nat :=
  let multiplier := Nat.pow 10 (-grid).toNat
  let place := Nat.pow 10 grid.toNat * (2 * unitsPerOne)
  let centre := 2 * value.units * multiplier
  let low := centre - value.gapBelow * multiplier
  let high := centre + value.gapAbove * multiplier
  let inside (candidate : Nat) : Bool :=
    if value.isEven then
      low <= candidate * place && candidate * place <= high
    else
      low < candidate * place && candidate * place < high
  let lower := centre / place
  let upper := lower + 1
  match inside lower, inside upper with
  | true, true =>
      let below := centre - lower * place
      let above := upper * place - centre
      if below < above then some lower
      else if above < below then some upper
      else if lower % 2 = 0 then some lower
      else some upper
  | true, false => some lower
  | false, true => some upper
  | false, false => none

/-- The fewest digits that round back to the magnitude. -/
def shortest (value : Binary64) : Scientific :=
  if value.units = 0 then ⟨['0'], 0⟩
  else
    let leading := value.leadingExponent
    match ((List.range 17).map (fun (further : Nat) => leading - further)).findSome?
        (fun grid => (value.onGrid? grid).map (fun digits => (digits, grid))) with
    | some (number, grid) =>
        let digits := Nat.toDigits 10 number
        let significant := (digits.reverse.dropWhile (· == '0')).reverse
        ⟨significant, grid + (digits.length : Int) - 1⟩
    | none => ⟨['0'], 0⟩

/-- The text of a magnitude.  A first digit between 10 to the powers -5 and
15 is written in place, with at least one decimal; beyond that the text is
scientific, with a sign on the exponent. -/
def text (value : Binary64) : String :=
  let shortest := value.shortest
  let digits := shortest.digits
  let exponent := shortest.exponent
  if -5 <= exponent && exponent < 0 then
    String.ofList (['0', '.'] ++ List.replicate (exponent.natAbs - 1) '0' ++ digits)
  else if 0 <= exponent && exponent <= 15 then
    let places := exponent.natAbs + 1
    let padded := digits ++ List.replicate (places + 1 - digits.length) '0'
    String.ofList (padded.take places ++ ['.'] ++ padded.drop places)
  else
    let sign := if exponent < 0 then ['-'] else ['+']
    let decimals := if digits.length <= 1 then [] else '.' :: digits.drop 1
    String.ofList (digits.take 1 ++ decimals ++ ['e'] ++ sign ++
      Nat.toDigits 10 exponent.natAbs)

end Binary64
end Decimal
end Salutation
