import Mathlib.Algebra.Group.Nat.Defs
import Salutation.Decimal.Binary64

namespace Salutation
namespace Decimal
namespace Binary64

/-!
# When a magnitude overflows

A quotient is refused for its size and for nothing else.  The limit lies half-way
between the largest magnitude and the first number of units that is too large,
where the nearest number of 53 bits is the latter.  A magnitude is never refused
when it is divided by powers of ten, and when it is multiplied by one, the
product of the two rounded magnitudes has to reach that limit.
-/

/-! ## The nearest quotient -/

theorem nearestQuotient_eq (numerator denominator : Nat) :
    nearestQuotient numerator denominator =
      if denominator < 2 * (numerator % denominator) ∨
          2 * (numerator % denominator) = denominator ∧ numerator / denominator % 2 = 1 then
        numerator / denominator + 1
      else numerator / denominator := by
  unfold nearestQuotient
  dsimp only
  repeat' split
  all_goals omega

theorem div_le_nearestQuotient (numerator denominator : Nat) :
    numerator / denominator <= nearestQuotient numerator denominator := by
  rw [nearestQuotient_eq]
  split <;> omega

theorem nearestQuotient_le (numerator denominator : Nat) :
    nearestQuotient numerator denominator <= numerator / denominator + 1 := by
  rw [nearestQuotient_eq]
  split <;> omega

/-- A quotient is rounded beyond an odd number exactly from the middle between
this number and the next one on, because a tie goes to the even one. -/
theorem lt_nearestQuotient_iff {numerator denominator odd : Nat} (positive : 0 < denominator)
    (isOdd : odd % 2 = 1) :
    odd < nearestQuotient numerator denominator ↔
      denominator * (2 * odd + 1) <= 2 * numerator := by
  have whole := Nat.div_add_mod numerator denominator
  have small := Nat.mod_lt numerator positive
  have scaled : denominator * (2 * odd + 1) = 2 * (denominator * odd) + denominator := by
    rw [Nat.mul_add, Nat.mul_left_comm, Nat.mul_one]
  rw [nearestQuotient_eq, scaled]
  rcases Nat.lt_trichotomy (numerator / denominator) odd with less | same | more
  · have below := Nat.mul_le_mul_left denominator (Nat.succ_le_of_lt less)
    rw [Nat.mul_succ] at below
    split <;> omega
  · rw [same] at whole ⊢
    split <;> omega
  · have above := Nat.mul_le_mul_left denominator (Nat.succ_le_of_lt more)
    rw [Nat.mul_succ] at above
    split <;> omega

/-! ## The units of a quotient -/

/-- The units of a quotient after it has been rounded. -/
def roundedUnits (numerator denominator : Nat) : Nat :=
  let scaled := numerator * unitsPerOne
  let step := Nat.pow 2 (surplusBits (scaled / denominator))
  nearestQuotient scaled (denominator * step) * step

theorem ofRatio?_eq (numerator denominator : Nat) :
    ofRatio? numerator denominator =
      if roundedUnits numerator denominator < unitLimit then
        some ⟨roundedUnits numerator denominator⟩
      else none := rfl

theorem surplusBits_eq (units : Nat) : surplusBits units = units.log2 + 1 - 53 := rfl

section

variable {numerator denominator : Nat}

/-- The quotient without its low bits, in the steps that are left. -/
theorem div_step (numerator denominator bits : Nat) :
    numerator / (denominator * Nat.pow 2 bits) = numerator / denominator / 2 ^ bits :=
  (Nat.div_div_eq_div_mul _ _ _).symm

/-- Rounding does not go below a power of two. -/
theorem le_roundedUnits {bits : Nat}
    (large : 2 ^ bits <= numerator * unitsPerOne / denominator) :
    2 ^ bits <= roundedUnits numerator denominator := by
  rw [roundedUnits]
  generalize numerator * unitsPerOne = scaled at large ⊢
  have nonzero : scaled / denominator ≠ 0 :=
    Nat.pos_iff_ne_zero.mp (Nat.lt_of_lt_of_le (Nat.two_pow_pos bits) large)
  have longer : bits <= (scaled / denominator).log2 := (Nat.le_log2 nonzero).mpr large
  have surplus : surplusBits (scaled / denominator) <= (scaled / denominator).log2 := by
    rw [surplusBits_eq]
    omega
  generalize surplusBits (scaled / denominator) = low at surplus ⊢
  have leading := Nat.log2_self_le nonzero
  rw [← Nat.sub_add_cancel surplus, Nat.pow_add] at leading
  -- The bits that are cut off are fewer than all, so the leading one is kept.
  have kept : 2 ^ ((scaled / denominator).log2 - low) <= scaled / denominator / 2 ^ low :=
    (Nat.le_div_iff_mul_le (Nat.two_pow_pos low)).mpr leading
  calc
    2 ^ bits <= 2 ^ (scaled / denominator).log2 := Nat.pow_le_pow_right (by decide) longer
    _ = 2 ^ ((scaled / denominator).log2 - low) * 2 ^ low := by
      rw [← Nat.pow_add, Nat.sub_add_cancel surplus]
    _ <= scaled / denominator / 2 ^ low * 2 ^ low := Nat.mul_le_mul_right _ kept
    _ <= nearestQuotient scaled (denominator * Nat.pow 2 low) * 2 ^ low := by
      apply Nat.mul_le_mul_right
      rw [← div_step]
      exact div_le_nearestQuotient _ _

/-- Rounding adds no more than one step. -/
theorem roundedUnits_le (numerator denominator : Nat) :
    roundedUnits numerator denominator <=
      numerator * unitsPerOne / denominator +
        2 ^ surplusBits (numerator * unitsPerOne / denominator) := by
  rw [roundedUnits]
  generalize numerator * unitsPerOne = scaled
  generalize surplusBits (scaled / denominator) = low
  calc
    nearestQuotient scaled (denominator * Nat.pow 2 low) * 2 ^ low
        <= (scaled / denominator / 2 ^ low + 1) * 2 ^ low := by
      apply Nat.mul_le_mul_right
      rw [← div_step]
      exact nearestQuotient_le _ _
    _ = scaled / denominator / 2 ^ low * 2 ^ low + 2 ^ low := Nat.succ_mul _ _
    _ <= scaled / denominator + 2 ^ low := Nat.add_le_add_right (Nat.div_mul_le_self _ _) _

end

/-! ## The limit -/

/-- The bits of half a step between the largest magnitudes. -/
@[irreducible]
def halfBits : Nat := 2044

@[irreducible]
def halfStep : Nat := 2 ^ halfBits

/-- The first number of units that is rounded up to one that is too large. -/
def overflowUnits : Nat := (2 ^ 54 - 1) * halfStep

/-- A quotient is so large that the nearest number of 53 bits has no magnitude. -/
def Overflows (numerator denominator : Nat) : Prop :=
  denominator * overflowUnits <= numerator * unitsPerOne

theorem halfStep_eq : halfStep = 2 ^ halfBits := by
  rw [halfStep]

theorem halfStep_pos : 0 < halfStep := by
  decide +kernel

theorem unitLimit_eq : unitLimit = 2 ^ 54 * halfStep := by
  decide +kernel

theorem overflowUnits_le : overflowUnits <= unitLimit := by
  rw [unitLimit_eq, overflowUnits]
  omega

/-- A number of steps is too large from two to the power 53 on, and one step
less is below the limit. -/
theorem steps_too_large_iff {steps half : Nat} (positive : 0 < half) :
    (2 ^ 54 * half <= steps * (half * 2) ↔ 2 ^ 53 - 1 < steps) ∧
    (steps * (half * 2) < 2 ^ 54 * half -> steps * (half * 2) < (2 ^ 54 - 1) * half) := by
  rcases Nat.lt_or_ge (2 ^ 53 - 1) steps with large | small
  · have product := Nat.mul_le_mul_right (half * 2) (Nat.succ_le_of_lt large)
    omega
  · have product := Nat.mul_le_mul_right (half * 2) small
    omega

section

variable {numerator denominator : Nat}

theorem roundedUnits_of_surplus {bits half : Nat} (named : Nat.pow 2 bits = half)
    (low : surplusBits (numerator * unitsPerOne / denominator) = bits + 1) :
    roundedUnits numerator denominator =
      nearestQuotient (numerator * unitsPerOne) (denominator * (half * 2)) * (half * 2) := by
  have step : Nat.pow 2 (bits + 1) = half * 2 := by
    rw [← named]
    rfl
  rw [roundedUnits, low, step]

/-- Of the quotients with as many bits as the largest magnitude, those are
rounded to a number that is too large which reach the limit. -/
theorem roundedUnits_of_longest (positive : 0 < denominator)
    (longest : (numerator * unitsPerOne / denominator).log2 = halfBits + 53) :
    (unitLimit <= roundedUnits numerator denominator ↔ Overflows numerator denominator) ∧
    (roundedUnits numerator denominator < unitLimit ->
      roundedUnits numerator denominator < overflowUnits) := by
  have low : surplusBits (numerator * unitsPerOne / denominator) = halfBits + 1 := by
    rw [surplusBits_eq, longest]
    omega
  rw [roundedUnits_of_surplus halfStep_eq.symm low, Overflows, overflowUnits, unitLimit_eq]
  generalize numerator * unitsPerOne = scaled
  have half := halfStep_pos
  generalize halfStep = unit at half ⊢
  have odd := @lt_nearestQuotient_iff scaled (denominator * (unit * 2)) (2 ^ 53 - 1)
    (Nat.mul_pos positive (Nat.mul_pos half (by decide))) (by decide)
  -- The largest magnitude has an odd number of steps, so the tie behind it goes up.
  have double : 2 * (2 ^ 53 - 1) + 1 = 2 ^ 54 - 1 := by decide
  have middle : denominator * (unit * 2) * (2 * (2 ^ 53 - 1) + 1) =
      2 * (denominator * ((2 ^ 54 - 1) * unit)) := by
    rw [double, Nat.mul_comm unit 2, Nat.mul_left_comm denominator, Nat.mul_assoc 2,
      Nat.mul_assoc, Nat.mul_comm unit]
  rw [middle, Nat.mul_le_mul_left_iff (by decide)] at odd
  rw [← odd]
  exact steps_too_large_iff half

/-- A quotient with fewer bits stays below the limit. -/
theorem roundedUnits_of_shorter (positive : 0 < denominator)
    (shorter : (numerator * unitsPerOne / denominator).log2 < halfBits + 53) :
    roundedUnits numerator denominator < overflowUnits ∧ ¬ Overflows numerator denominator := by
  have low : surplusBits (numerator * unitsPerOne / denominator) <= halfBits := by
    rw [surplusBits_eq]
    omega
  have added : 2 ^ surplusBits (numerator * unitsPerOne / denominator) <= halfStep := by
    rw [halfStep_eq]
    exact Nat.pow_le_pow_right (by decide) low
  have rounded := roundedUnits_le numerator denominator
  have below : numerator * unitsPerOne / denominator < 2 ^ 53 * halfStep := by
    have next : Nat.succ (numerator * unitsPerOne / denominator).log2 <= 53 + halfBits := by omega
    calc
      numerator * unitsPerOne / denominator
          < 2 ^ Nat.succ (numerator * unitsPerOne / denominator).log2 := Nat.lt_log2_self
      _ <= 2 ^ (53 + halfBits) := Nat.pow_le_pow_right (by decide) next
      _ = 2 ^ 53 * halfStep := by rw [halfStep_eq, Nat.pow_add]
  have positiveHalf := halfStep_pos
  rw [overflowUnits, Overflows, overflowUnits]
  have scaled := (Nat.div_lt_iff_lt_mul positive).mp below
  rw [Nat.mul_comm _ denominator] at scaled
  generalize numerator * unitsPerOne / denominator = quotient at *
  generalize numerator * unitsPerOne = product at *
  generalize halfStep = half at *
  have larger : 2 ^ 53 * half <= (2 ^ 54 - 1) * half := by omega
  refine ⟨by omega, ?_⟩
  have products := Nat.mul_le_mul_left denominator larger
  omega

/-- A quotient with more bits is too large. -/
theorem roundedUnits_of_longer (positive : 0 < denominator)
    (longer : halfBits + 53 < (numerator * unitsPerOne / denominator).log2) :
    unitLimit <= roundedUnits numerator denominator ∧ Overflows numerator denominator := by
  have nonzero : numerator * unitsPerOne / denominator ≠ 0 := by
    intro zero
    rw [zero] at longer
    cases longer
  have limit : unitLimit = 2 ^ (54 + halfBits) := by
    rw [unitLimit_eq, halfStep_eq, Nat.pow_add]
  have large : unitLimit <= numerator * unitsPerOne / denominator := by
    rw [limit]
    exact (Nat.le_log2 nonzero).mp (by omega)
  constructor
  · rw [limit] at large ⊢
    exact le_roundedUnits large
  · rw [Overflows, Nat.mul_comm]
    exact (Nat.le_div_iff_mul_le positive).mp (Nat.le_trans overflowUnits_le large)

/-- A quotient has no magnitude exactly if it reaches the limit, and every
magnitude lies below the limit. -/
theorem ofRatio?_cases (positive : 0 < denominator) :
    Overflows numerator denominator ∧ ofRatio? numerator denominator = none ∨
    ¬ Overflows numerator denominator ∧ Exists fun value =>
      ofRatio? numerator denominator = some value ∧ value.units < overflowUnits := by
  rw [ofRatio?_eq]
  rcases Nat.lt_trichotomy (numerator * unitsPerOne / denominator).log2 (halfBits + 53) with
    shorter | longest | longer
  · rcases roundedUnits_of_shorter positive shorter with ⟨small, fits⟩
    exact .inr ⟨fits, _, if_pos (Nat.lt_of_lt_of_le small overflowUnits_le), small⟩
  · rcases roundedUnits_of_longest positive longest with ⟨reaches, small⟩
    by_cases fits : roundedUnits numerator denominator < unitLimit
    · exact .inr ⟨fun large => Nat.not_lt.mpr (reaches.mpr large) fits, _, if_pos fits, small fits⟩
    · exact .inl ⟨reaches.mp (Nat.not_lt.mp fits), if_neg fits⟩
  · rcases roundedUnits_of_longer positive longer with ⟨large, overflows⟩
    exact .inl ⟨overflows, if_neg (Nat.not_lt.mpr large)⟩

theorem ofRatio?_eq_none_iff (positive : 0 < denominator) :
    ofRatio? numerator denominator = none ↔ Overflows numerator denominator := by
  rcases ofRatio?_cases positive with ⟨overflows, refused⟩ | ⟨fits, value, found, _⟩
  · exact iff_of_true refused overflows
  · rw [found]
    exact iff_of_false nofun fits

end

/-! ## Powers of ten -/

/-- The bits of the number of units that make one. -/
@[irreducible]
def unitBits : Nat := 1074

theorem unitsPerOne_eq : unitsPerOne = 2 ^ unitBits := by
  decide +kernel

theorem unitsPerOne_pos : 0 < unitsPerOne := by
  decide +kernel

/-- The largest power of ten that has a magnitude is the one that is stated to
be. -/
theorem powerOfTen?_eq_none_iff (power : Nat) :
    powerOfTen? power = none ↔ largestPower < power := by
  have last : 10 ^ largestPower * unitsPerOne < overflowUnits := by decide +kernel
  have next : overflowUnits <= 10 ^ (largestPower + 1) * unitsPerOne := by decide +kernel
  rw [powerOfTen?, ofRatio?_eq_none_iff (by decide), Overflows, Nat.one_mul]
  constructor
  · intro large
    apply Nat.lt_of_not_le
    intro small
    have powers : 10 ^ power <= 10 ^ largestPower := Nat.pow_le_pow_right (by decide) small
    exact Nat.not_le.mpr last (Nat.le_trans large (Nat.mul_le_mul_right unitsPerOne powers))
  · intro large
    have powers : 10 ^ (largestPower + 1) <= 10 ^ power := Nat.pow_le_pow_right (by decide) large
    exact Nat.le_trans next (Nat.mul_le_mul_right unitsPerOne powers)

/-- A power of ten is one or more. -/
theorem one_le_powerOfTen? {power : Nat} {factor : Binary64}
    (found : powerOfTen? power = some factor) : unitsPerOne <= factor.units := by
  rw [powerOfTen?, ofRatio?_eq] at found
  split at found
  · cases found
    rw [unitsPerOne_eq]
    apply le_roundedUnits
    rw [← unitsPerOne_eq, Nat.div_one]
    exact Nat.le_mul_of_pos_left _ (Nat.pow_pos (by decide))
  · cases found

section

variable {value factor : Binary64}

/-- A division by one or more does not go beyond the limit. -/
theorem div?_of_one_le (bounded : value.units < overflowUnits)
    (large : unitsPerOne <= factor.units) :
    Exists fun quotient => value.div? factor = some quotient ∧ quotient.units < overflowUnits := by
  have positive : 0 < factor.units := Nat.lt_of_lt_of_le unitsPerOne_pos large
  -- The limit is kept, and not only the range, so that the quotient can be divided again.
  rcases ofRatio?_cases positive with ⟨overflows, _⟩ | ⟨_, found⟩
  · have less := Nat.mul_lt_mul_of_pos_right bounded unitsPerOne_pos
    have more := Nat.mul_le_mul_right overflowUnits large
    rw [Overflows] at overflows
    rw [Nat.mul_comm overflowUnits] at less
    exact absurd (Nat.le_trans more overflows) (Nat.not_le.mpr less)
  · exact found

/-- No number of divisions by powers of ten goes beyond the limit. -/
theorem scaleDown?_ne_none {last : Nat} (fits : last <= largestPower) (times : Nat)
    (bounded : value.units < overflowUnits) : value.scaleDown? last times ≠ none := by
  have found {power : Nat} (fits : power <= largestPower) :
      Exists fun factor => powerOfTen? power = some factor :=
    Option.ne_none_iff_exists'.mp fun refused =>
      Nat.not_lt.mpr fits ((powerOfTen?_eq_none_iff power).mp refused)
  induction times generalizing value with
  | zero =>
      rcases found fits with ⟨factor, same⟩
      rcases div?_of_one_le bounded (one_le_powerOfTen? same) with ⟨quotient, divided, _⟩
      rw [scaleDown?, same, Option.bind_some, divided]
      exact Option.some_ne_none quotient
  | succ times inductionHypothesis =>
      rw [scaleDown?]
      split
      · exact Option.some_ne_none value
      · rcases found (Nat.le_refl largestPower) with ⟨factor, same⟩
        rcases div?_of_one_le bounded (one_le_powerOfTen? same) with ⟨quotient, divided, smaller⟩
        rw [same, Option.bind_some, divided, Option.bind_some]
        exact inductionHypothesis smaller

/-- A magnitude times a power of ten is too large: the product of the two rounded
magnitudes is, or the power has no magnitude of its own. -/
inductive Oversized (value : Binary64) : Int -> Prop
  | product {power : Nat} {factor : Binary64} :
      powerOfTen? power = some factor ->
      Overflows (value.units * factor.units) (unitsPerOne * unitsPerOne) -> Oversized value power
  | power {power : Nat} : powerOfTen? power = none -> value.units ≠ 0 -> Oversized value power

/-- A magnitude times a power of ten is refused exactly if it is too large. -/
theorem scale?_eq_none_iff (bounded : value.units < overflowUnits) (power : Int) :
    value.scale? power = none ↔ Oversized value power := by
  by_cases negative : power < 0
  · have unrefused : value.scale? power ≠ none := by
      rw [scale?, if_pos negative]
      refine scaleDown?_ne_none ?_ _ bounded
      rw [largestPower]
      omega
    refine iff_of_false unrefused ?_
    intro oversized
    cases oversized <;> omega
  · obtain ⟨places, rfl⟩ := Int.eq_ofNat_of_zero_le (Int.not_lt.mp negative)
    rw [scale?, if_neg negative, Int.natAbs_natCast]
    cases found : powerOfTen? places with
    | none =>
        have beyond := (powerOfTen?_eq_none_iff places).mp found
        rw [if_neg (Nat.not_le.mpr beyond)]
        constructor
        · intro refused
          refine .power found fun zero => ?_
          rw [if_pos zero] at refused
          cases refused
        · intro oversized
          rcases oversized with ⟨same, _⟩ | ⟨_, nonzero⟩
          · cases found.symm.trans same
          · exact if_neg nonzero
    | some factor =>
        have usual : places <= largestPower := by
          apply Nat.le_of_not_lt
          intro beyond
          rw [(powerOfTen?_eq_none_iff places).mpr beyond] at found
          cases found
        rw [if_pos usual, Option.bind_some, mul?,
          ofRatio?_eq_none_iff (Nat.mul_pos unitsPerOne_pos unitsPerOne_pos)]
        constructor
        · exact .product found
        · intro oversized
          rcases oversized with ⟨same, large⟩ | ⟨none, _⟩
          · cases found.symm.trans same
            exact large
          · cases found.symm.trans none

/-- A number of 64 bits has a magnitude. -/
theorem ofNat?_of_lt {number : Nat} (small : number < 2 ^ 64) :
    Exists fun value => ofNat? number = some value ∧ value.units < overflowUnits := by
  have limit : 2 ^ 64 * unitsPerOne < overflowUnits := by decide +kernel
  rcases @ofRatio?_cases number 1 (by decide) with ⟨overflows, _⟩ | ⟨_, found⟩
  · rw [Overflows, Nat.one_mul] at overflows
    have less := Nat.mul_le_mul_right unitsPerOne (Nat.le_of_lt small)
    exact absurd (Nat.le_trans overflows less) (Nat.not_le.mpr limit)
  · exact found

end

end Binary64
end Decimal
end Salutation
