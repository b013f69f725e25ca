import Mathlib.Data.List.DropRight
import Mathlib.Data.Rat.Floor
import Mathlib.Tactic.FieldSimp
import Mathlib.Tactic.Linarith

namespace Salutation
namespace Decimal

/-!
# Decimal figures

A figure is written with digits before a point and digits behind it, and it
stands for a rational number.  A plain figure has no zero that could be left
out on either side.  Every number of so many places has a plain figure, and no
two plain figures stand for the same number.  What follows a figure does not
change how it is read, unless that begins with a digit or a point.
-/

/-! ## Digits -/

/-- Decimal digits and nothing else. -/
def AllDigits (digits : List Char) : Prop :=
  forall digit, digit ∈ digits -> digit.isDigit = true

/-- The number that one digit stands for. -/
def digitValue (digit : Char) : Nat := digit.toNat - '0'.toNat

theorem AllDigits.head {digit : Char} {digits : List Char} (all : AllDigits (digit :: digits)) :
    digit.isDigit = true :=
  all digit List.mem_cons_self

theorem AllDigits.tail {digit : Char} {digits : List Char} (all : AllDigits (digit :: digits)) :
    AllDigits digits :=
  fun other member => all other (List.mem_cons_of_mem digit member)

theorem AllDigits.append {first last : List Char} (leading : AllDigits first)
    (trailing : AllDigits last) : AllDigits (first ++ last) := by
  intro digit member
  rcases List.mem_append.mp member with member | member
  · exact leading digit member
  · exact trailing digit member

theorem allDigits_toDigits (number : Nat) : AllDigits (Nat.toDigits 10 number) :=
  fun _ member => Nat.isDigit_of_mem_toDigits (by decide) (by decide) member

theorem digitValue_lt {digit : Char} (isDigit : digit.isDigit = true) : digitValue digit < 10 := by
  have high : digit.toNat <= '9'.toNat := (Char.isDigit_iff_toNat.mp isDigit).2
  have nine : '9'.toNat = '0'.toNat + 9 := rfl
  rw [digitValue]
  omega

/-- A digit is the character of the number that it stands for. -/
theorem digitChar_digitValue {digit : Char} (isDigit : digit.isDigit = true) :
    Nat.digitChar (digitValue digit) = digit := by
  have low : '0'.toNat <= digit.toNat := (Char.isDigit_iff_toNat.mp isDigit).1
  have zero : '0'.toNat = 48 := rfl
  apply Char.toNat_inj.mp
  rw [Nat.toNat_digitChar_of_lt_ten (digitValue_lt isDigit), digitValue]
  omega

theorem ofDigitChars_cons (digit : Char) (digits : List Char) :
    Nat.ofDigitChars 10 (digit :: digits) 0 =
      10 ^ digits.length * digitValue digit + Nat.ofDigitChars 10 digits 0 := by
  rw [Nat.ofDigitChars_cons, Nat.ofDigitChars_eq_ofDigitChars_zero, Nat.mul_zero, Nat.zero_add,
    digitValue]

theorem ofDigitChars_lt {digits : List Char} (all : AllDigits digits) :
    Nat.ofDigitChars 10 digits 0 < 10 ^ digits.length := by
  induction digits with
  | nil => decide
  | cons digit digits inductionHypothesis =>
      have rest := inductionHypothesis all.tail
      have first : digitValue digit + 1 <= 10 := digitValue_lt all.head
      calc
        Nat.ofDigitChars 10 (digit :: digits) 0 =
            10 ^ digits.length * digitValue digit + Nat.ofDigitChars 10 digits 0 :=
          ofDigitChars_cons digit digits
        _ < 10 ^ digits.length * (digitValue digit + 1) := by
          rw [Nat.mul_succ]
          exact Nat.add_lt_add_left rest _
        _ <= 10 ^ digits.length * 10 := Nat.mul_le_mul_left _ first

/-! ## Before the point -/

/-- Digits behind those of a number that is not zero continue that number. -/
theorem toDigits_append {number : Nat} (positive : 0 < number) {digits : List Char}
    (all : AllDigits digits) :
    Nat.toDigits 10 number ++ digits = Nat.toDigits 10 (Nat.ofDigitChars 10 digits number) := by
  -- The number that has been read so far stays positive, so that its digits do not change.
  induction digits generalizing number with
  | nil => rw [List.append_nil, Nat.ofDigitChars_nil]
  | cons digit digits inductionHypothesis =>
      have small := digitValue_lt all.head
      have same := digitChar_digitValue all.head
      have longer : Nat.toDigits 10 number ++ [digit] =
          Nat.toDigits 10 (10 * number + digitValue digit) := by
        rw [← Nat.toDigits_append_toDigits (by decide) positive small,
          Nat.toDigits_of_lt_base small, same]
      calc
        Nat.toDigits 10 number ++ digit :: digits =
            (Nat.toDigits 10 number ++ [digit]) ++ digits := by
          rw [List.append_assoc, List.singleton_append]
        _ = Nat.toDigits 10 (10 * number + digitValue digit) ++ digits := by rw [longer]
        _ = Nat.toDigits 10 (Nat.ofDigitChars 10 (digit :: digits) number) := by
          rw [inductionHypothesis (by omega) all.tail, Nat.ofDigitChars_cons, digitValue]

/-- Digits of a whole number, of which the first is a zero only if it is the
only one. -/
structure IsWhole (digits : List Char) : Prop where
  all : AllDigits digits
  nonempty : digits ≠ []
  leading : digits.head? = some '0' -> digits = ['0']

/-- The digits of a number that is not zero do not begin with one. -/
theorem head_toDigits_ne_zero {number : Nat} (positive : 0 < number) :
    (Nat.toDigits 10 number).head? ≠ some '0' := by
  induction number using Nat.strongRecOn with
  | ind number inductionHypothesis =>
      by_cases small : number < 10
      · rw [Nat.toDigits_of_lt_base small, List.head?_cons, ne_eq, Option.some.injEq,
          Nat.digitChar_eq_zero]
        omega
      · rw [Nat.toDigits_of_base_le (by decide) (Nat.not_lt.mp small),
          List.head?_append_of_ne_nil _ Nat.toDigits_ne_nil]
        exact inductionHypothesis (number / 10) (by omega) (by omega)

theorem isWhole_toDigits (number : Nat) : IsWhole (Nat.toDigits 10 number) where
  all := allDigits_toDigits number
  nonempty := Nat.toDigits_ne_nil
  leading := by
    intro zero
    rcases Nat.eq_zero_or_pos number with rfl | positive
    · exact Nat.toDigits_zero 10
    · exact absurd zero (head_toDigits_ne_zero positive)

/-- The digits of a whole number are those of the number they stand for. -/
theorem IsWhole.eq_toDigits {digits : List Char} (whole : IsWhole digits) :
    digits = Nat.toDigits 10 (Nat.ofDigitChars 10 digits 0) := by
  cases digits with
  | nil => exact absurd rfl whole.nonempty
  | cons digit digits =>
      have small := digitValue_lt whole.all.head
      have same := digitChar_digitValue whole.all.head
      rcases Nat.eq_zero_or_pos (digitValue digit) with zero | positive
      · rw [zero] at same
        rw [whole.leading (congrArg some same.symm)]
        decide
      · have continued := toDigits_append positive whole.all.tail
        rw [Nat.toDigits_of_lt_base small, same, List.singleton_append] at continued
        rw [continued, Nat.ofDigitChars_ten_toDigits]

/-! ## Behind the point -/

/-- The number that digits behind a point stand for. -/
def fractionValue (digits : List Char) : Rat :=
  (Nat.ofDigitChars 10 digits 0 : Rat) / 10 ^ digits.length

theorem fractionValue_nil : fractionValue [] = 0 := by
  rw [fractionValue, Nat.ofDigitChars_nil, Nat.cast_zero, zero_div]

theorem fractionValue_cons (digit : Char) (digits : List Char) :
    fractionValue (digit :: digits) = ((digitValue digit : Rat) + fractionValue digits) / 10 := by
  rw [fractionValue, fractionValue, ofDigitChars_cons, List.length_cons, pow_succ]
  push_cast
  field_simp

theorem fractionValue_nonneg (digits : List Char) : 0 <= fractionValue digits := by
  rw [fractionValue]
  positivity

theorem fractionValue_lt_one {digits : List Char} (all : AllDigits digits) :
    fractionValue digits < 1 := by
  rw [fractionValue, div_lt_one (by positivity)]
  exact_mod_cast ofDigitChars_lt all

/-- Zeros at the end of a fraction mean nothing. -/
theorem fractionValue_append_zeros (digits : List Char) (count : Nat) :
    fractionValue (digits ++ List.replicate count '0') = fractionValue digits := by
  rw [fractionValue, fractionValue, Nat.ofDigitChars_append, Nat.ofDigitChars_replicate_zero,
    List.length_append, List.length_replicate, pow_add]
  push_cast
  field_simp

/-- Digits of a fraction, of which the last is not a zero. -/
structure IsFraction (digits : List Char) : Prop where
  all : AllDigits digits
  trailing : digits.getLast? ≠ some '0'

theorem IsFraction.tail {digit : Char} {digits : List Char}
    (fraction : IsFraction (digit :: digits)) : IsFraction digits where
  all := fraction.all.tail
  trailing := by
    cases digits with
    | nil => exact Option.some_ne_none '0' ∘ Eq.symm
    | cons next rest => exact fraction.trailing

theorem IsFraction.eq_nil {digits : List Char} (fraction : IsFraction digits)
    (zero : fractionValue digits = 0) : digits = [] := by
  induction digits with
  | nil => rfl
  | cons digit digits inductionHypothesis =>
      rw [fractionValue_cons] at zero
      have nonneg := fractionValue_nonneg digits
      have digitNonneg : (0 : Rat) <= digitValue digit := Nat.cast_nonneg _
      have first : (digitValue digit : Rat) = 0 := by linarith
      have rest : digits = [] := inductionHypothesis fraction.tail (by linarith)
      have same := digitChar_digitValue fraction.all.head
      rw [Nat.cast_eq_zero.mp first] at same
      rw [rest, ← same] at fraction
      exact absurd rfl fraction.trailing

/-- A whole number and a part of one are told by their sum. -/
theorem eq_and_eq_of_add_eq {whole other : Nat} {part rest : Rat} (nonneg : 0 <= part)
    (small : part < 1) (also : 0 <= rest) (less : rest < 1)
    (same : (whole : Rat) + part = other + rest) : whole = other ∧ part = rest := by
  have wholes : whole = other := by
    calc
      whole = Nat.floor ((whole : Rat) + part) :=
        ((Nat.floor_eq_iff (by positivity)).mpr ⟨by linarith, by linarith⟩).symm
      _ = Nat.floor ((other : Rat) + rest) := by rw [same]
      _ = other := (Nat.floor_eq_iff (by positivity)).mpr ⟨by linarith, by linarith⟩
  subst wholes
  exact ⟨rfl, add_left_cancel same⟩

/-- Fractions that do not end with a zero differ in their values. -/
theorem IsFraction.eq_of_value_eq {first second : List Char} (fraction : IsFraction first)
    (also : IsFraction second) (same : fractionValue first = fractionValue second) :
    first = second := by
  -- Ten times a value has the first digit as its whole part, the rest as the other.
  induction first generalizing second with
  | nil =>
      rw [fractionValue_nil] at same
      exact (also.eq_nil same.symm).symm
  | cons digit digits inductionHypothesis =>
      cases second with
      | nil =>
          rw [fractionValue_nil] at same
          exact fraction.eq_nil same
      | cons other others =>
          rw [fractionValue_cons, fractionValue_cons, div_left_inj' (by decide)] at same
          rcases eq_and_eq_of_add_eq (fractionValue_nonneg digits)
            (fractionValue_lt_one fraction.all.tail) (fractionValue_nonneg others)
            (fractionValue_lt_one also.all.tail) same with ⟨values, rests⟩
          have characters : digit = other := by
            rw [← digitChar_digitValue fraction.all.head, values, digitChar_digitValue also.all.head]
          rw [characters, inductionHypothesis fraction.tail also.tail rests]

/-- The digits of a fraction, with zeros in front that fill its places. -/
def paddedDigits (fraction places : Nat) : List Char :=
  let digits := Nat.toDigits 10 fraction
  List.replicate (places - digits.length) '0' ++ digits

/-- The digits of a fraction of so many places, less the zeros at the end. -/
def fractionDigits (fraction places : Nat) : List Char :=
  (paddedDigits fraction places).rdropWhile (· == '0')

theorem allDigits_paddedDigits (fraction places : Nat) :
    AllDigits (paddedDigits fraction places) := by
  apply AllDigits.append
  · intro digit member
    rw [List.eq_of_mem_replicate member]
    decide
  · exact allDigits_toDigits fraction

theorem ofDigitChars_paddedDigits (fraction places : Nat) :
    Nat.ofDigitChars 10 (paddedDigits fraction places) 0 = fraction := by
  rw [paddedDigits, Nat.ofDigitChars_append, Nat.ofDigitChars_replicate_zero, Nat.mul_zero,
    Nat.ofDigitChars_ten_toDigits]

theorem isFraction_fractionDigits (fraction places : Nat) :
    IsFraction (fractionDigits fraction places) where
  all := by
    intro digit member
    exact allDigits_paddedDigits fraction places digit
      ((List.rdropWhile_prefix _ _).subset member)
  trailing := by
    intro zero
    have nonempty : fractionDigits fraction places ≠ [] := by
      intro empty
      rw [empty] at zero
      cases zero
    rw [List.getLast?_eq_some_getLast nonempty, Option.some.injEq] at zero
    exact List.rdropWhile_last_not _ _ nonempty (beq_iff_eq.mpr zero)

/-- Only zeros are left out. -/
theorem fractionValue_fractionDigits_eq (fraction places : Nat) :
    fractionValue (fractionDigits fraction places) =
      fractionValue (paddedDigits fraction places) := by
  have zeros : forall digit,
      digit ∈ (paddedDigits fraction places).rtakeWhile (· == '0') -> digit = '0' := by
    intro digit member
    exact beq_iff_eq.mp (List.mem_rtakeWhile_imp (p := (· == '0')) member)
  have whole : fractionDigits fraction places ++
      (paddedDigits fraction places).rtakeWhile (· == '0') = paddedDigits fraction places :=
    List.rdropWhile_append_rtakeWhile
  rw [← whole, List.eq_replicate_of_mem zeros, fractionValue_append_zeros]

section

variable {fraction places : Nat} (small : fraction < 10 ^ places)

include small

theorem length_paddedDigits (positive : 0 < places) :
    (paddedDigits fraction places).length = places := by
  have short : (Nat.toDigits 10 fraction).length <= places :=
    (Nat.length_toDigits_le_iff (by decide) positive).mpr small
  rw [paddedDigits, List.length_append, List.length_replicate, Nat.sub_add_cancel short]

/-- The digits of a fraction stand for that fraction. -/
theorem fractionValue_fractionDigits :
    fractionValue (fractionDigits fraction places) = fraction / 10 ^ places := by
  rw [fractionValue_fractionDigits_eq, fractionValue, ofDigitChars_paddedDigits]
  rcases Nat.eq_zero_or_pos places with rfl | positive
  · rw [Nat.lt_one_iff.mp small, Nat.cast_zero, zero_div, zero_div]
  · rw [length_paddedDigits small positive]

theorem length_fractionDigits : (fractionDigits fraction places).length <= places := by
  rcases Nat.eq_zero_or_pos places with rfl | positive
  · rw [Nat.lt_one_iff.mp small]
    decide
  · calc
      (fractionDigits fraction places).length <= (paddedDigits fraction places).length :=
        (List.rdropWhile_prefix _ _).length_le
      _ = places := length_paddedDigits small positive

end

/-! ## Figures -/

/-- The digits before a point and behind it. -/
structure Figure where
  whole : List Char
  fraction : List Char
  deriving DecidableEq, Repr

namespace Figure

/-- The number that a figure stands for. -/
def value (figure : Figure) : Rat :=
  (Nat.ofDigitChars 10 figure.whole 0 : Rat) + fractionValue figure.fraction

/-- A figure as it is written.  Without a fraction there is no point. -/
def characters (figure : Figure) : List Char :=
  figure.whole ++
    match figure.fraction with
    | [] => []
    | digits => '.' :: digits

def text (figure : Figure) : String := String.ofList figure.characters

/-- No zero can be left out. -/
structure IsPlain (figure : Figure) : Prop where
  whole : IsWhole figure.whole
  fraction : IsFraction figure.fraction

/-- Plain figures of the same number are the same. -/
theorem eq_of_value_eq {first second : Figure} (plain : first.IsPlain) (also : second.IsPlain)
    (same : first.value = second.value) : first = second := by
  rcases eq_and_eq_of_add_eq (fractionValue_nonneg _) (fractionValue_lt_one plain.fraction.all)
    (fractionValue_nonneg _) (fractionValue_lt_one also.fraction.all) same with ⟨wholes, parts⟩
  have before : first.whole = second.whole := by
    rw [plain.whole.eq_toDigits, wholes, ← also.whole.eq_toDigits]
  have behind : first.fraction = second.fraction :=
    plain.fraction.eq_of_value_eq also.fraction parts
  exact congrArg₂ Figure.mk before behind

/-- The plain figure of a whole number and a fraction of so many places. -/
def ofNumber (whole fraction places : Nat) : Figure :=
  ⟨Nat.toDigits 10 whole, fractionDigits fraction places⟩

theorem isPlain_ofNumber (whole fraction places : Nat) : (ofNumber whole fraction places).IsPlain :=
  ⟨isWhole_toDigits whole, isFraction_fractionDigits fraction places⟩

theorem value_ofNumber (whole : Nat) {fraction places : Nat} (small : fraction < 10 ^ places) :
    (ofNumber whole fraction places).value = whole + fraction / 10 ^ places := by
  rw [value, ofNumber, Nat.ofDigitChars_ten_toDigits, fractionValue_fractionDigits small]

/-! ## Reading a figure -/

/-- The figure in front of some text, and what follows it. -/
def read (input : List Char) : Figure × List Char :=
  let whole := input.takeWhile Char.isDigit
  match input.dropWhile Char.isDigit with
  | '.' :: rest => (⟨whole, rest.takeWhile Char.isDigit⟩, rest.dropWhile Char.isDigit)
  | rest => (⟨whole, []⟩, rest)

/-- What follows does not go on with a digit. -/
def Ends (rest : List Char) : Prop :=
  forall next, next ∈ rest.head? -> next.isDigit = false

theorem takeWhile_digits {digits rest : List Char} (all : AllDigits digits) (ends : Ends rest) :
    (digits ++ rest).takeWhile Char.isDigit = digits := by
  rw [List.takeWhile_append_of_pos all]
  cases rest with
  | nil => rw [List.takeWhile_nil, List.append_nil]
  | cons next rest =>
      rw [List.takeWhile_cons_of_neg (Bool.eq_false_iff.mp (ends next rfl)), List.append_nil]

theorem dropWhile_digits {digits rest : List Char} (all : AllDigits digits) (ends : Ends rest) :
    (digits ++ rest).dropWhile Char.isDigit = rest := by
  rw [List.dropWhile_append_of_pos all]
  cases rest with
  | nil => rw [List.dropWhile_nil]
  | cons next rest => rw [List.dropWhile_cons_of_neg (Bool.eq_false_iff.mp (ends next rfl))]

/-- A plain figure is read for what it is, if nothing goes on with a digit or
a point. -/
theorem read_append {figure : Figure} (plain : figure.IsPlain) {rest : List Char}
    (ends : Ends rest) (pointless : rest.head? ≠ some '.') :
    read (figure.characters ++ rest) = (figure, rest) := by
  rcases figure with ⟨whole, fraction⟩
  have before := plain.whole.all
  have behind := plain.fraction.all
  cases fraction with
  | nil =>
      have written : characters ⟨whole, []⟩ ++ rest = whole ++ rest := by
        rw [characters, List.append_nil]
      rw [written, read, takeWhile_digits before ends, dropWhile_digits before ends]
      split
      · exact absurd rfl pointless
      · rfl
  | cons digit digits =>
      have written : characters ⟨whole, digit :: digits⟩ ++ rest =
          whole ++ '.' :: ((digit :: digits) ++ rest) := by
        rw [characters, List.append_assoc, List.cons_append]
      have point : Ends ('.' :: ((digit :: digits) ++ rest)) := by
        intro next first
        cases first
        rfl
      rw [written, read, takeWhile_digits before point, dropWhile_digits before point]
      simp only [takeWhile_digits behind ends, dropWhile_digits behind ends]

end Figure
end Decimal
end Salutation
