import Salutation.Duration
import Salutation.Proofs.Decimal.Figure

namespace Salutation

/-!
# Reading a duration back

The text of a duration is a plain figure of a unit.  As a rational number it is
exactly the duration, and the unit is the largest that does not exceed it.
These rules leave no choice: each duration has one text, and the text tells the
duration, however long it is.
-/

open Decimal

/-- The units that durations are given in. -/
inductive TimeUnit where
  | second
  | millisecond
  | microsecond
  | nanosecond
  deriving DecidableEq, Repr

namespace TimeUnit

def symbol : TimeUnit -> String
  | .second => "s"
  | .millisecond => "ms"
  | .microsecond => "µs"
  | .nanosecond => "ns"

/-- The decimal places that lead from a unit to nanoseconds. -/
def places : TimeUnit -> Nat
  | .second => 9
  | .millisecond => 6
  | .microsecond => 3
  | .nanosecond => 0

/-- A unit in seconds. -/
def toSeconds : TimeUnit -> Rat
  | .second => 1
  | .millisecond => 1 / 1000
  | .microsecond => 1 / 1000000
  | .nanosecond => 1 / 1000000000

/-- A unit in nanoseconds. -/
def toNanoseconds : TimeUnit -> Nat
  | .second => 1000000000
  | .millisecond => 1000000
  | .microsecond => 1000
  | .nanosecond => 1

/-- The unit of a symbol. -/
def ofSymbol? (symbol : List Char) : Option TimeUnit :=
  [second, millisecond, microsecond, nanosecond].find? fun unit => unit.symbol.toList == symbol

theorem ofSymbol?_symbol (unit : TimeUnit) : ofSymbol? unit.symbol.toList = some unit := by
  cases unit <;> decide

theorem symbol_ends (unit : TimeUnit) :
    Figure.Ends unit.symbol.toList ∧ unit.symbol.toList.head? ≠ some '.' := by
  cases unit <;> exact ⟨by rintro next ⟨⟩; rfl, by decide⟩

theorem toSeconds_eq (unit : TimeUnit) :
    unit.toSeconds = (unit.toNanoseconds : Rat) / 1000000000 := by
  cases unit <;> norm_num [toSeconds, toNanoseconds]

theorem toNanoseconds_eq (unit : TimeUnit) : unit.toNanoseconds = 10 ^ unit.places := by
  cases unit <;> rfl

theorem toNanoseconds_pos (unit : TimeUnit) : 0 < unit.toNanoseconds := by
  cases unit <;> decide

theorem places_le (unit : TimeUnit) : unit.places <= 9 := by
  cases unit <;> decide

theorem toSeconds_pos (unit : TimeUnit) : 0 < unit.toSeconds := by
  have positive : (0 : Rat) < unit.toNanoseconds := Nat.cast_pos.mpr unit.toNanoseconds_pos
  rw [toSeconds_eq]
  positivity

theorem toNanoseconds_inj {unit other : TimeUnit} :
    unit.toNanoseconds = other.toNanoseconds -> unit = other := by
  cases unit <;> cases other <;> decide

/-- No two units are of one length. -/
theorem eq_of_toSeconds_eq {unit other : TimeUnit} (same : unit.toSeconds = other.toSeconds) :
    unit = other := by
  rw [toSeconds_eq, toSeconds_eq, div_left_inj' (by norm_num), Nat.cast_inj] at same
  exact toNanoseconds_inj same

end TimeUnit

namespace Duration

/-- The whole duration in seconds. -/
def toSeconds (duration : Duration) : Rat :=
  (duration.seconds : Rat) + duration.nanoseconds / 1000000000

theorem toSeconds_eq (duration : Duration) :
    duration.toSeconds = (duration.toNanoseconds : Rat) / 1000000000 := by
  rw [toSeconds, toNanoseconds, nanosecondsPerSecond]
  push_cast
  field_simp

/-- The duration of so many nanoseconds. -/
def ofNanoseconds (nanoseconds : Nat) : Duration :=
  ⟨nanoseconds / nanosecondsPerSecond, nanoseconds % nanosecondsPerSecond⟩

theorem nanoseconds_ofNanoseconds_lt (nanoseconds : Nat) :
    (ofNanoseconds nanoseconds).nanoseconds < nanosecondsPerSecond :=
  Nat.mod_lt _ (by decide)

theorem ofNanoseconds_toNanoseconds {duration : Duration}
    (carried : duration.nanoseconds < nanosecondsPerSecond) :
    ofNanoseconds duration.toNanoseconds = duration := by
  rcases duration with ⟨seconds, nanoseconds⟩
  simp only [nanosecondsPerSecond] at carried
  simp only [ofNanoseconds, toNanoseconds, nanosecondsPerSecond, Duration.mk.injEq]
  omega

/-! ## What the text of a duration has to say -/

/-- The unit of a duration is the largest that does not exceed it.  All units
exceed no time at all, which is given in the smallest. -/
structure IsMeasuredIn (duration : Duration) (unit : TimeUnit) : Prop where
  fits : unit.toSeconds <= duration.toSeconds ∨ (duration.toSeconds = 0 ∧ unit = .nanosecond)
  largest : forall other : TimeUnit, other.toSeconds <= duration.toSeconds ->
    other.toSeconds <= unit.toSeconds

/-- A figure of a unit states a duration: its value is exactly the duration,
the unit is the largest one, no zero can be left out, and there are at most
nine digits behind the point. -/
structure IsStatedBy (duration : Duration) (figure : Figure) (unit : TimeUnit) : Prop where
  exact : figure.value * unit.toSeconds = duration.toSeconds
  unit : duration.IsMeasuredIn unit
  plain : figure.IsPlain
  short : figure.fraction.length <= 9

/-- Lengths compare in seconds as they do in nanoseconds. -/
theorem inSeconds_le_iff (first second : Nat) :
    (first : Rat) / 1000000000 <= second / 1000000000 ↔ first <= second := by
  rw [div_le_div_iff_of_pos_right (by norm_num), Nat.cast_le]

theorem toSeconds_eq_zero_iff (duration : Duration) :
    duration.toSeconds = 0 ↔ duration.toNanoseconds = 0 := by
  rw [toSeconds_eq, div_eq_zero_iff, or_iff_left (by norm_num), Nat.cast_eq_zero]

theorem IsMeasuredIn.eq {duration : Duration} {unit other : TimeUnit}
    (measured : duration.IsMeasuredIn unit) (also : duration.IsMeasuredIn other) :
    unit = other := by
  rcases measured.fits with fits | ⟨nothing, rfl⟩
  · rcases also.fits with fitsToo | ⟨nothing, rfl⟩
    · exact TimeUnit.eq_of_toSeconds_eq
        (le_antisymm (also.largest unit fits) (measured.largest other fitsToo))
    · exact absurd (nothing ▸ fits) (not_le.mpr unit.toSeconds_pos)
  · rcases also.fits with fitsToo | ⟨_, rfl⟩
    · exact absurd (nothing ▸ fitsToo) (not_le.mpr other.toSeconds_pos)
    · rfl

theorem eq_zero_of_toSeconds {duration : Duration} (nothing : duration.toSeconds = 0) :
    duration = ⟨0, 0⟩ := by
  rcases duration with ⟨seconds, nanoseconds⟩
  rw [toSeconds_eq_zero_iff] at nothing
  simp only [toNanoseconds, nanosecondsPerSecond] at nothing
  simp only [Duration.mk.injEq]
  omega

/-- A duration is stated in one way only. -/
theorem IsStatedBy.eq {duration : Duration} {figure other : Figure} {unit otherUnit : TimeUnit}
    (stated : duration.IsStatedBy figure unit) (also : duration.IsStatedBy other otherUnit) :
    figure = other ∧ unit = otherUnit := by
  have units := stated.unit.eq also.unit
  subst units
  refine ⟨Figure.eq_of_value_eq stated.plain also.plain ?_, rfl⟩
  exact mul_right_cancel₀ unit.toSeconds_pos.ne' (stated.exact.trans also.exact.symm)

/-! ## What it says -/

/-- The unit that a duration is given in. -/
def unit (duration : Duration) : TimeUnit :=
  if 0 < duration.seconds then .second
  else if 1000000 <= duration.nanoseconds then .millisecond
  else if 1000 <= duration.nanoseconds then .microsecond
  else .nanosecond

/-- The figure that a duration is given by. -/
def figure (duration : Duration) : Figure :=
  Figure.ofNumber (duration.toNanoseconds / duration.unit.toNanoseconds)
    (duration.toNanoseconds % duration.unit.toNanoseconds) duration.unit.places

theorem decimalText_eq (whole fraction places : Nat) (unit : String) :
    decimalText whole fraction places unit = (Figure.ofNumber whole fraction places).text ++ unit :=
  rfl

/-- What is left behind the point fits its places. -/
theorem part_lt (duration : Duration) :
    duration.toNanoseconds % duration.unit.toNanoseconds < 10 ^ duration.unit.places := by
  rw [← TimeUnit.toNanoseconds_eq]
  exact Nat.mod_lt _ duration.unit.toNanoseconds_pos

/-- The value of a figure is what a duration comes to in its unit. -/
theorem figure_exact (duration : Duration) :
    duration.figure.value * duration.unit.toSeconds = duration.toSeconds := by
  have power : (10 : Rat) ^ duration.unit.places = duration.unit.toNanoseconds := by
    rw [TimeUnit.toNanoseconds_eq, Nat.cast_pow, Nat.cast_ofNat]
  have positive : (0 : Rat) < duration.unit.toNanoseconds :=
    Nat.cast_pos.mpr duration.unit.toNanoseconds_pos
  have divided : (duration.unit.toNanoseconds : Rat) *
      (duration.toNanoseconds / duration.unit.toNanoseconds : Nat) +
        (duration.toNanoseconds % duration.unit.toNanoseconds : Nat) = duration.toNanoseconds := by
    exact_mod_cast Nat.div_add_mod _ _
  rw [figure, Figure.value_ofNumber _ duration.part_lt, power, TimeUnit.toSeconds_eq, toSeconds_eq,
    ← divided]
  field_simp

section

variable {duration : Duration} (carried : duration.nanoseconds < nanosecondsPerSecond)

include carried

/-- The text of a duration is its figure and the symbol of its unit. -/
theorem text_eq : duration.text = duration.figure.text ++ duration.unit.symbol := by
  rcases duration with ⟨seconds, nanoseconds⟩
  simp only [nanosecondsPerSecond] at carried
  rw [figure, ← decimalText_eq]
  simp only [text, unit, toNanoseconds, nanosecondsPerSecond]
  split
  · have whole : (seconds * 1000000000 + nanoseconds) / 1000000000 = seconds := by omega
    have part : (seconds * 1000000000 + nanoseconds) % 1000000000 = nanoseconds := by omega
    have second : TimeUnit.toNanoseconds .second = 1000000000 := rfl
    rw [second, whole, part]
    rfl
  · next short =>
      -- Below a second, the smaller units divide what is left of one.
      have none : seconds * 1000000000 + nanoseconds = nanoseconds := by omega
      rw [none]
      split
      · rfl
      · split
        · rfl
        · have one : TimeUnit.toNanoseconds .nanosecond = 1 := rfl
          rw [one, Nat.div_one, Nat.mod_one]
          rfl

/-- In nanoseconds, the unit does not exceed the duration unless that is no
time at all, and every larger unit does. -/
theorem unit_bounds :
    (duration.unit.toNanoseconds <= duration.toNanoseconds ∨
      (duration.toNanoseconds = 0 ∧ duration.unit = .nanosecond)) ∧
    forall other : TimeUnit, other.toNanoseconds <= duration.toNanoseconds ->
      other.toNanoseconds <= duration.unit.toNanoseconds := by
  rcases duration with ⟨seconds, nanoseconds⟩
  simp only [nanosecondsPerSecond] at carried
  simp only [unit, toNanoseconds, nanosecondsPerSecond]
  -- A unit is tried only after all larger ones, which are then too large.
  split
  · refine ⟨.inl ?_, fun other fits => ?_⟩
    · simp only [TimeUnit.toNanoseconds]
      omega
    · cases other <;> decide
  · split
    · refine ⟨.inl ?_, fun other fits => ?_⟩
      · simp only [TimeUnit.toNanoseconds]
        omega
      · cases other <;> simp only [TimeUnit.toNanoseconds] at fits ⊢ <;> omega
    · split
      · refine ⟨.inl ?_, fun other fits => ?_⟩
        · simp only [TimeUnit.toNanoseconds]
          omega
        · cases other <;> simp only [TimeUnit.toNanoseconds] at fits ⊢ <;> omega
      · refine ⟨?_, fun other fits => ?_⟩
        · simp only [TimeUnit.toNanoseconds, and_true]
          omega
        · cases other <;> simp only [TimeUnit.toNanoseconds] at fits ⊢ <;> omega

theorem isMeasuredIn_unit : duration.IsMeasuredIn duration.unit where
  fits := by
    rw [toSeconds_eq_zero_iff, TimeUnit.toSeconds_eq, toSeconds_eq, inSeconds_le_iff]
    exact (unit_bounds carried).1
  largest := by
    intro other fits
    rw [TimeUnit.toSeconds_eq, toSeconds_eq, inSeconds_le_iff] at fits
    rw [TimeUnit.toSeconds_eq, TimeUnit.toSeconds_eq, inSeconds_le_iff]
    exact (unit_bounds carried).2 other fits

theorem isStatedBy_figure : duration.IsStatedBy duration.figure duration.unit where
  exact := figure_exact duration
  unit := isMeasuredIn_unit carried
  plain := Figure.isPlain_ofNumber _ _ _
  short := Nat.le_trans (length_fractionDigits duration.part_lt) duration.unit.places_le

end

/-- No time at all is given in the smallest unit. -/
theorem text_of_zero {duration : Duration} (nothing : duration.toSeconds = 0) :
    duration.text = "0ns" := by
  rw [eq_zero_of_toSeconds nothing]
  decide

/-! ## Reading it back -/

/-- The duration that a figure of a unit comes to. -/
def ofFigure (figure : Figure) (unit : TimeUnit) : Duration :=
  ofNanoseconds (Nat.floor (figure.value * unit.toNanoseconds))

/-- The duration that a text is the text of, if there is one. -/
def ofText? (text : String) : Option Duration :=
  let (figure, symbol) := Figure.read text.toList
  ((TimeUnit.ofSymbol? symbol).map (ofFigure figure)).filter fun duration => duration.text == text

/-- A figure that states a duration comes to that duration. -/
theorem IsStatedBy.ofFigure_eq {duration : Duration} {figure : Figure} {unit : TimeUnit}
    (stated : duration.IsStatedBy figure unit)
    (carried : duration.nanoseconds < nanosecondsPerSecond) :
    ofFigure figure unit = duration := by
  have exact := stated.exact
  rw [TimeUnit.toSeconds_eq, toSeconds_eq, ← mul_div_assoc, div_left_inj' (by norm_num)] at exact
  rw [ofFigure, exact, Nat.floor_natCast, ofNanoseconds_toNanoseconds carried]

theorem read_text {duration : Duration} (carried : duration.nanoseconds < nanosecondsPerSecond) :
    Figure.read duration.text.toList = (duration.figure, duration.unit.symbol.toList) := by
  rcases duration.unit.symbol_ends with ⟨ends, pointless⟩
  rw [text_eq carried, String.toList_append, Figure.text, String.toList_ofList,
    Figure.read_append (isStatedBy_figure carried).plain ends pointless]

/-- A text is read as a duration exactly if it is the text of that duration. -/
theorem ofText?_eq_some_iff (text : String) (duration : Duration) :
    ofText? text = some duration ↔
      duration.nanoseconds < nanosecondsPerSecond ∧ text = duration.text := by
  constructor
  · intro read
    rcases Option.filter_eq_some_iff.mp read with ⟨found, same⟩
    rcases Option.map_eq_some_iff.mp found with ⟨unit, _, rfl⟩
    exact ⟨nanoseconds_ofNanoseconds_lt _, (beq_iff_eq.mp same).symm⟩
  · rintro ⟨carried, rfl⟩
    have stated := isStatedBy_figure carried
    simp only [ofText?, read_text carried, TimeUnit.ofSymbol?_symbol, Option.map_some,
      stated.ofFigure_eq carried, Option.filter_some, beq_self_eq_true, if_true]

/-- A smaller unit than the largest is not read. -/
example : ofText? "1500ms" = none := by decide +kernel

/-- Durations with the same text are the same. -/
theorem eq_of_text_eq {duration other : Duration}
    (carried : duration.nanoseconds < nanosecondsPerSecond)
    (also : other.nanoseconds < nanosecondsPerSecond) (same : duration.text = other.text) :
    duration = other := by
  have read := (ofText?_eq_some_iff duration.text duration).mpr ⟨carried, rfl⟩
  rw [(ofText?_eq_some_iff duration.text other).mpr ⟨also, same⟩, Option.some.injEq] at read
  exact read.symm

end Duration
end Salutation
