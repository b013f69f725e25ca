import Salutation.Proofs.Decimal.Overflow
import Salutation.Proofs.Json.Grammar

namespace Salutation
namespace Json

open Grammar

/-!
# Reading number literals

A literal is read greedily, so that what follows it has a say in where it
ends: the reader finds the literals of the grammar exactly where nothing that
could continue a number comes after them.  Within that condition the reader
and the rules agree in both directions, part by part and for either purpose.

The value of a literal is settled separately.  The reader refuses a literal
of the grammar for its size alone, and does so exactly when it denotes no
number, which is when its magnitude or its exponent is too large.
-/

/-- What follows does not begin with a byte of the given kind. -/
def Stops (kind : UInt8 -> Bool) (rest : Bytes) : Prop :=
  forall byte, byte ∈ rest.head? -> kind byte = false

/-- A byte that can stand inside a number after its first digit. -/
def continuesNumber (byte : UInt8) : Bool :=
  Bytes.isDigit byte || byte == ascii '.' || byte == ascii 'e' || byte == ascii 'E'

/-- Nothing that could continue a number comes next. -/
def Delimited (rest : Bytes) : Prop :=
  Stops continuesNumber rest

theorem Delimited.stops_digits {rest : Bytes} (ends : Delimited rest) :
    Stops Bytes.isDigit rest := by
  intro byte first
  have plain := ends byte first
  simp only [continuesNumber, Bool.or_eq_false_iff] at plain
  exact plain.1.1.1

theorem delimited_nil : Delimited [] := by
  intro byte first
  cases first

theorem delimited_cons {byte : UInt8} {rest : Bytes} (plain : continuesNumber byte = false) :
    Delimited (byte :: rest) := by
  intro next first
  simp only [List.head?_cons, Option.mem_some_iff] at first
  exact first ▸ plain

/-! ## Digits -/

theorem isDigit_ofNat {value : Nat} (small : value <= 9) :
    Bytes.isDigit (UInt8.ofNat (value + 0x30)) = true := by
  have code : (UInt8.ofNat (value + 0x30)).toNat = value + 0x30 := by
    rw [UInt8.toNat_ofNat']
    omega
  simp only [Bytes.isDigit, Bool.and_eq_true, decide_eq_true_eq, UInt8.le_iff_toNat_le, code]
  exact ⟨Nat.le_add_left _ _, Nat.add_le_add_right small _⟩

theorem toNat_digit {value : Nat} (small : value <= 9) :
    (UInt8.ofNat (value + 0x30)).toNat - 0x30 = value := by
  rw [UInt8.toNat_ofNat']
  omega

theorem digit_ne_zero {value : Nat} (small : value <= 9) (nonzero : value ≠ 0) :
    UInt8.ofNat (value + 0x30) ≠ ascii '0' := by
  intro equal
  have same := toNat_digit small
  rw [equal] at same
  exact nonzero same.symm

/-- A digit is the byte of its own value. -/
theorem digit_eq_ofNat {byte : UInt8} (digit : Bytes.isDigit byte = true) :
    byte.toNat - 0x30 <= 9 ∧ byte = UInt8.ofNat (byte.toNat - 0x30 + 0x30) := by
  simp only [Bytes.isDigit, Bool.and_eq_true, decide_eq_true_eq, UInt8.le_iff_toNat_le] at digit
  have low : 0x30 <= byte.toNat := digit.1
  have high : byte.toNat <= 0x39 := digit.2
  refine ⟨by omega, ?_⟩
  rw [Nat.sub_add_cancel low, UInt8.ofNat_toNat]

theorem digits_append {bytes rest : Bytes} {values : List Nat}
    (written : Digits bytes values) (stops : Stops Bytes.isDigit rest) :
    Numeral.digits (bytes ++ rest) = (values, rest) := by
  induction written with
  | none =>
      cases rest with
      | nil => rfl
      | cons byte tail =>
          have plain : Bytes.isDigit byte = false := stops byte rfl
          simp only [Numeral.digits, List.nil_append, List.takeWhile_cons, List.dropWhile_cons,
            plain, Bool.false_eq_true, if_false, List.map_nil]
  | digit small _ inductionHypothesis =>
      simp only [Numeral.digits, Prod.mk.injEq] at inductionHypothesis ⊢
      simp only [List.cons_append, List.takeWhile_cons, List.dropWhile_cons, isDigit_ofNat small,
        if_true, List.map_cons, toNat_digit small]
      exact ⟨congrArg _ inductionHypothesis.1, inductionHypothesis.2⟩

theorem digits_of_takeWhile (input : Bytes) :
    Digits (input.takeWhile Bytes.isDigit) (Numeral.digits input).1 := by
  induction input with
  | nil => exact .none
  | cons byte rest inductionHypothesis =>
      cases digit : Bytes.isDigit byte with
      | false =>
          simp only [Numeral.digits, List.takeWhile_cons, digit, Bool.false_eq_true, if_false,
            List.map_nil]
          exact .none
      | true =>
          have value := digit_eq_ofNat digit
          simp only [Numeral.digits, List.takeWhile_cons, digit, if_true, List.map_cons]
          have written := Digits.digit value.1 inductionHypothesis
          rw [← value.2] at written
          exact written

/-- The digits found are those in front of what is left. -/
theorem digits_sound {input rest : Bytes} {values : List Nat}
    (found : Numeral.digits input = (values, rest)) :
    Exists fun bytes => input = bytes ++ rest ∧ Digits bytes values := by
  have written := digits_of_takeWhile input
  rw [found] at written
  refine ⟨_, ?_, written⟩
  have left : input.dropWhile Bytes.isDigit = rest := congrArg Prod.snd found
  rw [← left, List.takeWhile_append_dropWhile]

theorem readDigits_append {bytes rest : Bytes} {values : List Nat} (purpose : Purpose)
    (written : Digits bytes values) (some : values ≠ []) (stops : Stops Bytes.isDigit rest) :
    Numeral.readDigits purpose (bytes ++ rest) = .ok (values, rest) := by
  rw [Numeral.readDigits, digits_append written stops]
  cases values with
  | nil => exact absurd rfl some
  | cons value values => rfl

theorem readDigits_sound {purpose : Purpose} {input rest : Bytes} {values : List Nat}
    (found : Numeral.readDigits purpose input = .ok (values, rest)) :
    Exists fun bytes => input = bytes ++ rest ∧ Digits bytes values ∧ values ≠ [] := by
  rw [Numeral.readDigits] at found
  split at found
  · cases found
  · next nonempty =>
      have read := Except.ok.inj found
      rcases digits_sound read with ⟨bytes, split, written⟩
      refine ⟨bytes, split, written, ?_⟩
      intro empty
      exact nonempty rest (empty ▸ read)

/-! ## The parts of a literal -/

theorem readWhole_append {bytes rest : Bytes} {values : List Nat} (purpose : Purpose)
    (written : Whole bytes values) (stops : Stops Bytes.isDigit rest) :
    Numeral.readWhole purpose (bytes ++ rest) = .ok (values, rest) := by
  cases written with
  | zero =>
      cases rest with
      | nil => rfl
      | cons next after =>
          have plain : Bytes.isDigit next = false := stops next rfl
          simp only [Numeral.readWhole, List.cons_append, List.nil_append, if_true, plain,
            Bool.false_eq_true, if_false]
  | digits written nonzero =>
      have whole := digits_append written stops
      cases written with
      | digit small tail =>
          rw [List.cons_append] at whole ⊢
          simp only [Numeral.readWhole, if_neg (digit_ne_zero small nonzero),
            isDigit_ofNat small, if_true, whole]

theorem readWhole_sound {purpose : Purpose} {input rest : Bytes} {values : List Nat}
    (found : Numeral.readWhole purpose input = .ok (values, rest)) :
    Exists fun bytes => input = bytes ++ rest ∧ Whole bytes values := by
  cases input with
  | nil => cases found
  | cons byte tail =>
      simp only [Numeral.readWhole] at found
      by_cases zero : byte = ascii '0'
      · rw [if_pos zero] at found
        subst zero
        refine ⟨[ascii '0'], ?_⟩
        cases tail with
        | nil =>
            cases found
            exact ⟨rfl, .zero⟩
        | cons next after =>
            by_cases digit : Bytes.isDigit next = true
            · simp only [digit, if_true, reduceCtorEq] at found
            · simp only [digit, Bool.false_eq_true, if_false, Except.ok.injEq,
                Prod.mk.injEq] at found
              rw [← found.1, ← found.2]
              exact ⟨rfl, .zero⟩
      · rw [if_neg zero] at found
        by_cases digit : Bytes.isDigit byte = true
        · rw [if_pos digit, Except.ok.injEq] at found
          rcases digits_sound found with ⟨bytes, split, written⟩
          refine ⟨bytes, split, ?_⟩
          -- The first digit is the byte that was looked at, which is not a zero.
          cases written with
          | none =>
              have stuck := congrArg Prod.fst found
              simp only [Numeral.digits, List.takeWhile_cons, digit, if_true, List.map_cons,
                reduceCtorEq] at stuck
          | digit small tail =>
              refine .digits (.digit small tail) ?_
              intro equal
              subst equal
              exact zero (List.cons.inj split).1
        · rw [if_neg digit] at found
          cases found

theorem readFraction_append {bytes rest : Bytes} {fraction : Option (List Nat)}
    (purpose : Purpose) (written : Fraction bytes fraction)
    (stops : Stops Bytes.isDigit rest)
    (plain : fraction = none -> Stops (· == ascii '.') rest) :
    Numeral.readFraction purpose (bytes ++ rest) = .ok (fraction, rest) := by
  cases written with
  | absent =>
      cases rest with
      | nil => rfl
      | cons byte tail =>
          have other : ¬ byte = ascii '.' := by
            simpa only [beq_eq_false_iff_ne] using plain rfl byte rfl
          rw [List.nil_append, Numeral.readFraction, if_neg other]
  | present written some =>
      rw [List.cons_append, Numeral.readFraction, if_pos rfl,
        readDigits_append purpose written some stops]

theorem readFraction_sound {purpose : Purpose} {input rest : Bytes}
    {fraction : Option (List Nat)}
    (found : Numeral.readFraction purpose input = .ok (fraction, rest)) :
    Exists fun bytes => input = bytes ++ rest ∧ Fraction bytes fraction := by
  cases input with
  | nil =>
      cases found
      exact ⟨[], rfl, .absent⟩
  | cons byte tail =>
      rw [Numeral.readFraction] at found
      by_cases point : byte = ascii '.'
      · rw [if_pos point] at found
        split at found
        · cases found
        · next values after read =>
            cases found
            rcases readDigits_sound read with ⟨bytes, split, written, some⟩
            exact ⟨ascii '.' :: bytes, by rw [split, point, List.cons_append],
              .present written some⟩
      · rw [if_neg point] at found
        cases found
        exact ⟨[], rfl, .absent⟩

theorem readSign_append {sign bytes : Bytes} {negative : Bool}
    (written : Sign sign negative)
    (unsigned : Exists fun digit => Exists fun tail =>
      bytes = digit :: tail ∧ Bytes.isDigit digit = true) :
    Numeral.readSign (sign ++ bytes) = (negative, bytes) := by
  cases written with
  | absent =>
      rcases unsigned with ⟨digit, tail, split, isDigit⟩
      have notMinus : ¬ digit = ascii '-' := by
        intro equal
        rw [equal] at isDigit
        cases isDigit
      have notPlus : ¬ digit = ascii '+' := by
        intro equal
        rw [equal] at isDigit
        cases isDigit
      rw [List.nil_append, split, Numeral.readSign, if_neg notMinus, if_neg notPlus]
  | plus => rfl
  | minus => rfl

theorem readSign_sound (input : Bytes) :
    Exists fun sign => input = sign ++ (Numeral.readSign input).2 ∧
      Sign sign (Numeral.readSign input).1 := by
  cases input with
  | nil => exact ⟨[], rfl, .absent⟩
  | cons byte rest =>
      rw [Numeral.readSign]
      by_cases minus : byte = ascii '-'
      · rw [if_pos minus]
        exact ⟨[ascii '-'], by rw [minus]; rfl, .minus⟩
      · rw [if_neg minus]
        by_cases plus : byte = ascii '+'
        · rw [if_pos plus]
          exact ⟨[ascii '+'], by rw [plus]; rfl, .plus⟩
        · rw [if_neg plus]
          exact ⟨[], rfl, .absent⟩

/-- Digits begin with a digit, whatever follows them. -/
theorem Grammar.Digits.starts {bytes : Bytes} {values : List Nat} (written : Digits bytes values)
    (some : values ≠ []) (rest : Bytes) :
    Exists fun digit => Exists fun tail =>
      bytes ++ rest = digit :: tail ∧ Bytes.isDigit digit = true := by
  cases written with
  | none => exact absurd rfl some
  | digit small tail => exact ⟨_, _, rfl, isDigit_ofNat small⟩

theorem readExponent_append {bytes rest : Bytes} {exponent : Option (Bool × List Nat)}
    (purpose : Purpose) (written : Exponent bytes exponent) (ends : Delimited rest) :
    Numeral.readExponent purpose (bytes ++ rest) = .ok (exponent, rest) := by
  cases written with
  | absent =>
      cases rest with
      | nil => rfl
      | cons byte tail =>
          have plain := ends byte rfl
          simp only [continuesNumber, Bool.or_eq_false_iff, beq_eq_false_iff_ne] at plain
          simp only [List.nil_append, Numeral.readExponent, plain.1.2, plain.2, decide_false,
            Bool.or_false, Bool.false_eq_true, if_false]
  | @present mark _ _ _ _ marked signed written some =>
      have isMark : (decide (mark = ascii 'e') || decide (mark = ascii 'E')) = true := by
        simpa only [Bool.or_eq_true, decide_eq_true_eq] using marked
      simp only [List.cons_append, Numeral.readExponent, if_pos isMark, List.append_assoc,
        readSign_append signed (written.starts some rest),
        readDigits_append purpose written some ends.stops_digits]

theorem readExponent_sound {purpose : Purpose} {input rest : Bytes}
    {exponent : Option (Bool × List Nat)}
    (found : Numeral.readExponent purpose input = .ok (exponent, rest)) :
    Exists fun bytes => input = bytes ++ rest ∧ Exponent bytes exponent := by
  cases input with
  | nil =>
      cases found
      exact ⟨[], rfl, .absent⟩
  | cons byte tail =>
      simp only [Numeral.readExponent] at found
      split at found
      · next marked =>
          simp only [Bool.or_eq_true, decide_eq_true_eq] at marked
          rcases readSign_sound tail with ⟨sign, signSplit, signed⟩
          split at found
          · cases found
          · next values after read =>
              cases found
              rcases readDigits_sound read with ⟨bytes, split, written, some⟩
              refine ⟨byte :: (sign ++ bytes), ?_, .present marked signed written some⟩
              rw [List.cons_append, List.append_assoc, ← split, ← signSplit]
      · cases found
        exact ⟨[], rfl, .absent⟩

/-! ## Whole literals -/

/-- An exponent, present or not, is no digit and no point. -/
theorem exponent_stops {bytes rest : Bytes} {exponent : Option (Bool × List Nat)}
    (written : Exponent bytes exponent) (ends : Delimited rest) :
    Stops Bytes.isDigit (bytes ++ rest) ∧ Stops (· == ascii '.') (bytes ++ rest) := by
  cases written with
  | absent =>
      refine ⟨ends.stops_digits, ?_⟩
      intro byte first
      have plain := ends byte first
      simp only [continuesNumber, Bool.or_eq_false_iff] at plain
      exact plain.1.1.2
  | present marked _ _ _ =>
      constructor <;>
      · intro byte first
        simp only [List.cons_append, List.head?_cons, Option.mem_some_iff] at first
        subst first
        rcases marked with lower | upper
        · rw [lower]
          rfl
        · rw [upper]
          rfl

/-- A fraction, present or not, is no digit. -/
theorem fraction_stops {bytes rest : Bytes} {fraction : Option (List Nat)}
    (written : Fraction bytes fraction) (stops : Stops Bytes.isDigit rest) :
    Stops Bytes.isDigit (bytes ++ rest) := by
  cases written with
  | absent => exact stops
  | present _ _ =>
      intro byte first
      simp only [List.cons_append, List.head?_cons, Option.mem_some_iff] at first
      rw [← first]
      rfl

theorem read_append {negative : Bool} {bytes rest : Bytes} {numeral : Numeral}
    (purpose : Purpose) (written : Unsigned negative bytes numeral) (ends : Delimited rest) :
    Numeral.read purpose negative (bytes ++ rest) = .ok (numeral, rest) := by
  cases written with
  | parts whole fraction exponent =>
      have afterFraction := exponent_stops exponent ends
      have afterWhole := fraction_stops fraction afterFraction.1
      rw [List.append_assoc, List.append_assoc, Numeral.read,
        readWhole_append purpose whole afterWhole]
      simp only [readFraction_append purpose fraction afterFraction.1 (fun _ => afterFraction.2),
        readExponent_append purpose exponent ends]

theorem read_sound {purpose : Purpose} {negative : Bool} {input rest : Bytes}
    {numeral : Numeral} (found : Numeral.read purpose negative input = .ok (numeral, rest)) :
    Exists fun bytes => input = bytes ++ rest ∧ Unsigned negative bytes numeral := by
  rw [Numeral.read] at found
  split at found
  · cases found
  · next whole afterWhole readWhole =>
      split at found
      · cases found
      · next fraction afterFraction readFraction =>
          split at found
          · cases found
          · next exponent after readExponent =>
              cases found
              rcases readWhole_sound readWhole with ⟨first, firstSplit, firstWritten⟩
              rcases readFraction_sound readFraction with ⟨second, secondSplit, secondWritten⟩
              rcases readExponent_sound readExponent with ⟨third, thirdSplit, thirdWritten⟩
              refine ⟨first ++ (second ++ third), ?_,
                .parts firstWritten secondWritten thirdWritten⟩
              rw [firstSplit, secondSplit, thirdSplit, List.append_assoc, List.append_assoc]

/-! ## The number of a literal -/

theorem le_foldl_digits (digits : List Nat) (value : Nat) :
    value <= digits.foldl (fun value digit => value * 10 + digit) value := by
  induction digits generalizing value with
  | nil => exact Nat.le_refl _
  | cons digit digits inductionHypothesis =>
      have step := inductionHypothesis (value * 10 + digit)
      rw [List.foldl_cons]
      omega

/-- The digits of an exponent are read to their end exactly when its value
stays within 31 bits. -/
theorem afterOverflow_eq_none_iff (digits : List Nat) (exponent : Nat)
    (fits : exponent < Numeral.exponentLimit) :
    Numeral.afterOverflow exponent digits = none ↔
      digits.foldl (fun value digit => value * 10 + digit) exponent < Numeral.exponentLimit := by
  induction digits generalizing exponent with
  | nil => exact ⟨fun _ => fits, fun _ => rfl⟩
  | cons digit digits inductionHypothesis =>
      rw [Numeral.afterOverflow, List.foldl_cons]
      by_cases longer : exponent * 10 + digit < Numeral.exponentLimit
      · rw [if_pos longer]
        exact inductionHypothesis _ longer
      · have beyond := le_foldl_digits digits (exponent * 10 + digit)
        rw [if_neg longer]
        constructor
        · intro impossible
          cases impossible
        · intro small
          omega

theorem statedPower_natAbs {numeral : Numeral} {downwards : Bool} {digits : List Nat}
    (stated : numeral.exponent = some (downwards, digits)) :
    numeral.statedPower.natAbs = Numeral.digitsValue digits := by
  cases downwards <;> simp only [Numeral.statedPower, stated, Int.natAbs_neg, Int.natAbs_natCast]

/-- An exponent too large for 31 bits is negative exactly when it says so. -/
theorem statedPower_neg_iff {numeral : Numeral} {downwards : Bool} {digits : List Nat}
    (stated : numeral.exponent = some (downwards, digits))
    (large : Numeral.exponentLimit <= Numeral.digitsValue digits) :
    numeral.statedPower < 0 ↔ downwards = true := by
  have positive : 0 < Numeral.digitsValue digits :=
    Nat.lt_of_lt_of_le (by decide) large
  cases downwards with
  | false =>
      simp only [Numeral.statedPower, stated, Bool.false_eq_true, iff_false]
      omega
  | true =>
      simp only [Numeral.statedPower, stated, iff_true]
      omega

theorem elim_eq_ok_iff {Result : Type} (found : Option Result) (fault : Fault) (result : Result) :
    found.elim (.error fault) Except.ok = .ok result ↔ found = some result := by
  cases found with
  | none => exact ⟨nofun, nofun⟩
  | some value => simp only [Option.elim_some, Except.ok.injEq, Option.some.injEq]

theorem scaled_eq_ok_iff (numeral : Numeral) (power : Int) (rest : Bytes) (number : Number) :
    numeral.scaled power rest = .ok number ↔
      Numeral.real? numeral.negative numeral.significand.1 power = some number :=
  elim_eq_ok_iff _ _ _

theorem scaled_error_cause {numeral : Numeral} {power : Int} {rest : Bytes} {fault : Fault}
    (refused : numeral.scaled power rest = .error fault) : fault.cause = .numberOutOfRange := by
  rw [Numeral.scaled] at refused
  generalize Numeral.real? numeral.negative numeral.significand.1 power = found at refused
  cases found with
  | none =>
      cases refused
      rfl
  | some number => cases refused

/-- A real number with a usual exponent is scaled by it. -/
theorem value_of_usual_exponent {numeral : Numeral} (rest : Bytes)
    (real : numeral.integer? = none)
    (usual : numeral.statedPower.natAbs < Numeral.exponentLimit) :
    numeral.value rest =
      numeral.scaled (numeral.significand.2 + numeral.statedPower) rest := by
  cases stated : numeral.exponent with
  | none => simp only [Numeral.value, real, stated, Numeral.statedPower, Int.add_zero]
  | some exponent =>
      rcases exponent with ⟨downwards, digits⟩
      rw [statedPower_natAbs stated] at usual
      have read := (afterOverflow_eq_none_iff digits 0 (by decide)).mpr usual
      cases downwards <;>
        simp only [Numeral.value, real, stated, read, Numeral.statedPower, if_true,
          Bool.false_eq_true, if_false, Int.sub_eq_add_neg]

/-- With an exponent beyond 31 bits a real number vanishes or is refused. -/
theorem value_of_large_exponent {numeral : Numeral} (rest : Bytes)
    (real : numeral.integer? = none)
    (large : Numeral.exponentLimit <= numeral.statedPower.natAbs) :
    ((numeral.statedPower < 0 ∨ numeral.significand.1 = 0) ∧
      numeral.value rest = .ok (.real numeral.negative .zero)) ∨
    (¬ (numeral.statedPower < 0 ∨ numeral.significand.1 = 0) ∧
      Exists fun unread => numeral.value rest = .error ⟨.numberOutOfRange, unread⟩) := by
  cases stated : numeral.exponent with
  | none =>
      simp only [Numeral.statedPower, stated] at large
      exact absurd large (by decide)
  | some exponent =>
      rcases exponent with ⟨downwards, digits⟩
      rw [statedPower_natAbs stated] at large
      rw [statedPower_neg_iff stated large]
      cases read : Numeral.afterOverflow 0 digits with
      | none =>
          have usual := (afterOverflow_eq_none_iff digits 0 (by decide)).mp read
          exact absurd usual (Nat.not_lt.mpr large)
      | some unread =>
          by_cases vanishes : downwards = true ∨ numeral.significand.1 = 0
          · refine Or.inl ⟨vanishes, ?_⟩
            simp only [Numeral.value, real, stated, read, Bool.or_eq_true, decide_eq_true_eq,
              vanishes, if_true]
          · refine Or.inr ⟨vanishes,
              unread.map (fun digit => UInt8.ofNat (digit + 0x30)) ++ rest, ?_⟩
            simp only [Numeral.value, real, stated, read, Bool.or_eq_true, decide_eq_true_eq,
              vanishes, if_false]

/-- The value of a literal is the number it denotes. -/
theorem value_eq_ok_iff (numeral : Numeral) (rest : Bytes) (number : Number) :
    numeral.value rest = .ok number ↔ numeral.Denotes number := by
  cases whole : numeral.integer? with
  | some value =>
      simp only [Numeral.value, whole, Except.ok.injEq]
      constructor
      · intro equal
        exact equal ▸ .integer whole
      · intro denoted
        cases denoted with
        | integer found => rw [← Option.some.inj (whole.symm.trans found)]
        | real none _ _ => rw [whole] at none; cases none
        | vanishing none _ _ => rw [whole] at none; cases none
  | none =>
      by_cases usual : numeral.statedPower.natAbs < Numeral.exponentLimit
      · rw [value_of_usual_exponent rest whole usual, scaled_eq_ok_iff]
        constructor
        · intro scaling
          exact .real whole usual scaling
        · intro denoted
          cases denoted with
          | integer found => rw [whole] at found; cases found
          | real _ _ scaling => exact scaling
          | vanishing _ large _ => exact absurd usual (Nat.not_lt.mpr large)
      · have large := Nat.not_lt.mp usual
        rcases value_of_large_exponent rest whole large with
          ⟨vanishes, read⟩ | ⟨grows, unread, read⟩
        · rw [read, Except.ok.injEq]
          constructor
          · intro equal
            exact equal ▸ .vanishing whole large vanishes
          · intro denoted
            cases denoted with
            | integer found => rw [whole] at found; cases found
            | real _ small _ => exact absurd small usual
            | vanishing _ _ _ => rfl
        · rw [read]
          constructor
          · intro impossible
            cases impossible
          · intro denoted
            cases denoted with
            | integer found => rw [whole] at found; cases found
            | real _ small _ => exact absurd small usual
            | vanishing _ _ vanishes => exact absurd vanishes grows

/-- A literal is refused for its size alone. -/
theorem value_error_cause {numeral : Numeral} {rest : Bytes} {fault : Fault}
    (refused : numeral.value rest = .error fault) : fault.cause = .numberOutOfRange := by
  cases whole : numeral.integer? with
  | some value =>
      simp only [Numeral.value, whole, reduceCtorEq] at refused
  | none =>
      by_cases usual : numeral.statedPower.natAbs < Numeral.exponentLimit
      · rw [value_of_usual_exponent rest whole usual] at refused
        exact scaled_error_cause refused
      · rcases value_of_large_exponent rest whole (Nat.not_lt.mp usual) with
          ⟨_, read⟩ | ⟨_, unread, read⟩
        · rw [read] at refused
          cases refused
        · rw [read] at refused
          cases refused
          rfl

/-! ## Literals that denote no number -/

theorem absorb_lt {significand : Nat} (small : significand < Numeral.significandLimit)
    (digits : List Nat) : (Numeral.absorb significand digits).1 < Numeral.significandLimit := by
  induction digits generalizing significand with
  | nil => exact small
  | cons digit digits inductionHypothesis =>
      rw [Numeral.absorb]
      dsimp only
      split
      · next longer => exact inductionHypothesis longer
      · exact small

theorem significand_lt (numeral : Numeral) :
    numeral.significand.1 < Numeral.significandLimit := by
  rw [Numeral.significand]
  exact absorb_lt (absorb_lt (by decide) _) _

/-- A literal that is no integer is too large: its significand times the power of
ten goes beyond double precision, or its exponent goes beyond 31 bits and is
not negative while the significand is not zero. -/
inductive TooLarge (numeral : Numeral) : Prop
  | magnitude {value : Decimal.Binary64} :
      numeral.integer? = none -> numeral.statedPower.natAbs < Numeral.exponentLimit ->
      Decimal.Binary64.ofNat? numeral.significand.1 = some value ->
      value.Oversized (numeral.significand.2 + numeral.statedPower) -> TooLarge numeral
  | exponent :
      numeral.integer? = none -> Numeral.exponentLimit <= numeral.statedPower.natAbs ->
      ¬ (numeral.statedPower < 0 ∨ numeral.significand.1 = 0) -> TooLarge numeral

/-- With a usual exponent it is the scaling that refuses a literal. -/
theorem scaled_refused_iff {numeral : Numeral} {value : Decimal.Binary64}
    (found : Decimal.Binary64.ofNat? numeral.significand.1 = some value)
    (bounded : value.units < Decimal.Binary64.overflowUnits) (power : Int) (rest : Bytes) :
    (Exists fun fault => numeral.scaled power rest = .error fault) ↔ value.Oversized power := by
  rw [← Decimal.Binary64.scale?_eq_none_iff bounded, Numeral.scaled, Numeral.real?, found,
    Option.bind_some]
  cases value.scale? power with
  | none => exact iff_of_true ⟨_, rfl⟩ rfl
  | some magnitude =>
      refine iff_of_false ?_ (Option.some_ne_none magnitude)
      rintro ⟨fault, impossible⟩
      cases impossible

/-- A literal is refused exactly if it is too large. -/
theorem value_refused_iff (numeral : Numeral) (rest : Bytes) :
    (Exists fun fault => numeral.value rest = .error fault) ↔ TooLarge numeral := by
  cases whole : numeral.integer? with
  | some value =>
      have read : numeral.value rest = .ok (.integer value) := by
        simp only [Numeral.value, whole]
      rw [read]
      constructor
      · rintro ⟨fault, impossible⟩
        cases impossible
      · rintro (⟨none, _⟩ | ⟨none, _⟩)
        · cases whole.symm.trans none
        · cases whole.symm.trans none
  | none =>
      by_cases usual : numeral.statedPower.natAbs < Numeral.exponentLimit
      · rcases Decimal.Binary64.ofNat?_of_lt (significand_lt numeral) with ⟨value, found, bounded⟩
        rw [value_of_usual_exponent rest whole usual, scaled_refused_iff found bounded]
        constructor
        · exact .magnitude whole usual found
        · rintro (⟨_, _, same, oversized⟩ | ⟨_, large, _⟩)
          · cases found.symm.trans same
            exact oversized
          · exact absurd usual (Nat.not_lt.mpr large)
      · have large := Nat.not_lt.mp usual
        rcases value_of_large_exponent rest whole large with
          ⟨vanishes, read⟩ | ⟨grows, unread, read⟩
        · rw [read]
          constructor
          · rintro ⟨fault, impossible⟩
            cases impossible
          · rintro (⟨_, small, _, _⟩ | ⟨_, _, grows⟩)
            · exact absurd small usual
            · exact absurd vanishes grows
        · exact iff_of_true ⟨_, read⟩ (.exponent whole large grows)

/-- A literal denotes no number exactly if it is too large. -/
theorem exists_denotes_iff (numeral : Numeral) :
    (Exists fun number => numeral.Denotes number) ↔ ¬ TooLarge numeral := by
  rw [← value_refused_iff numeral []]
  cases read : numeral.value [] with
  | error fault =>
      refine iff_of_false ?_ (not_not_intro ⟨fault, rfl⟩)
      rintro ⟨number, denoted⟩
      cases read.symm.trans ((value_eq_ok_iff numeral [] number).mpr denoted)
  | ok number =>
      refine iff_of_true ⟨number, (value_eq_ok_iff numeral [] number).mp read⟩ ?_
      rintro ⟨fault, impossible⟩
      cases impossible

/-! ## Numbers -/

theorem readNumber_append {purpose : Purpose} {negative : Bool} {bytes rest : Bytes}
    {numeral : Numeral} {number : Number} (written : Unsigned negative bytes numeral)
    (taken : Taken purpose numeral number) (ends : Delimited rest) :
    readNumber purpose negative (bytes ++ rest) = .ok (number, rest) := by
  rw [readNumber, read_append purpose written ends]
  cases taken with
  | kept denoted => simp only [(value_eq_ok_iff _ rest _).mpr denoted]
  | skipped => rfl

theorem readNumber_sound {purpose : Purpose} {negative : Bool} {input rest : Bytes}
    {number : Number} (found : readNumber purpose negative input = .ok (number, rest)) :
    Exists fun bytes => Exists fun numeral =>
      input = bytes ++ rest ∧ Unsigned negative bytes numeral ∧ Taken purpose numeral number := by
  rw [readNumber] at found
  split at found
  · cases found
  · next numeral after read =>
      rcases read_sound read with ⟨bytes, split, written⟩
      cases purpose with
      | skip =>
          cases found
          exact ⟨bytes, numeral, split, written, .skipped⟩
      | keep =>
          cases valued : numeral.value after with
          | error fault =>
              simp only [valued, reduceCtorEq] at found
          | ok value =>
              simp only [valued, Except.ok.injEq, Prod.mk.injEq] at found
              rw [← found.1, ← found.2]
              exact ⟨bytes, numeral, split, written,
                .kept ((value_eq_ok_iff numeral after value).mp valued)⟩

/-- A literal that is written correctly is kept, or refused for its size. -/
theorem readNumber_keep_or_refuse {negative : Bool} {bytes rest : Bytes} {numeral : Numeral}
    (written : Unsigned negative bytes numeral) (ends : Delimited rest) :
    (Exists fun number => readNumber .keep negative (bytes ++ rest) = .ok (number, rest)) ∨
    Exists fun fault => readNumber .keep negative (bytes ++ rest) = .error fault ∧
      fault.cause = .numberOutOfRange := by
  rw [readNumber, read_append .keep written ends]
  cases valued : numeral.value rest with
  | error fault =>
      simp only [valued]
      exact Or.inr ⟨fault, rfl, value_error_cause valued⟩
  | ok number =>
      simp only [valued]
      exact Or.inl ⟨number, rfl⟩

end Json
end Salutation
