import Salutation.Json.Fault

namespace Salutation
namespace Json

/-!
# Number literals

A literal is first read as written and only then given a value, so that a
skipped number never meets the limits of a kept one.  The value of a literal
is computed in two steps of limited size: a significand of at most 64 bits,
which drops the digits that no longer fit, and a power of ten by which the
significand is scaled in double precision.
-/

/-- Why a text is read: for its value, or only to find its end. -/
inductive Purpose where
  | keep
  | skip
  deriving DecidableEq, Repr

/-- A literal as written: the digits of the whole part, of the fraction, and
of the exponent with its sign. -/
structure Numeral where
  negative : Bool
  whole : List Nat
  fraction : Option (List Nat)
  exponent : Option (Bool × List Nat)
  deriving DecidableEq, Repr

namespace Numeral

/-- The leading digits and what follows them. -/
def digits (input : Bytes) : List Nat × Bytes :=
  ((input.takeWhile Bytes.isDigit).map (fun byte => byte.toNat - 0x30),
    input.dropWhile Bytes.isDigit)

/-- Where a digit is missing, the end of the input is a fault of its own for
a kept number and an ordinary bad number for a skipped one. -/
def missingDigit (purpose : Purpose) : Bytes -> Fault
  | [] =>
      match purpose with
      | .keep => ⟨.endInValue, []⟩
      | .skip => ⟨.badNumber, []⟩
  | _ :: rest => ⟨.badNumber, rest⟩

/-- The digits before the point: a single zero, or digits that do not start
with one. -/
def readWhole (purpose : Purpose) (input : Bytes) : Outcome (List Nat) :=
  match input with
  | [] => .error (missingDigit purpose [])
  | byte :: rest =>
      if byte = ascii '0' then
        match rest with
        | next :: after =>
            if Bytes.isDigit next then .error ⟨.badNumber, after⟩ else .ok ([0], rest)
        | [] => .ok ([0], [])
      else if Bytes.isDigit byte then .ok (digits input)
      else .error (missingDigit purpose input)

/-- At least one digit. -/
def readDigits (purpose : Purpose) (input : Bytes) : Outcome (List Nat) :=
  match digits input with
  | ([], _) => .error (missingDigit purpose input)
  | found => .ok found

/-- A point and the digits after it, if there is a point. -/
def readFraction (purpose : Purpose) (input : Bytes) : Outcome (Option (List Nat)) :=
  match input with
  | byte :: rest =>
      if byte = ascii '.' then
        match readDigits purpose rest with
        | .error fault => .error fault
        | .ok (found, after) => .ok (some found, after)
      else .ok (none, input)
  | [] => .ok (none, [])

/-- The sign of an exponent, positive when there is none. -/
def readSign : Bytes -> Bool × Bytes
  | byte :: rest =>
      if byte = ascii '-' then (true, rest)
      else if byte = ascii '+' then (false, rest)
      else (false, byte :: rest)
  | [] => (false, [])

/-- An exponent, if there is one. -/
def readExponent (purpose : Purpose) (input : Bytes) : Outcome (Option (Bool × List Nat)) :=
  match input with
  | byte :: rest =>
      if byte = ascii 'e' || byte = ascii 'E' then
        let sign := readSign rest
        match readDigits purpose sign.2 with
        | .error fault => .error fault
        | .ok (found, after) => .ok (some (sign.1, found), after)
      else .ok (none, input)
  | [] => .ok (none, [])

/-- A literal whose minus sign, if any, has been consumed. -/
def read (purpose : Purpose) (negative : Bool) (input : Bytes) : Outcome Numeral :=
  match readWhole purpose input with
  | .error fault => .error fault
  | .ok (whole, afterWhole) =>
      match readFraction purpose afterWhole with
      | .error fault => .error fault
      | .ok (fraction, afterFraction) =>
          match readExponent purpose afterFraction with
          | .error fault => .error fault
          | .ok (exponent, rest) => .ok (⟨negative, whole, fraction, exponent⟩, rest)

/-- The value of digits read from the left. -/
def digitsValue (digits : List Nat) : Nat :=
  digits.foldl (fun value digit => value * 10 + digit) 0

/-- The first number that a significand cannot hold. -/
def significandLimit : Nat := Nat.pow 2 64

/-- The first number that an exponent cannot hold. -/
def exponentLimit : Nat := Nat.pow 2 31

/-- Append digits to a significand as long as they fit.  The second result is
the number of digits that did. -/
def absorb (significand : Nat) : List Nat -> Nat × Nat
  | [] => (significand, 0)
  | digit :: rest =>
      let longer := significand * 10 + digit
      if longer < significandLimit then
        let following := absorb longer rest
        (following.1, following.2 + 1)
      else (significand, 0)

/-- The significand of a literal and the power of ten that its digits alone
give it. -/
def significand (numeral : Numeral) : Nat × Int :=
  let whole := absorb 0 numeral.whole
  let fraction := absorb whole.1 (numeral.fraction.getD [])
  (fraction.1, (numeral.whole.length : Int) - whole.2 - fraction.2)

/-- The digits after the first one that makes an exponent too large, if one
does.  The exponent so far is the first argument. -/
def afterOverflow (exponent : Nat) : List Nat -> Option (List Nat)
  | [] => none
  | digit :: rest =>
      let longer := exponent * 10 + digit
      if longer < exponentLimit then afterOverflow longer rest else some rest

/-- An integer literal, unless it is a negative zero or too large. -/
def integer? (numeral : Numeral) : Option Int :=
  match numeral.fraction, numeral.exponent with
  | none, none =>
      let value := digitsValue numeral.whole
      if numeral.negative then
        if 0 < value && value <= Nat.pow 2 63 then some (-(value : Int)) else none
      else if value < significandLimit then some (value : Int)
      else none
  | _, _ => none

/-- The real number of a significand and a power of ten. -/
def real? (negative : Bool) (significand : Nat) (power : Int) : Option Number :=
  ((Decimal.Binary64.ofNat? significand).bind (·.scale? power)).map (.real negative)

/-- The real number that a literal gives with a power of ten for all of its
digits.  A number beyond the largest magnitude is refused after its last
byte. -/
def scaled (numeral : Numeral) (power : Int) (rest : Bytes) : Except Fault Number :=
  (real? numeral.negative numeral.significand.1 power).elim (.error ⟨.numberOutOfRange, rest⟩) .ok

/-- The value of a literal.  A number is refused already at the first digit
of its exponent that makes the exponent too large; with a negative exponent,
or with a significand of zero, an exponent of any size just gives zero. -/
def value (numeral : Numeral) (rest : Bytes) : Except Fault Number :=
  match numeral.integer? with
  | some value => .ok (.integer value)
  | none =>
      let digitsPower := numeral.significand.2
      match numeral.exponent with
      | none => numeral.scaled digitsPower rest
      | some (downwards, digits) =>
          match afterOverflow 0 digits with
          | none =>
              let size : Int := digitsValue digits
              numeral.scaled (if downwards then digitsPower - size else digitsPower + size) rest
          | some unread =>
              if downwards || numeral.significand.1 = 0 then .ok (.real numeral.negative .zero)
              else
                .error ⟨.numberOutOfRange,
                  unread.map (fun digit => UInt8.ofNat (digit + 0x30)) ++ rest⟩

end Numeral

/-- A number whose minus sign, if any, has been consumed.  A skipped number
has no value, and zero stands in for it. -/
def readNumber (purpose : Purpose) (negative : Bool) (input : Bytes) : Outcome Number :=
  match Numeral.read purpose negative input with
  | .error fault => .error fault
  | .ok (numeral, rest) =>
      match purpose with
      | .skip => .ok (.integer 0, rest)
      | .keep =>
          match numeral.value rest with
          | .error fault => .error fault
          | .ok number => .ok (number, rest)

end Json
end Salutation
