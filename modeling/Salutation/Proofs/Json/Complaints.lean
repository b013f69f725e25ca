import Salutation.Json.Record
import Salutation.Proofs.Json.Numerals
import Salutation.Proofs.Text.Printable

namespace Salutation
namespace Json

/-!
# What readers complain about

Most causes of a fault are the same text always.  The others mention a value
that was found, which is quoted, or a name that the reader was made with: the
wanted kind, or a field that is repeated.  A reader of a record therefore
complains in printable characters only, whatever it was given to read.
-/

namespace Cause

/-- A cause whose text is always the same. -/
def isPlain : Cause -> Bool
  | .repeatedField _ => false
  | .wrongKind _ _ => false
  | .wrongInteger _ _ => false
  | _ => true

/-- The names that a cause mentions are printable. -/
def Legible : Cause -> Prop
  | .repeatedField name => Text.IsPrintable name
  | .wrongKind _ wanted => Text.IsPrintable wanted
  | .wrongInteger _ wanted => Text.IsPrintable wanted
  | _ => True

theorem legible_of_isPlain {cause : Cause} (plain : cause.isPlain = true) : cause.Legible := by
  cases cause with
  | repeatedField name => cases plain
  | wrongKind found wanted => cases plain
  | wrongInteger value wanted => cases plain
  | _ => trivial

end Cause

theorem isPrintable_number (number : Number) : Text.IsPrintable number.describe := by
  have closing : Text.IsPrintable "`" := by decide
  cases number with
  | integer value =>
      have opening : Text.IsPrintable "integer `" := by decide
      exact (opening.append (Text.isPrintable_integer value)).append closing
  | real negative magnitude =>
      have opening : Text.IsPrintable "floating point `" := by decide
      have sign : Text.IsPrintable (if negative then "-" else "") := by
        cases negative <;> decide
      exact ((opening.append sign).append (Text.isPrintable_magnitude magnitude)).append closing

/-- A value is described on one line, because a text in it is quoted. -/
theorem isPrintable_found (found : Found) : Text.IsPrintable found.describe := by
  cases found with
  | list => decide
  | object => decide
  | scalar value =>
      cases value with
      | null => decide
      | boolean value => cases value <;> decide
      | number value => exact isPrintable_number value
      | text value =>
          have opening : Text.IsPrintable "string " := by decide
          exact opening.append (Text.isPrintable_quoted value)

theorem Cause.Legible.isPrintable {cause : Cause} (legible : cause.Legible) :
    Text.IsPrintable cause.message := by
  have expected : Text.IsPrintable ", expected " := by decide
  cases cause with
  | repeatedField name =>
      have opening : Text.IsPrintable "duplicate field `" := by decide
      have closing : Text.IsPrintable "`" := by decide
      exact (opening.append legible).append closing
  | wrongKind found wanted =>
      have opening : Text.IsPrintable "invalid type: " := by decide
      exact ((opening.append (isPrintable_found found)).append expected).append legible
  | wrongInteger value wanted =>
      have opening : Text.IsPrintable "invalid value: " := by decide
      exact ((opening.append (isPrintable_number (.integer value))).append expected).append legible
  | _ => decide

/-- A complaint adds a line and a column to its cause. -/
theorem isPrintable_complaint {complaint : Complaint} (legible : complaint.cause.Legible) :
    Text.IsPrintable complaint.message := by
  have line : Text.IsPrintable " at line " := by decide
  have column : Text.IsPrintable " column " := by decide
  exact (((legible.isPrintable.append line).append (Text.isPrintable_natural _)).append
    column).append (Text.isPrintable_natural _)

/-! ## What an outcome blames -/

/-- Every fault of an outcome has a cause of some sort. -/
def Blames (sort : Cause -> Prop) {Result : Type} (outcome : Except Fault Result) : Prop :=
  forall fault, outcome = .error fault -> sort fault.cause

/-- Every fault of an outcome has a cause whose text is always the same. -/
abbrev BlamesPlainly {Result : Type} (outcome : Except Fault Result) : Prop :=
  Blames (fun cause => cause.isPlain = true) outcome

theorem blames_ok {sort : Cause -> Prop} {Result : Type} (result : Result) :
    Blames sort (.ok result) := by
  intro fault impossible
  cases impossible

theorem blames_error {sort : Cause -> Prop} {Result : Type} {fault : Fault}
    (blamed : sort fault.cause) : Blames sort (.error fault : Except Fault Result) := by
  intro other same
  cases same
  exact blamed

theorem BlamesPlainly.legible {Result : Type} {outcome : Except Fault Result}
    (plainly : BlamesPlainly outcome) : Blames Cause.Legible outcome :=
  fun fault refused => Cause.legible_of_isPlain (plainly fault refused)

/-! ## Texts -/

theorem readPairMark_blames (mark : UInt8) (input : Bytes) :
    BlamesPlainly (readPairMark mark input) := by
  unfold readPairMark
  split
  · exact blames_error rfl
  · split
    · exact blames_ok _
    · exact blames_error rfl

theorem readCodeUnit_blames (input : Bytes) : BlamesPlainly (readCodeUnit input) := by
  unfold readCodeUnit
  split
  · split
    · exact blames_ok _
    · exact blames_error rfl
  · exact blames_error rfl

theorem readLowSurrogate_blames (high : Nat) (input : Bytes) :
    BlamesPlainly (readLowSurrogate high input) := by
  unfold readLowSurrogate
  split
  · next refused => exact blames_error (readPairMark_blames _ _ _ refused)
  · split
    · next refused => exact blames_error (readPairMark_blames _ _ _ refused)
    · split
      · next refused => exact blames_error (readCodeUnit_blames _ _ refused)
      · split
        · exact blames_ok _
        · exact blames_error rfl

theorem readEscape_blames (purpose : Purpose) (input : Bytes) :
    BlamesPlainly (readEscape purpose input) := by
  unfold readEscape
  split
  · exact blames_error rfl
  · split
    · exact blames_ok _
    · split
      · split
        · next refused => exact blames_error (readCodeUnit_blames _ _ refused)
        · split
          · exact blames_ok _
          · split
            · exact blames_error rfl
            · split
              · exact readLowSurrogate_blames _ _
              · exact blames_ok _
      · exact blames_error rfl

theorem readContent_blames (purpose : Purpose) (steps content input : Bytes) :
    BlamesPlainly (readContent purpose steps content input) := by
  induction steps generalizing content input with
  | nil => exact blames_error rfl
  | cons step steps inductionHypothesis =>
      cases input with
      | nil => exact blames_error rfl
      | cons byte rest =>
          rw [readContent]
          split
          · exact blames_ok _
          · split
            · split
              · next refused => exact blames_error (readEscape_blames _ _ _ refused)
              · exact inductionHypothesis _ _
            · split
              · cases purpose <;> exact blames_error rfl
              · exact inductionHypothesis _ _

theorem readText_blames (purpose : Purpose) (input : Bytes) :
    BlamesPlainly (readText purpose input) := by
  unfold readText
  split
  · next refused => exact blames_error (readContent_blames _ _ _ _ _ refused)
  · split
    · exact blames_ok _
    · split
      · exact blames_ok _
      · exact blames_error rfl

/-! ## Numbers -/

theorem missingDigit_isPlain (purpose : Purpose) (input : Bytes) :
    (Numeral.missingDigit purpose input).cause.isPlain = true := by
  cases input with
  | nil => cases purpose <;> rfl
  | cons byte rest => rfl

theorem readWhole_blames (purpose : Purpose) (input : Bytes) :
    BlamesPlainly (Numeral.readWhole purpose input) := by
  unfold Numeral.readWhole
  split
  · exact blames_error (missingDigit_isPlain _ _)
  · split
    · split
      · split
        · exact blames_error rfl
        · exact blames_ok _
      · exact blames_ok _
    · split
      · exact blames_ok _
      · exact blames_error (missingDigit_isPlain _ _)

theorem readDigits_blames (purpose : Purpose) (input : Bytes) :
    BlamesPlainly (Numeral.readDigits purpose input) := by
  unfold Numeral.readDigits
  split
  · exact blames_error (missingDigit_isPlain _ _)
  · exact blames_ok _

theorem readFraction_blames (purpose : Purpose) (input : Bytes) :
    BlamesPlainly (Numeral.readFraction purpose input) := by
  unfold Numeral.readFraction
  split
  · split
    · split
      · next refused => exact blames_error (readDigits_blames _ _ _ refused)
      · exact blames_ok _
    · exact blames_ok _
  · exact blames_ok _

theorem readExponent_blames (purpose : Purpose) (input : Bytes) :
    BlamesPlainly (Numeral.readExponent purpose input) := by
  unfold Numeral.readExponent
  split
  · split
    · simp only
      split
      · next refused => exact blames_error (readDigits_blames _ _ _ refused)
      · exact blames_ok _
    · exact blames_ok _
  · exact blames_ok _

theorem read_blames (purpose : Purpose) (negative : Bool) (input : Bytes) :
    BlamesPlainly (Numeral.read purpose negative input) := by
  unfold Numeral.read
  split
  · next refused => exact blames_error (readWhole_blames _ _ _ refused)
  · split
    · next refused => exact blames_error (readFraction_blames _ _ _ refused)
    · split
      · next refused => exact blames_error (readExponent_blames _ _ _ refused)
      · exact blames_ok _

theorem readNumber_blames (purpose : Purpose) (negative : Bool) (input : Bytes) :
    BlamesPlainly (readNumber purpose negative input) := by
  unfold readNumber
  split
  · next refused => exact blames_error (read_blames _ _ _ _ refused)
  · split
    · exact blames_ok _
    · split
      · next refused =>
          apply blames_error
          rw [value_error_cause refused]
          rfl
      · exact blames_ok _

/-! ## Values -/

theorem readKeyword_blames (letters input : Bytes) :
    BlamesPlainly (readKeyword letters input) := by
  induction letters generalizing input with
  | nil => exact blames_ok _
  | cons letter letters inductionHypothesis =>
      cases input with
      | nil => exact blames_error rfl
      | cons byte rest =>
          rw [readKeyword]
          split
          · exact inductionHypothesis _
          · exact blames_error rfl

theorem readScalar_blames (purpose : Purpose) (first : UInt8) (rest : Bytes) :
    BlamesPlainly (readScalar purpose first rest) := by
  unfold readScalar
  simp only
  split
  · split
    · next refused => exact blames_error (readKeyword_blames _ _ _ refused)
    · exact blames_ok _
  split
  · split
    · next refused => exact blames_error (readKeyword_blames _ _ _ refused)
    · exact blames_ok _
  split
  · split
    · next refused => exact blames_error (readKeyword_blames _ _ _ refused)
    · exact blames_ok _
  split
  · split
    · next refused => exact blames_error (readNumber_blames _ _ _ _ refused)
    · exact blames_ok _
  split
  · split
    · next refused => exact blames_error (readNumber_blames _ _ _ _ refused)
    · exact blames_ok _
  split
  · split
    · next refused => exact blames_error (readText_blames _ _ _ refused)
    · exact blames_ok _
  · exact blames_error rfl

theorem nextItem_blames (purpose : Purpose) (first : Bool) (input : Bytes) :
    BlamesPlainly (nextItem purpose first input) := by
  unfold nextItem
  split
  · exact blames_error rfl
  · split
    · exact blames_ok _
    split
    · exact blames_ok _
    split
    · split
      · exact blames_error rfl
      · split
        · split <;> exact blames_error rfl
        · exact blames_ok _
    · exact blames_error rfl

theorem nextKey_blames (purpose : Purpose) (first : Bool) (input : Bytes) :
    BlamesPlainly (nextKey purpose first input) := by
  unfold nextKey
  split
  · exact blames_error rfl
  · split
    · exact blames_ok _
    split
    · split
      · exact blames_ok _
      · exact blames_error rfl
    split
    · split
      · split <;> exact blames_error rfl
      · split
        · exact blames_ok _
        split
        · split <;> exact blames_error rfl
        · exact blames_error rfl
    · exact blames_error rfl

theorem readColon_blames (input : Bytes) : BlamesPlainly (readColon input) := by
  unfold readColon
  split
  · exact blames_error rfl
  · split
    · exact blames_ok _
    · exact blames_error rfl

section

variable {sort : Cause -> Prop} {State : Type}

/-- A loop blames what its parts blame. -/
theorem readElements_blames {next : Bool -> Bytes -> Except Fault Step} {ending : Cause}
    {element : State -> Reader State} (ends : sort ending)
    (goesOn : forall first input, Blames sort (next first input))
    (inside : forall state input, Blames sort (element state input)) (steps : Bytes) (first : Bool)
    (state : State) (input : Bytes) :
    Blames sort (readElements next ending element steps first state input) := by
  induction steps generalizing first state input with
  | nil => exact blames_error ends
  | cons step steps inductionHypothesis =>
      rw [readElements]
      split
      · next refused => exact blames_error (goesOn _ _ _ refused)
      · exact blames_ok _
      · split
        · next refused => exact blames_error (inside _ _ _ refused)
        · exact inductionHypothesis _ _ _

theorem readMembers_blames {purpose : Purpose} {member : MemberReader State}
    (plain : forall cause, cause.isPlain = true -> sort cause)
    (inside : forall state key input, Blames sort (member state key input)) (state : State)
    (input : Bytes) : Blames sort (readMembers purpose member state input) := by
  apply readElements_blames (plain _ rfl)
  · exact fun first input fault refused => plain _ (nextKey_blames _ _ _ _ refused)
  · intro state input
    unfold readMember
    split
    · next refused => exact blames_error (plain _ (readText_blames _ _ _ refused))
    · exact inside _ _ _

end

theorem readItems_blames {purpose : Purpose} {value : Reader Value}
    (inside : forall input, BlamesPlainly (value input)) (input : Bytes) :
    BlamesPlainly (readItems purpose value input) := by
  have items : BlamesPlainly
      (readElements (nextItem purpose) .endInList (readItem value) input true [] input) := by
    have ends : Cause.endInList.isPlain = true := rfl
    refine readElements_blames ends (nextItem_blames purpose) ?_ _ _ _ _
    intro state input
    unfold readItem
    split
    · next refused => exact blames_error (inside _ _ refused)
    · exact blames_ok _
  unfold readItems
  split
  · next refused => exact blames_error (items _ refused)
  · exact blames_ok _

theorem readValueMember_blames {value : Reader Value}
    (inside : forall input, BlamesPlainly (value input)) (members : List (String × Value))
    (key : String) (input : Bytes) : BlamesPlainly (readValueMember value members key input) := by
  unfold readValueMember
  split
  · next refused => exact blames_error (readColon_blames _ _ refused)
  · split
    · next refused => exact blames_error (inside _ _ refused)
    · exact blames_ok _

theorem readWith_blames {purpose : Purpose} {list object : Reader Value}
    (items : forall input, BlamesPlainly (list input))
    (members : forall input, BlamesPlainly (object input)) (input : Bytes) :
    BlamesPlainly (readWith purpose list object input) := by
  unfold readWith
  split
  · exact blames_error rfl
  · split
    · exact items _
    split
    · exact members _
    split
    · next refused => exact blames_error (readScalar_blames _ _ _ _ refused)
    · exact blames_ok _

/-- No value makes its reader mention anything of it. -/
theorem readValue_blames (purpose : Purpose) (depth : Nat) (input : Bytes) :
    BlamesPlainly (readValue purpose depth input) := by
  induction depth generalizing input with
  | zero =>
      have tooDeep (rest : Bytes) : BlamesPlainly (.error ⟨.tooDeep, rest⟩ : Outcome Value) :=
        blames_error rfl
      exact readWith_blames tooDeep tooDeep input
  | succ depth inductionHypothesis =>
      rw [readValue]
      apply readWith_blames
      · intro rest
        split
        · next refused => exact blames_error (readItems_blames inductionHypothesis _ _ refused)
        · exact blames_ok _
      · intro rest
        have members : BlamesPlainly
            (readMembers purpose (readValueMember (readValue purpose depth)) [] rest) :=
          readMembers_blames (fun cause plain => plain)
            (readValueMember_blames inductionHypothesis) [] rest
        split
        · next refused => exact blames_error (members _ refused)
        · exact blames_ok _

theorem skipValue_blames (depth : Nat) (input : Bytes) : BlamesPlainly (skipValue depth input) := by
  unfold skipValue
  split
  · next refused => exact blames_error (readValue_blames _ _ _ _ refused)
  · exact blames_ok _

/-! ## Records -/

theorem wrongKind_legible {wanted : String} (printable : Text.IsPrintable wanted) (input : Bytes) :
    (wrongKind wanted input).cause.Legible := by
  unfold wrongKind
  split
  · trivial
  · split
    · exact printable
    split
    · exact printable
    split
    · next refused => exact Cause.legible_of_isPlain (readScalar_blames _ _ _ _ refused)
    · exact printable

theorem readBoolean_blames (input : Bytes) : Blames Cause.Legible (readBoolean input) := by
  unfold readBoolean
  split
  · exact blames_error trivial
  · split
    · exact blames_ok _
    · exact blames_error (wrongKind_legible (by decide) input)

theorem readNatural_blames (input : Bytes) : Blames Cause.Legible (readNatural input) := by
  unfold readNatural
  split
  · exact blames_error trivial
  · split
    · exact blames_ok _
    · have wanted : Text.IsPrintable "u64" := by decide
      exact blames_error wanted
    · exact blames_error (wrongKind_legible (by decide) input)

namespace Record

theorem closeList_blames (input : Bytes) : BlamesPlainly (closeList input) := by
  unfold closeList
  split
  · exact blames_error rfl
  · split
    · exact blames_ok _
    split
    · split
      · exact blames_error rfl
      · split <;> exact blames_error rfl
    · exact blames_error rfl

section

variable {State : Type} {fields : List (Field State)}

theorem readItems_blames
    (inside : forall field, field ∈ fields -> forall state input,
      Blames Cause.Legible (field.read state input))
    (first : Bool) (state : State) (input : Bytes) :
    Blames Cause.Legible (readItems fields first state input) := by
  induction fields generalizing first state input with
  | nil =>
      rw [readItems]
      split
      · next refused => exact blames_error ((closeList_blames _).legible _ refused)
      · exact blames_ok _
  | cons field fields inductionHypothesis =>
      rw [readItems]
      split
      · next refused => exact blames_error ((nextItem_blames _ _ _).legible _ refused)
      · exact blames_ok _
      · split
        · next refused => exact blames_error (inside field List.mem_cons_self _ _ _ refused)
        · exact inductionHypothesis (fun other member =>
            inside other (List.mem_cons_of_mem _ member)) _ _ _

theorem readField_blames
    (names : forall field, field ∈ fields -> Text.IsPrintable field.name)
    (inside : forall field, field ∈ fields -> forall state input,
      Blames Cause.Legible (field.read state input))
    (depth : Nat) (progress : State × List String) (key : String) (input : Bytes) :
    Blames Cause.Legible (readField fields depth progress key input) := by
  rcases progress with ⟨state, seen⟩
  unfold readField
  simp only
  split
  · next field found =>
      have member := List.mem_of_find?_eq_some found
      have named := List.find?_some found
      split
      · have same : field.name = key := eq_of_beq named
        have printable : Text.IsPrintable key := same ▸ names field member
        exact blames_error printable
      · split
        · next refused => exact blames_error ((readColon_blames _).legible _ refused)
        · split
          · next refused => exact blames_error (inside field member _ _ _ refused)
          · exact blames_ok _
  · split
    · next refused => exact blames_error ((readColon_blames _).legible _ refused)
    · split
      · next refused => exact blames_error ((skipValue_blames _ _).legible _ refused)
      · exact blames_ok _

/-- A record complains in printable characters when its names are printable and
its fields do so. -/
theorem read_blames {wanted : String} (kind : Text.IsPrintable wanted)
    (names : forall field, field ∈ fields -> Text.IsPrintable field.name)
    (inside : forall field, field ∈ fields -> forall state input,
      Blames Cause.Legible (field.read state input))
    (defaults : State) (input : Bytes) :
    Blames Cause.Legible (read wanted fields defaults input) := by
  unfold read
  split
  · exact blames_error trivial
  · next byte rest _ =>
      split
      · exact readItems_blames inside _ _ _
      split
      · have members : Blames Cause.Legible
            (readMembers .keep (readField fields rest.length) (defaults, []) rest) :=
          readMembers_blames (fun cause => Cause.legible_of_isPlain)
            (readField_blames names inside rest.length) (defaults, []) rest
        split
        · next refused => exact blames_error (members _ refused)
        · exact blames_ok _
      · exact blames_error (wrongKind_legible kind _)

end

end Record

/-- What is said about a whole text is printable when its reader complains in
printable characters. -/
theorem readAll_isPrintable {Result : Type} {reader : Reader Result}
    (legible : forall input, Blames Cause.Legible (reader input)) {input : Bytes}
    {complaint : Complaint} (refused : readAll reader input = .error complaint) :
    Text.IsPrintable complaint.message := by
  apply isPrintable_complaint
  unfold readAll at refused
  split at refused
  · next failed =>
      cases refused
      exact legible input _ failed
  · split at refused
    · cases refused
    · cases refused
      trivial

end Json
end Salutation
