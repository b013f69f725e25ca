import Salutation.Json.Record
import Salutation.Proofs.Json.Elements

namespace Salutation
namespace Json

/-!
# What readers leave unread

A fault carries the bytes that were not consumed when it was found, and a result
comes with the bytes that follow it.  Nothing in the type of a reader says that
these bytes are the end of the input, but at every exit of every reader they
are.  The two are proved together, since a reader starts where the one before it
has stopped.
-/

open Grammar

/-! ## What an outcome leaves -/

/-- What an outcome leaves unread is the end of the input, after a result as
well as at a fault. -/
structure Within {Result : Type} (unread : Result -> Bytes) (input : Bytes)
    (outcome : Except Fault Result) : Prop where
  result : forall result, outcome = .ok result -> List.IsSuffix (unread result) input
  fault : forall fault, outcome = .error fault -> List.IsSuffix fault.rest input

/-- A reader stays within its input. -/
abbrev ReadsWithin {Result : Type} (reader : Reader Result) : Prop :=
  forall input, Within Prod.snd input (reader input)

section

variable {Result : Type} {unread : Result -> Bytes} {input middle : Bytes}

theorem within_ok {result : Result} (left : List.IsSuffix (unread result) input) :
    Within unread input (.ok result) where
  result := by
    intro other same
    cases same
    exact left
  fault := by
    intro fault impossible
    cases impossible

theorem within_error {fault : Fault} (left : List.IsSuffix fault.rest input) :
    Within unread input (.error fault : Except Fault Result) where
  result := by
    intro result impossible
    cases impossible
  fault := by
    intro other same
    cases same
    exact left

/-- What starts at the end of an input stays in it. -/
theorem Within.trans {outcome : Except Fault Result} (within : Within unread middle outcome)
    (ends : List.IsSuffix middle input) : Within unread input outcome where
  result result same := (within.result result same).trans ends
  fault fault same := (within.fault fault same).trans ends

end

/-! ## Separators -/

theorem skipSeparators_suffix (input : Bytes) :
    List.IsSuffix (Bytes.skipSeparators input) input := by
  rcases skipSeparators_sound input with ⟨gap, _, split⟩
  exact ⟨gap, split.symm⟩

section

variable {input rest : Bytes} {byte : UInt8}

/-- The first byte after the separators, with what follows it. -/
theorem suffix_of_skip (skipped : Bytes.skipSeparators input = byte :: rest) :
    List.IsSuffix (byte :: rest) input :=
  skipped ▸ skipSeparators_suffix input

/-- What follows the first byte after the separators. -/
theorem suffix_behind_skip (skipped : Bytes.skipSeparators input = byte :: rest) :
    List.IsSuffix rest input :=
  (List.suffix_cons byte rest).trans (suffix_of_skip skipped)

end

/-! ## Texts -/

theorem readPairMark_within (mark : UInt8) (input : Bytes) :
    Within id input (readPairMark mark input) := by
  unfold readPairMark
  split
  · exact within_error List.nil_suffix
  · split
    · exact within_ok (List.suffix_cons _ _)
    · exact within_error (List.suffix_cons _ _)

theorem readCodeUnit_within : ReadsWithin readCodeUnit := by
  intro input
  unfold readCodeUnit
  split
  · next first second third fourth rest =>
      have ends : List.IsSuffix rest (first :: second :: third :: fourth :: rest) :=
        List.suffix_append [first, second, third, fourth] rest
      split
      · exact within_ok ends
      · exact within_error ends
  · exact within_error List.nil_suffix

theorem readLowSurrogate_within (high : Nat) : ReadsWithin (readLowSurrogate high) := by
  intro input
  unfold readLowSurrogate
  split
  · next refused => exact within_error ((readPairMark_within _ _).fault _ refused)
  · next afterBackslash first =>
      have backslash : List.IsSuffix afterBackslash input :=
        (readPairMark_within _ _).result _ first
      split
      · next refused =>
          exact within_error (((readPairMark_within _ _).fault _ refused).trans backslash)
      · next afterMark second =>
          have mark : List.IsSuffix afterMark input :=
            ((readPairMark_within _ _).result _ second).trans backslash
          split
          · next refused =>
              exact within_error (((readCodeUnit_within _).fault _ refused).trans mark)
          · next low rest read =>
              have ends := ((readCodeUnit_within _).result _ read).trans mark
              split
              · exact within_ok ends
              · exact within_error ends

theorem readEscape_within (purpose : Purpose) : ReadsWithin (readEscape purpose) := by
  intro input
  unfold readEscape
  split
  · exact within_error List.nil_suffix
  · next byte rest =>
      have behind : List.IsSuffix rest (byte :: rest) := List.suffix_cons _ _
      split
      · exact within_ok behind
      · split
        · split
          · next refused =>
              exact within_error (((readCodeUnit_within _).fault _ refused).trans behind)
          · next unit after read =>
              have ends := ((readCodeUnit_within _).result _ read).trans behind
              split
              · exact within_ok ends
              · split
                · exact within_error ends
                · split
                  · exact (readLowSurrogate_within _ _).trans ends
                  · exact within_ok ends
        · exact within_error behind

theorem readContent_within (purpose : Purpose) (steps content : Bytes) :
    ReadsWithin (readContent purpose steps content) := by
  intro input
  induction steps generalizing content input with
  | nil => exact within_error List.nil_suffix
  | cons step steps inductionHypothesis =>
      cases input with
      | nil => exact within_error List.nil_suffix
      | cons byte rest =>
          have behind : List.IsSuffix rest (byte :: rest) := List.suffix_cons _ _
          rw [readContent]
          split
          · exact within_ok behind
          · split
            · split
              · next refused =>
                  exact within_error (((readEscape_within _ _).fault _ refused).trans behind)
              · next plain after read =>
                  have ends := ((readEscape_within _ _).result _ read).trans behind
                  exact (inductionHypothesis _ _).trans ends
            · split
              · cases purpose with
                | keep => exact within_error behind
                | skip => exact within_error List.suffix_rfl
              · exact (inductionHypothesis _ _).trans behind

theorem readText_within (purpose : Purpose) : ReadsWithin (readText purpose) := by
  intro input
  unfold readText
  split
  · next refused => exact within_error ((readContent_within _ _ _ _).fault _ refused)
  · next content rest read =>
      have ends := (readContent_within _ _ _ _).result _ read
      split
      · exact within_ok ends
      · split
        · exact within_ok ends
        · exact within_error (List.drop_suffix _ _)

/-! ## Numbers -/

namespace Numeral

theorem missingDigit_within (purpose : Purpose) (input : Bytes) :
    List.IsSuffix (missingDigit purpose input).rest input := by
  cases input with
  | nil => cases purpose <;> exact List.nil_suffix
  | cons byte rest => exact List.suffix_cons byte rest

theorem readWhole_within (purpose : Purpose) : ReadsWithin (readWhole purpose) := by
  intro input
  unfold readWhole
  split
  · exact within_error (missingDigit_within _ _)
  · next byte rest =>
      split
      · split
        · next next after =>
            have ends : List.IsSuffix after (byte :: next :: after) :=
              List.suffix_append [byte, next] after
            split
            · exact within_error ends
            · exact within_ok (List.suffix_cons _ _)
        · exact within_ok List.nil_suffix
      · split
        · exact within_ok (List.dropWhile_suffix _)
        · exact within_error (missingDigit_within _ _)

theorem readDigits_within (purpose : Purpose) : ReadsWithin (readDigits purpose) := by
  intro input
  unfold readDigits
  split
  · exact within_error (missingDigit_within _ _)
  · exact within_ok (List.dropWhile_suffix _)

theorem readFraction_within (purpose : Purpose) : ReadsWithin (readFraction purpose) := by
  intro input
  unfold readFraction
  split
  · next byte rest =>
      have behind : List.IsSuffix rest (byte :: rest) := List.suffix_cons _ _
      split
      · split
        · next refused =>
            exact within_error (((readDigits_within _ _).fault _ refused).trans behind)
        · next found after read =>
            exact within_ok (((readDigits_within _ _).result _ read).trans behind)
      · exact within_ok List.suffix_rfl
  · exact within_ok List.suffix_rfl

theorem readSign_within (input : Bytes) : List.IsSuffix (readSign input).2 input := by
  rcases readSign_sound input with ⟨sign, split, _⟩
  exact ⟨sign, split.symm⟩

theorem readExponent_within (purpose : Purpose) : ReadsWithin (readExponent purpose) := by
  intro input
  unfold readExponent
  split
  · next byte rest =>
      have behind : List.IsSuffix (readSign rest).2 (byte :: rest) :=
        (readSign_within rest).trans (List.suffix_cons _ _)
      split
      · simp only
        split
        · next refused =>
            exact within_error (((readDigits_within _ _).fault _ refused).trans behind)
        · next found after read =>
            exact within_ok (((readDigits_within _ _).result _ read).trans behind)
      · exact within_ok List.suffix_rfl
  · exact within_ok List.suffix_rfl

theorem read_within (purpose : Purpose) (negative : Bool) :
    ReadsWithin (read purpose negative) := by
  intro input
  unfold read
  split
  · next refused => exact within_error ((readWhole_within _ _).fault _ refused)
  · next whole afterWhole first =>
      have ends := (readWhole_within _ _).result _ first
      split
      · next refused => exact within_error (((readFraction_within _ _).fault _ refused).trans ends)
      · next fraction afterFraction second =>
          have ends := ((readFraction_within _ _).result _ second).trans ends
          split
          · next refused =>
              exact within_error (((readExponent_within _ _).fault _ refused).trans ends)
          · next exponent rest third =>
              exact within_ok (((readExponent_within _ _).result _ third).trans ends)

/-- The digits of an exponent that have not been looked at are its last ones. -/
theorem afterOverflow_suffix {digits unread : List Nat} {exponent : Nat}
    (overflows : afterOverflow exponent digits = some unread) : List.IsSuffix unread digits := by
  induction digits generalizing exponent with
  | nil => cases overflows
  | cons digit digits inductionHypothesis =>
      have behind : List.IsSuffix digits (digit :: digits) := List.suffix_cons _ _
      rw [afterOverflow] at overflows
      split at overflows
      · exact (inductionHypothesis overflows).trans behind
      · cases overflows
        exact behind

/-- Digits as they are written. -/
def spell (digits : List Nat) : Bytes :=
  digits.map (fun digit => UInt8.ofNat (digit + 0x30))

theorem spell_suffix {unread digits : List Nat} (ends : List.IsSuffix unread digits) :
    List.IsSuffix (spell unread) (spell digits) :=
  ends.map _

theorem eq_spell {bytes : Bytes} {digits : List Nat} (written : Digits bytes digits) :
    bytes = spell digits := by
  induction written with
  | none => rfl
  | digit _ _ inductionHypothesis =>
      rw [inductionHypothesis]
      rfl

/-- The digits of the exponent stand at the end of a literal. -/
theorem exponent_suffix {negative downwards : Bool} {bytes : Bytes} {numeral : Numeral}
    {digits : List Nat} (written : Unsigned negative bytes numeral)
    (stated : numeral.exponent = some (downwards, digits)) :
    List.IsSuffix (spell digits) bytes := by
  rcases written with ⟨_, _, exponent⟩
  cases stated
  rcases exponent with _ | ⟨_, _, written, _⟩
  rw [eq_spell written, ← List.cons_append, ← List.append_assoc, ← List.append_assoc]
  exact List.suffix_append _ _

theorem scaled_rest {numeral : Numeral} {power : Int} {rest : Bytes} {fault : Fault}
    (refused : numeral.scaled power rest = .error fault) : fault.rest = rest := by
  rw [scaled] at refused
  generalize real? numeral.negative numeral.significand.1 power = found at refused
  cases found with
  | none =>
      cases refused
      rfl
  | some number => cases refused

/-- A literal too large for its exponent is refused inside it, any other one
after its last byte. -/
theorem value_within {negative : Bool} {bytes rest : Bytes} {numeral : Numeral} {fault : Fault}
    (written : Unsigned negative bytes numeral) (refused : numeral.value rest = .error fault) :
    List.IsSuffix fault.rest (bytes ++ rest) := by
  have behind : List.IsSuffix rest (bytes ++ rest) := List.suffix_append _ _
  rw [value] at refused
  split at refused
  · cases refused
  · simp only at refused
    split at refused
    · exact scaled_rest refused ▸ behind
    · next stated =>
        split at refused
        · exact scaled_rest refused ▸ behind
        · next unread overflows =>
            split at refused
            · cases refused
            · cases refused
              have ends := spell_suffix (afterOverflow_suffix overflows)
              rcases ends.trans (exponent_suffix written stated) with ⟨before, split⟩
              exact ⟨before, by rw [← split, List.append_assoc]; rfl⟩

end Numeral

theorem readNumber_within (purpose : Purpose) (negative : Bool) :
    ReadsWithin (readNumber purpose negative) := by
  intro input
  unfold readNumber
  split
  · next refused => exact within_error ((Numeral.read_within _ _ _).fault _ refused)
  · next numeral rest read =>
      have ends := (Numeral.read_within _ _ _).result _ read
      split
      · exact within_ok ends
      · split
        · next refused =>
            rcases read_sound read with ⟨bytes, split, written⟩
            exact within_error (split ▸ Numeral.value_within written refused)
        · exact within_ok ends

/-! ## Values -/

theorem readKeyword_within (letters input : Bytes) :
    Within id input (readKeyword letters input) := by
  induction letters generalizing input with
  | nil => exact within_ok List.suffix_rfl
  | cons letter letters inductionHypothesis =>
      cases input with
      | nil => exact within_error List.nil_suffix
      | cons byte rest =>
          have behind : List.IsSuffix rest (byte :: rest) := List.suffix_cons _ _
          rw [readKeyword]
          split
          · exact (inductionHypothesis rest).trans behind
          · exact within_error behind

/-- A scalar stays within its first byte and what follows it. -/
theorem readScalar_within (purpose : Purpose) (first : UInt8) (rest : Bytes) :
    Within Prod.snd (first :: rest) (readScalar purpose first rest) := by
  have behind : List.IsSuffix rest (first :: rest) := List.suffix_cons _ _
  have keyword (letters : Bytes) : Within id (first :: rest) (readKeyword letters rest) :=
    (readKeyword_within letters rest).trans behind
  have negative : Within Prod.snd (first :: rest) (readNumber purpose true rest) :=
    (readNumber_within purpose true rest).trans behind
  have positive : Within Prod.snd (first :: rest) (readNumber purpose false (first :: rest)) :=
    readNumber_within purpose false (first :: rest)
  have text : Within Prod.snd (first :: rest) (readText purpose rest) :=
    (readText_within purpose rest).trans behind
  unfold readScalar
  simp only
  split
  · split
    · next refused => exact within_error ((keyword _).fault _ refused)
    · next read => exact within_ok ((keyword _).result _ read)
  split
  · split
    · next refused => exact within_error ((keyword _).fault _ refused)
    · next read => exact within_ok ((keyword _).result _ read)
  split
  · split
    · next refused => exact within_error ((keyword _).fault _ refused)
    · next read => exact within_ok ((keyword _).result _ read)
  split
  · split
    · next refused => exact within_error (negative.fault _ refused)
    · next read => exact within_ok (negative.result _ read)
  split
  · split
    · next refused => exact within_error (positive.fault _ refused)
    · next read => exact within_ok (positive.result _ read)
  split
  · split
    · next refused => exact within_error (text.fault _ refused)
    · next read => exact within_ok (text.result _ read)
  · exact within_error behind

/-- What is left after the decision about the next step. -/
def Step.rest : Step -> Bytes
  | .close rest => rest
  | .element rest => rest

theorem nextItem_within (purpose : Purpose) (first : Bool) (input : Bytes) :
    Within Step.rest input (nextItem purpose first input) := by
  unfold nextItem
  split
  · exact within_error List.nil_suffix
  · next byte rest skipped =>
      have behind := suffix_behind_skip skipped
      split
      · exact within_ok behind
      split
      · exact within_ok (suffix_of_skip skipped)
      split
      · split
        · exact within_error List.nil_suffix
        · next next after skippedAgain =>
            have ends := (suffix_behind_skip skippedAgain).trans behind
            split
            · split <;> exact within_error ends
            · exact within_ok ((suffix_of_skip skippedAgain).trans behind)
      · exact within_error behind

theorem nextKey_within (purpose : Purpose) (first : Bool) (input : Bytes) :
    Within Step.rest input (nextKey purpose first input) := by
  unfold nextKey
  split
  · exact within_error List.nil_suffix
  · next byte rest skipped =>
      have behind := suffix_behind_skip skipped
      split
      · exact within_ok behind
      split
      · split
        · exact within_ok behind
        · exact within_error behind
      split
      · split
        · split <;> exact within_error List.nil_suffix
        · next next after skippedAgain =>
            have ends := (suffix_behind_skip skippedAgain).trans behind
            split
            · exact within_ok ends
            split
            · split <;> exact within_error ends
            · exact within_error ends
      · exact within_error behind

theorem readColon_within (input : Bytes) : Within id input (readColon input) := by
  unfold readColon
  split
  · exact within_error List.nil_suffix
  · next skipped =>
      split
      · exact within_ok (suffix_behind_skip skipped)
      · exact within_error (suffix_behind_skip skipped)

section

variable {State : Type}

/-- A loop stays within its input when its parts do. -/
theorem readElements_within {next : Bool -> Bytes -> Except Fault Step} {ending : Cause}
    {element : State -> Reader State}
    (goesOn : forall first input, Within Step.rest input (next first input))
    (inside : forall state, ReadsWithin (element state)) (steps : Bytes) (first : Bool)
    (state : State) : ReadsWithin (readElements next ending element steps first state) := by
  intro input
  induction steps generalizing first state input with
  | nil => exact within_error List.nil_suffix
  | cons step steps inductionHypothesis =>
      rw [readElements]
      split
      · next refused => exact within_error ((goesOn _ _).fault _ refused)
      · next rest decided =>
          have ends : List.IsSuffix rest input := (goesOn _ _).result _ decided
          exact within_ok ends
      · next rest decided =>
          have ends : List.IsSuffix rest input := (goesOn _ _).result _ decided
          split
          · next refused => exact within_error (((inside _ _).fault _ refused).trans ends)
          · next later after read =>
              exact (inductionHypothesis _ _ _).trans (((inside _ _).result _ read).trans ends)

theorem readMembers_within {purpose : Purpose} {member : MemberReader State}
    (inside : forall state key, ReadsWithin (member state key)) (state : State) :
    ReadsWithin (readMembers purpose member state) := by
  intro input
  refine readElements_within (nextKey_within purpose) ?_ _ _ _ _
  intro state input
  unfold readMember
  split
  · next refused => exact within_error ((readText_within _ _).fault _ refused)
  · next read => exact (inside _ _ _).trans ((readText_within _ _).result _ read)

end

theorem readItems_within {purpose : Purpose} {value : Reader Value} (inside : ReadsWithin value) :
    ReadsWithin (readItems purpose value) := by
  intro input
  have items : Within Prod.snd input
      (readElements (nextItem purpose) .endInList (readItem value) input true [] input) := by
    refine readElements_within (nextItem_within purpose) ?_ _ _ _ _
    intro state input
    unfold readItem
    split
    · next refused => exact within_error ((inside _).fault _ refused)
    · next read => exact within_ok ((inside _).result _ read)
  unfold readItems
  split
  · next refused => exact within_error (items.fault _ refused)
  · next rest read =>
      have ends : List.IsSuffix rest input := items.result _ read
      exact within_ok ends

theorem readValueMember_within {value : Reader Value} (inside : ReadsWithin value)
    (members : List (String × Value)) (key : String) :
    ReadsWithin (readValueMember value members key) := by
  intro input
  unfold readValueMember
  split
  · next refused => exact within_error ((readColon_within _).fault _ refused)
  · next rest colon =>
      have behind : List.IsSuffix rest input := (readColon_within _).result _ colon
      split
      · next refused => exact within_error (((inside _).fault _ refused).trans behind)
      · next read => exact within_ok (((inside _).result _ read).trans behind)

theorem readWith_within {purpose : Purpose} {list object : Reader Value}
    (items : ReadsWithin list) (members : ReadsWithin object) :
    ReadsWithin (readWith purpose list object) := by
  intro input
  unfold readWith
  split
  · exact within_error List.nil_suffix
  · next byte rest skipped =>
      have behind := suffix_behind_skip skipped
      split
      · exact (items _).trans behind
      split
      · exact (members _).trans behind
      have scalar := (readScalar_within purpose byte rest).trans (suffix_of_skip skipped)
      split
      · next refused => exact within_error (scalar.fault _ refused)
      · next read => exact within_ok (scalar.result _ read)

theorem readValue_within (purpose : Purpose) (depth : Nat) :
    ReadsWithin (readValue purpose depth) := by
  induction depth with
  | zero =>
      have tooDeep : ReadsWithin (fun rest => .error ⟨.tooDeep, rest⟩ : Reader Value) :=
        fun rest => within_error List.suffix_rfl
      exact readWith_within tooDeep tooDeep
  | succ depth inductionHypothesis =>
      rw [readValue]
      apply readWith_within
      · intro rest
        have items : Within Prod.snd rest (readItems purpose (readValue purpose depth) rest) :=
          readItems_within inductionHypothesis rest
        simp only
        split
        · next refused => exact within_error (items.fault _ refused)
        · next after read =>
            have ends : List.IsSuffix after rest := items.result _ read
            exact within_ok ends
      · intro rest
        have members : Within Prod.snd rest
            (readMembers purpose (readValueMember (readValue purpose depth)) [] rest) :=
          readMembers_within (readValueMember_within inductionHypothesis) [] rest
        simp only
        split
        · next refused => exact within_error (members.fault _ refused)
        · next after read =>
            have ends : List.IsSuffix after rest := members.result _ read
            exact within_ok ends

theorem skipValue_within (depth : Nat) (input : Bytes) :
    Within id input (skipValue depth input) := by
  unfold skipValue
  split
  · next refused => exact within_error ((readValue_within _ _ _).fault _ refused)
  · next read => exact within_ok ((readValue_within _ _ _).result _ read)

/-! ## Records -/

theorem wrongKind_within (wanted : String) (input : Bytes) :
    List.IsSuffix (wrongKind wanted input).rest input := by
  unfold wrongKind
  split
  · exact List.nil_suffix
  · next byte rest skipped =>
      have ends := suffix_of_skip skipped
      split
      · exact ends
      split
      · exact ends
      split
      · next refused => exact ((readScalar_within _ _ _).fault _ refused).trans ends
      · next read => exact ((readScalar_within _ _ _).result _ read).trans ends

theorem readBoolean_within : ReadsWithin readBoolean := by
  intro input
  unfold readBoolean
  split
  · exact within_error List.nil_suffix
  · next byte rest skipped =>
      have scalar := (readScalar_within .keep byte rest).trans (suffix_of_skip skipped)
      split
      · next read => exact within_ok (scalar.result _ read)
      · exact within_error (wrongKind_within _ _)

theorem readNatural_within : ReadsWithin readNatural := by
  intro input
  unfold readNatural
  split
  · exact within_error List.nil_suffix
  · next byte rest skipped =>
      have scalar := (readScalar_within .keep byte rest).trans (suffix_of_skip skipped)
      split
      · next read => exact within_ok (scalar.result _ read)
      · next read => exact within_error (scalar.result _ read)
      · exact within_error (wrongKind_within _ _)

namespace Record

theorem closeList_within (input : Bytes) : Within id input (closeList input) := by
  unfold closeList
  split
  · exact within_error List.nil_suffix
  · next skipped =>
      have behind := suffix_behind_skip skipped
      split
      · exact within_ok behind
      split
      · split
        · exact within_error List.nil_suffix
        · next skippedAgain =>
            have ends := (suffix_behind_skip skippedAgain).trans behind
            split <;> exact within_error ends
      · exact within_error behind

theorem afterRepetition_suffix (input : Bytes) : List.IsSuffix (afterRepetition input) input := by
  unfold afterRepetition
  split
  · exact List.nil_suffix
  · next skipped =>
      split
      · exact suffix_behind_skip skipped
      · exact suffix_of_skip skipped

section

variable {State : Type} {fields : List (Field State)}

theorem readItems_within
    (inside : forall field, field ∈ fields -> forall state, ReadsWithin (field.read state))
    (first : Bool) (state : State) : ReadsWithin (readItems fields first state) := by
  intro input
  induction fields generalizing first state input with
  | nil =>
      rw [readItems]
      split
      · next refused => exact within_error ((closeList_within _).fault _ refused)
      · next closed => exact within_ok ((closeList_within _).result _ closed)
  | cons field fields inductionHypothesis =>
      rw [readItems]
      split
      · next refused => exact within_error ((nextItem_within _ _ _).fault _ refused)
      · next rest decided =>
          have ends : List.IsSuffix rest input := (nextItem_within _ _ _).result _ decided
          exact within_ok ends
      · next rest decided =>
          have ends : List.IsSuffix rest input := (nextItem_within _ _ _).result _ decided
          have item := inside field List.mem_cons_self state rest
          split
          · next refused => exact within_error ((item.fault _ refused).trans ends)
          · next read =>
              have others := inductionHypothesis fun other member =>
                inside other (List.mem_cons_of_mem _ member)
              exact (others _ _ _).trans ((item.result _ read).trans ends)

theorem readField_within
    (inside : forall field, field ∈ fields -> forall state, ReadsWithin (field.read state))
    (depth : Nat) (progress : State × List String) (key : String) :
    ReadsWithin (readField fields depth progress key) := by
  intro input
  rcases progress with ⟨state, seen⟩
  unfold readField
  simp only
  split
  · next field found =>
      split
      · exact within_error (afterRepetition_suffix _)
      · split
        · next refused => exact within_error ((readColon_within _).fault _ refused)
        · next rest colon =>
            have behind : List.IsSuffix rest input := (readColon_within _).result _ colon
            have value := inside field (List.mem_of_find?_eq_some found) state rest
            split
            · next refused => exact within_error ((value.fault _ refused).trans behind)
            · next read => exact within_ok ((value.result _ read).trans behind)
  · split
    · next refused => exact within_error ((readColon_within _).fault _ refused)
    · next rest colon =>
        have behind : List.IsSuffix rest input := (readColon_within _).result _ colon
        split
        · next refused =>
            exact within_error (((skipValue_within _ _).fault _ refused).trans behind)
        · next read =>
            have ends : List.IsSuffix _ rest := (skipValue_within _ _).result _ read
            exact within_ok (ends.trans behind)

/-- A record stays within its input when its fields do. -/
theorem read_within {wanted : String}
    (inside : forall field, field ∈ fields -> forall state, ReadsWithin (field.read state))
    (defaults : State) : ReadsWithin (read wanted fields defaults) := by
  intro input
  unfold read
  split
  · exact within_error List.nil_suffix
  · next byte rest skipped =>
      have behind := suffix_behind_skip skipped
      split
      · exact (readItems_within inside _ _ _).trans behind
      split
      · have members : Within Prod.snd rest
            (readMembers .keep (readField fields rest.length) (defaults, []) rest) :=
          readMembers_within (readField_within inside rest.length) (defaults, []) rest
        split
        · next refused => exact within_error ((members.fault _ refused).trans behind)
        · next after read =>
            have ends : List.IsSuffix after rest := members.result _ read
            exact within_ok (ends.trans behind)
      · exact within_error (wrongKind_within _ _)

end

end Record

end Json
end Salutation
