import Salutation.Proofs.Json.Values

namespace Salutation
namespace Json

open Grammar

/-!
# Skipping and keeping

The two purposes of the reader are compared in both directions.  What can be
kept can be skipped, because the grammar of skipped values is the wider one
and because no value nests deeper than it is long.  What can be skipped need
not be kept, but a value is then refused for one of five causes and for no
other: it nests too deep, a number in it is too large, or a text in it is not
UTF-8 or breaks a surrogate pair.
-/

/-! ## What is kept can be skipped -/

/-- An escape that is kept consists of one or two that can be skipped. -/
theorem Escape.skipped {bytes plain rest content : Bytes} (written : Escape .keep bytes plain)
    (others : Content .skip rest content) :
    Exists fun content => Content .skip (ascii '\\' :: (bytes ++ rest)) content := by
  cases written with
  | short member => exact ⟨_, .escape (.short member) others⟩
  | unit digits _ _ => exact ⟨_, .escape (.passed digits) others⟩
  | @pair first second high low leading trailing _ _ =>
      have last : Content .skip (ascii '\\' :: (ascii 'u' :: second ++ rest)) ([] ++ content) :=
        .escape (.passed trailing) others
      have both := Content.escape (.passed leading) last
      simp only [List.cons_append, List.append_assoc] at both ⊢
      exact ⟨_, both⟩

theorem Content.skipped {bytes content : Bytes} (written : Content .keep bytes content) :
    Exists fun content => Content .skip bytes content := by
  induction written with
  | nothing => exact ⟨[], .nothing⟩
  | plain ordinary _ inductionHypothesis =>
      rcases inductionHypothesis with ⟨content, others⟩
      exact ⟨_, .plain ordinary others⟩
  | escape escape _ inductionHypothesis =>
      rcases inductionHypothesis with ⟨content, others⟩
      exact escape.skipped others

theorem Grammar.TextText.skipped {bytes : Bytes} {text : String}
    (written : TextText .keep bytes text) : TextText .skip bytes "" := by
  cases written with
  | quoted quoted =>
      cases quoted with
      | kept spelled =>
          exact .quoted (.skipped ((passage_iff_content _).mpr spelled.content.skipped))

theorem Grammar.ScalarText.skipped {bytes : Bytes} {scalar : Scalar}
    (written : ScalarText .keep bytes scalar) :
    Exists fun other => ScalarText .skip bytes other := by
  cases written with
  | null => exact ⟨_, .null⟩
  | true => exact ⟨_, .true⟩
  | false => exact ⟨_, .false⟩
  | number written =>
      cases written with
      | literal literal _ => exact ⟨_, .number (.literal literal .skipped)⟩
  | text written => exact ⟨_, .text written.skipped⟩

/-- The elements of a container can be replaced one by one. -/
theorem Run.replace {Item Other : Type} {item : Bytes -> Item -> Prop}
    {other : Bytes -> Other -> Prop} {first : Bool} {bytes : Bytes} {values : List Item}
    (run : Run item first bytes values)
    (replaces : forall bytes value, value ∈ values -> item bytes value ->
      Exists fun found => other bytes found) :
    Exists fun others => Run other first bytes others := by
  induction run with
  | done separators => exact ⟨[], .done separators⟩
  | more lead element _ inductionHypothesis =>
      rcases replaces _ _ List.mem_cons_self element with ⟨found, here⟩
      have further := inductionHypothesis fun bytes value member =>
        replaces bytes value (List.mem_cons_of_mem _ member)
      rcases further with ⟨others, further⟩
      exact ⟨found :: others, .more lead here further⟩

theorem Grammar.Elements.replace {Item Other : Type} {item : Bytes -> Item -> Prop}
    {other : Bytes -> Other -> Prop} {bytes : Bytes} {values : List Item}
    (elements : Elements item bytes values)
    (replaces : forall bytes value, value ∈ values -> item bytes value ->
      Exists fun found => other bytes found) :
    Exists fun others => Elements other bytes others := by
  rcases ((run_true_iff _ _).mpr elements).replace replaces with ⟨others, run⟩
  exact ⟨others, (run_true_iff _ _).mp run⟩

/-- Every value that is kept has a form that can be skipped. -/
theorem Grammar.ValueText.skipped {bytes : Bytes} {value : Value}
    (written : ValueText .keep bytes value) :
    Exists fun other => ValueText .skip bytes other := by
  refine ValueText.induct
    (motive := fun bytes _ => Exists fun other => ValueText .skip bytes other) ?_ ?_ ?_ written
  · intro bytes scalar written
    rcases written.skipped with ⟨other, spelled⟩
    exact ⟨_, .scalar spelled⟩
  · intro bytes items elements
    rcases elements.replace fun _ _ _ found => found with ⟨others, further⟩
    exact ⟨_, .list further⟩
  · intro bytes members elements
    have replaces : forall bytes (pair : String × Value),
        Member .keep (fun bytes _ => Exists fun other => ValueText .skip bytes other) bytes pair ->
        Exists fun found => Member .skip (ValueText .skip) bytes found := by
      intro bytes pair written
      cases written with
      | pair name before after value =>
          rcases value with ⟨other, value⟩
          exact ⟨_, .pair name.skipped before after value⟩
    rcases elements.replace fun bytes pair _ => replaces bytes pair with ⟨others, further⟩
    exact ⟨_, .object further⟩

/-! ## A value is longer than it nests deep -/

/-- An element is no longer than all of them together. -/
theorem Run.bounded {Item : Type} {item : Bytes -> Item -> Prop} {first : Bool} {bytes : Bytes}
    {values : List Item} {size : Nat} (run : Run item first bytes values)
    (bound : bytes.length <= size) :
    Run (fun part value => item part value ∧ part.length <= size) first bytes values := by
  induction run with
  | done separators => exact .done separators
  | more lead element _ inductionHypothesis =>
      simp only [List.length_append] at bound
      exact .more lead ⟨element, by omega⟩ (inductionHypothesis (by omega))

theorem Grammar.Elements.bounded {Item : Type} {item : Bytes -> Item -> Prop} {bytes : Bytes}
    {values : List Item} {size : Nat} (elements : Elements item bytes values)
    (bound : bytes.length <= size) :
    Elements (fun part value => item part value ∧ part.length <= size) bytes values :=
  (run_true_iff _ _).mp (((run_true_iff _ _).mpr elements).bounded bound)

theorem Grammar.Member.bounded {Item : Type} {purpose : Purpose} {item : Bytes -> Item -> Prop}
    {bytes : Bytes} {pair : String × Item} {size : Nat} (written : Member purpose item bytes pair)
    (bound : bytes.length <= size) :
    Member purpose (fun part value => item part value ∧ part.length <= size) bytes pair := by
  cases written with
  | pair name before after value =>
      simp only [List.length_append, List.length_cons] at bound
      exact .pair name before after ⟨value, by omega⟩

theorem Grammar.ValueText.nesting_le_length {purpose : Purpose} {bytes : Bytes} {value : Value}
    (written : ValueText purpose bytes value) : value.nesting <= bytes.length := by
  refine ValueText.induct (motive := fun bytes value => value.nesting <= bytes.length)
    ?_ ?_ ?_ written
  · intro bytes scalar written
    exact Nat.zero_le _
  · intro bytes items elements
    have inside : Value.nestingOfItems items <= bytes.length := by
      rw [nestingOfItems_le_iff]
      intro item member
      rcases (elements.bounded (Nat.le_refl _)).exists_of_mem member with ⟨_, bound, shorter⟩
      exact Nat.le_trans bound shorter
    simp only [Value.nesting, List.length_cons, List.length_append]
    omega
  · intro bytes members elements
    have inside : Value.nestingOfMembers members <= bytes.length := by
      rw [nestingOfMembers_le_iff]
      intro pair member
      rcases (elements.bounded (Nat.le_refl _)).exists_of_mem member with ⟨_, written, shorter⟩
      rcases (written.bounded shorter).exists_value with ⟨_, bound, within⟩
      exact Nat.le_trans bound within
    simp only [Value.nesting, List.length_cons, List.length_append]
    omega

/-- A value is skipped when the depth is at least its length. -/
theorem skipValue_append {depth : Nat} {gap bytes rest : Bytes} {value : Value}
    (separators : Gap gap) (written : ValueText .skip bytes value)
    (enough : bytes.length <= depth) (ends : Delimited rest) :
    skipValue depth (gap ++ (bytes ++ rest)) = .ok rest := by
  have shallow : value.nesting <= depth := Nat.le_trans written.nesting_le_length enough
  rw [skipValue, readValue_append separators written shallow fun _ _ => ends]

theorem skipValue_sound {depth : Nat} {input rest : Bytes}
    (skipped : skipValue depth input = .ok rest) :
    Exists fun value => Stands (ValueText .skip) input value rest := by
  rw [skipValue] at skipped
  split at skipped
  · cases skipped
  · next value after read =>
      cases skipped
      exact ⟨value, (readValue_sound read).1⟩

/-! ## What is skipped is kept or refused -/

/-- The causes for which a value that can be skipped may be refused when it is
kept. -/
inductive Limit : Cause -> Prop
  | tooDeep : Limit .tooDeep
  | numberOutOfRange : Limit .numberOutOfRange
  | notUtf8 : Limit .notUtf8
  | loneSurrogate : Limit .loneSurrogate
  | brokenSurrogatePair : Limit .brokenSurrogatePair

/-- A result, or a refusal for one of these causes. -/
def Lenient {Result : Type} (result : Except Cause Result) : Prop :=
  forall cause, result = .error cause -> Limit cause

theorem lenient_ok {Result : Type} (result : Result) : Lenient (.ok result) := by
  intro cause impossible
  cases impossible

theorem lenient_error {Result : Type} {cause : Cause} (limit : Limit cause) :
    Lenient (.error cause : Except Cause Result) := by
  intro other same
  cases same
  exact limit

theorem Lenient.map {Result Other : Type} {result : Except Cause Result}
    (lenient : Lenient result) (wrap : Result -> Other) : Lenient (result.map wrap) := by
  intro cause same
  cases result with
  | error found =>
      cases same
      exact lenient _ rfl
  | ok found => cases same

/-! ## Texts -/

/-- What becomes of an escape that is kept: it is refused, or a shorter passage
is left behind it. -/
inductive Leaves (bytes rest : Bytes) : Outcome Bytes -> Prop
  | refused {fault : Fault} : Limit fault.cause -> Leaves bytes rest (.error fault)
  | passage {plain others : Bytes} :
      Passage others -> others.length < bytes.length ->
      Leaves bytes rest (.ok (plain, others ++ ascii '"' :: rest))

theorem Leaves.mono {bytes longer rest : Bytes} {outcome : Outcome Bytes}
    (leaves : Leaves bytes rest outcome) (less : bytes.length <= longer.length) :
    Leaves longer rest outcome := by
  cases leaves with
  | refused limit => exact .refused limit
  | passage further shorter => exact .passage further (Nat.lt_of_lt_of_le shorter less)

/-- After the first half of a surrogate pair, a passage goes on with the second
half or breaks the pair. -/
theorem readLowSurrogate_leaves (high : Nat) {bytes : Bytes} (passage : Passage bytes)
    (rest : Bytes) :
    Leaves bytes rest (readLowSurrogate high (bytes ++ ascii '"' :: rest)) := by
  cases passage with
  | nothing => exact .refused .brokenSurrogatePair
  | plain _ _ notBackslash _ =>
      simp only [List.cons_append, readLowSurrogate, readPairMark, notBackslash, if_false]
      exact .refused .brokenSurrogatePair
  | short member _ =>
      have notMark := (shortEscapes_letter member).2
      simp only [List.cons_append, readLowSurrogate, readPairMark, notMark, if_true, if_false]
      exact .refused .brokenSurrogatePair
  | @unit digits bytes value unit passage =>
      have read := readCodeUnit_append unit (bytes ++ ascii '"' :: rest)
      by_cases low : isLowSurrogate value = true
      · have paired := readLowSurrogate_append high unit low (bytes ++ ascii '"' :: rest)
        rw [← List.append_assoc] at paired
        rw [List.cons_append, List.cons_append, paired]
        apply Leaves.passage passage
        simp only [List.length_cons, List.length_append]
        omega
      · simp only [List.cons_append, List.append_assoc, readLowSurrogate, readPairMark, read, low,
          if_true, Bool.false_eq_true, if_false]
        exact .refused .loneSurrogate

/-- An escape in a passage is kept, or refused for its surrogates. -/
theorem readEscape_leaves {bytes : Bytes} (passage : Passage (ascii '\\' :: bytes))
    (rest : Bytes) : Leaves bytes rest (readEscape .keep (bytes ++ ascii '"' :: rest)) := by
  cases passage with
  | plain _ _ notBackslash _ => exact absurd rfl notBackslash
  | @short letter character bytes member passage =>
      have escape : Escape .keep [ascii letter] [ascii character] := .short member
      have read := readEscape_append escape (bytes ++ ascii '"' :: rest)
      rw [List.singleton_append] at read
      rw [List.cons_append, read]
      exact .passage passage (Nat.lt_succ_self _)
  | @unit digits bytes value unit passage =>
      have read := readCodeUnit_append unit (bytes ++ ascii '"' :: rest)
      have noShort : plainEscape? (ascii 'u') = none := by decide
      have shorter : bytes.length < (ascii 'u' :: (digits ++ bytes)).length := by
        rw [List.length_cons, List.length_append]
        omega
      by_cases low : isLowSurrogate value = true
      · simp only [List.cons_append, List.append_assoc, readEscape, noShort, read, low, if_true]
        exact .refused .loneSurrogate
      · by_cases high : isHighSurrogate value = true
        · simp only [List.cons_append, List.append_assoc, readEscape, noShort, read, low, high,
            if_true, Bool.false_eq_true, if_false]
          exact (readLowSurrogate_leaves value passage rest).mono (Nat.le_of_lt shorter)
        · simp only [List.cons_append, List.append_assoc, readEscape, noShort, read, low, high,
            if_true, Bool.false_eq_true, if_false]
          exact .passage passage shorter

/-- The content of a passage is kept, or refused for its surrogates. -/
theorem readContent_lenient {size : Nat} {bytes : Bytes} (passage : Passage bytes)
    (bound : bytes.length <= size) (rest : Bytes) (steps before : Bytes)
    (enough : bytes.length < steps.length) :
    Settles Lenient rest (readContent .keep steps before (bytes ++ ascii '"' :: rest)) := by
  -- An escape may take the next one with it, so the induction is on the length.
  induction size generalizing bytes steps before with
  | zero =>
      have none : bytes = [] := List.length_eq_zero_iff.mp (Nat.le_zero.mp bound)
      rw [none]
      cases steps with
      | nil => exact absurd enough (Nat.not_lt_zero _)
      | cons _ steps => exact .read (lenient_ok _)
  | succ size inductionHypothesis =>
      cases steps with
      | nil => exact absurd enough (Nat.not_lt_zero _)
      | cons _ steps =>
          cases bytes with
          | nil => exact .read (lenient_ok _)
          | cons byte bytes =>
              simp only [List.length_cons] at bound enough
              by_cases backslash : byte = ascii '\\'
              · have notQuote : ascii '\\' ≠ ascii '"' := by decide
                rw [backslash] at passage ⊢
                rw [List.cons_append, readContent, if_neg notQuote, if_pos rfl]
                have leaves := readEscape_leaves passage rest
                generalize readEscape .keep (bytes ++ ascii '"' :: rest) = outcome at leaves
                cases leaves with
                | refused limit => exact .refused (lenient_error limit)
                | passage further shorter =>
                    exact inductionHypothesis further (by omega) steps _ (by omega)
              · cases passage with
                | plain printable notQuote _ passage =>
                    have notControl := UInt8.not_lt.mpr printable
                    rw [List.cons_append, readContent, if_neg notQuote, if_neg backslash,
                      if_neg notControl]
                    exact inductionHypothesis passage (by omega) steps _ (by omega)
                | short _ _ => exact absurd rfl backslash
                | unit _ _ => exact absurd rfl backslash

/-- A passage is kept as a text, or refused for its surrogates or its bytes. -/
theorem readText_lenient {bytes : Bytes} (passage : Passage bytes) (rest : Bytes) :
    Settles Lenient rest (readText .keep (bytes ++ ascii '"' :: rest)) := by
  have enough : bytes.length < (bytes ++ ascii '"' :: rest).length := by
    simp only [List.length_append, List.length_cons]
    omega
  have settles := readContent_lenient passage (Nat.le_refl _) rest _ [] enough
  rw [readText]
  rcases (settles_iff _ _ _).mp settles with ⟨content, same, _⟩ | ⟨fault, same, lenient⟩
  · simp only [same]
    cases content.toText? with
    | none =>
        apply Settles.refused
        exact lenient_error .notUtf8
    | some text => exact .read (lenient_ok text)
  · rw [same]
    exact .refused (lenient_error (lenient _ rfl))

/-! ## Values -/

theorem literals_lenient :
    Literals .skip .keep (fun _ result => Lenient result) (fun _ result => Lenient result) where
  text := by
    intro quoted text rest written
    cases written with
    | skipped passage => exact readText_lenient passage rest
  number := by
    intro negative bytes numeral number rest written taken ends
    rcases readNumber_keep_or_refuse written ends with ⟨number, same⟩ | ⟨fault, same, cause⟩
    · rw [same]
      exact .read (lenient_ok number)
    · rw [same]
      refine .refused (lenient_error ?_)
      rw [cause]
      exact .numberOutOfRange

theorem Along.lenient {State Item : Type} {step : State -> Item -> Except Cause State -> Prop}
    {state : State} {items : List Item} {result : Except Cause State}
    (along : Along step state items result)
    (steps : forall state item result, step state item result -> Lenient result) :
    Lenient result := by
  induction along with
  | done => exact lenient_ok _
  | next _ _ inductionHypothesis => exact inductionHypothesis
  | refused holds => exact steps _ _ _ holds

theorem describes_lenient :
    Describes (fun _ result => Lenient result) (fun _ result => Lenient result)
      (fun _ _ result => Lenient result) where
  scalar := by
    intro depth scalar result outcome
    apply Lenient.map
    cases outcome with
    | null => exact lenient_ok _
    | boolean => exact lenient_ok _
    | number lenient => exact lenient.map _
    | text lenient => exact lenient.map _
  listTooDeep := by
    intro items
    exact lenient_error .tooDeep
  objectTooDeep := by
    intro members
    exact lenient_error .tooDeep
  list := by
    intro depth items result along
    apply Lenient.map
    apply along.lenient
    rintro collected item _ ⟨outcome, lenient, rfl⟩
    exact lenient.map _
  object := by
    intro depth members result along
    apply Lenient.map
    apply along.lenient
    rintro collected pair _ ⟨outcome, holds, rfl⟩
    apply Lenient.map
    cases holds with
    | refused lenient => exact lenient_error (lenient _ rfl)
    | read _ lenient => exact lenient.map _

/-- A value that can be skipped is kept at every depth, or refused for one of
the five causes. -/
theorem readValue_lenient (depth : Nat) {gap bytes rest : Bytes} {value : Value}
    (separators : Gap gap) (written : ValueText .skip bytes value) (ends : Ends value rest) :
    Settles Lenient rest (readValue .keep depth (gap ++ (bytes ++ rest))) :=
  readValue_settles literals_lenient describes_lenient depth separators written ends

end Json
end Salutation
