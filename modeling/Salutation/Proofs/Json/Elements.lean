import Salutation.Proofs.Json.Texts

namespace Salutation
namespace Json

open Grammar

/-!
# Loops over elements

A list and an object are read by the same loop, which differs only in how it
decides its next step and in what an element is.  This module states once what
the loop does with the elements of the grammar, and once which inputs it can
come to the end of.

What happens at a single element is left open.  A relation says which outcomes
an element may have after what was read before it, and the loop carries the
relation along the elements until one of them is refused.  An exact reader, a
reader that may refuse for a stated cause and a reader that keeps a record are
then instances of one induction.
-/

/-! ## Gaps -/

theorem skipSeparators_append {gap : Bytes} (separators : Gap gap) (rest : Bytes) :
    Bytes.skipSeparators (gap ++ rest) = Bytes.skipSeparators rest := by
  induction gap with
  | nil => rfl
  | cons byte gap inductionHypothesis =>
      have head : Bytes.isSeparator byte = true := separators byte List.mem_cons_self
      have tail : Gap gap := fun other member => separators other (List.mem_cons_of_mem _ member)
      simp only [List.cons_append, Bytes.skipSeparators, head, if_true]
      exact inductionHypothesis tail

theorem skipSeparators_gap {gap : Bytes} (separators : Gap gap) :
    Bytes.skipSeparators gap = [] := by
  have skipped := skipSeparators_append separators []
  rwa [List.append_nil] at skipped

theorem gap_nil : Gap [] :=
  fun _ member => absurd member List.not_mem_nil

theorem skipSeparators_plain {byte : UInt8} (plain : Bytes.isSeparator byte = false)
    (rest : Bytes) : Bytes.skipSeparators (byte :: rest) = byte :: rest := by
  simp only [Bytes.skipSeparators, plain, Bool.false_eq_true, if_false]

/-- A byte that is no separator ends a gap. -/
theorem skipSeparators_stop {gap : Bytes} {byte : UInt8} (separators : Gap gap)
    (plain : Bytes.isSeparator byte = false) (rest : Bytes) :
    Bytes.skipSeparators (gap ++ byte :: rest) = byte :: rest := by
  rw [skipSeparators_append separators, skipSeparators_plain plain]

theorem skipSeparators_sound (input : Bytes) :
    Exists fun gap => Gap gap ∧ input = gap ++ Bytes.skipSeparators input := by
  induction input with
  | nil => exact ⟨[], gap_nil, rfl⟩
  | cons byte input inductionHypothesis =>
      by_cases separator : Bytes.isSeparator byte = true
      · rcases inductionHypothesis with ⟨gap, separators, split⟩
        refine ⟨byte :: gap, ?_, ?_⟩
        · intro other member
          rcases List.mem_cons.mp member with same | member
          · rw [same]
            exact separator
          · exact separators other member
        · simp only [Bytes.skipSeparators, separator, if_true, List.cons_append]
          rw [← split]
      · rw [Bool.not_eq_true] at separator
        refine ⟨[], gap_nil, ?_⟩
        rw [skipSeparators_plain separator, List.nil_append]

theorem skipSeparators_head {input rest : Bytes} {byte : UInt8}
    (found : Bytes.skipSeparators input = byte :: rest) : Bytes.isSeparator byte = false := by
  induction input with
  | nil => cases found
  | cons first input inductionHypothesis =>
      rw [Bytes.skipSeparators] at found
      split at found
      · exact inductionHypothesis found
      · next plain =>
          cases found
          exact Bool.eq_false_iff.mpr plain

theorem skipSeparators_eq_cons_iff (input rest : Bytes) (byte : UInt8) :
    Bytes.skipSeparators input = byte :: rest ↔
      Bytes.isSeparator byte = false ∧
        Exists fun gap => Gap gap ∧ input = gap ++ byte :: rest := by
  constructor
  · intro found
    rcases skipSeparators_sound input with ⟨gap, separators, split⟩
    rw [found] at split
    exact ⟨skipSeparators_head found, gap, separators, split⟩
  · rintro ⟨plain, gap, separators, rfl⟩
    exact skipSeparators_stop separators plain rest

theorem skipSeparators_eq_nil_iff (input : Bytes) :
    Bytes.skipSeparators input = [] ↔ Gap input := by
  constructor
  · intro found
    rcases skipSeparators_sound input with ⟨gap, separators, split⟩
    rw [found, List.append_nil] at split
    rw [split]
    exact separators
  · exact skipSeparators_gap

/-- The byte that follows a gap is known. -/
theorem first_after_gap {first second : Bytes} {left right : UInt8} {before after : Bytes}
    (leading : Gap first) (trailing : Gap second) (leftPlain : Bytes.isSeparator left = false)
    (rightPlain : Bytes.isSeparator right = false)
    (same : first ++ left :: before = second ++ right :: after) :
    left = right ∧ before = after := by
  have skipped := skipSeparators_stop leading leftPlain before
  rw [same, skipSeparators_stop trailing rightPlain after, List.cons.injEq] at skipped
  exact ⟨skipped.1.symm, skipped.2.symm⟩

theorem Grammar.Gap.append {first second : Bytes} (leading : Gap first) (trailing : Gap second) :
    Gap (first ++ second) := by
  intro byte member
  rcases List.mem_append.mp member with member | member
  · exact leading byte member
  · exact trailing byte member

theorem not_separator_of_not_blank {byte : UInt8} (notBlank : Bytes.isBlank byte = false) :
    Bytes.isSeparator byte = false :=
  (Bool.or_eq_false_iff.mp notBlank).1

theorem separator_not_continuing {byte : UInt8} (separator : Bytes.isSeparator byte = true) :
    continuesNumber byte = false := by
  simp only [Bytes.isSeparator, Bool.or_eq_true, beq_iff_eq] at separator
  rcases separator with ((rfl | rfl) | rfl) | rfl <;> decide

/-- A gap ends whatever is before it. -/
theorem delimited_gap {gap rest : Bytes} (separators : Gap gap) (ends : Delimited rest) :
    Delimited (gap ++ rest) := by
  cases gap with
  | nil => exact ends
  | cons byte gap =>
      exact delimited_cons (separator_not_continuing (separators byte List.mem_cons_self))

/-! ## Runs of elements -/

/-- What stands before an element: a gap before the first one, and a comma
between two gaps before a later one. -/
inductive Lead : Bool -> Bytes -> Prop
  | first {gap : Bytes} : Gap gap -> Lead true gap
  | later {before after : Bytes} :
      Gap before -> Gap after -> Lead false (before ++ ascii ',' :: after)

theorem Lead.append {first : Bool} {lead gap : Bytes} (before : Lead first lead)
    (separators : Gap gap) : Lead first (lead ++ gap) := by
  cases before with
  | first leading => exact .first (leading.append separators)
  | later leading trailing =>
      rw [List.append_assoc, List.cons_append]
      exact .later leading (trailing.append separators)

/-- The elements of a container from the first one or from a later one on. -/
inductive Run {Item : Type} (item : Bytes -> Item -> Prop) : Bool -> Bytes -> List Item -> Prop
  | done {first : Bool} {gap : Bytes} : Gap gap -> Run item first gap []
  | more {first : Bool} {lead bytes rest : Bytes} {value : Item} {values : List Item} :
      Lead first lead -> item bytes value -> Run item false rest values ->
      Run item first (lead ++ (bytes ++ rest)) (value :: values)

section

variable {Item : Type} {item : Bytes -> Item -> Prop}

theorem run_false_iff (bytes : Bytes) (values : List Item) :
    Run item false bytes values ↔ Further item bytes values := by
  constructor
  · intro run
    induction values generalizing bytes with
    | nil =>
        cases run with
        | done gap => exact .done gap
    | cons value values inductionHypothesis =>
        cases run with
        | more lead element others =>
            cases lead with
            | later before after =>
                rw [List.append_assoc, List.cons_append]
                exact .more before after element (inductionHypothesis _ others)
  · intro further
    induction further with
    | done gap => exact .done gap
    | more before after element _ inductionHypothesis =>
        rw [← List.cons_append, ← List.append_assoc]
        exact .more (.later before after) element inductionHypothesis

theorem run_true_iff (bytes : Bytes) (values : List Item) :
    Run item true bytes values ↔ Elements item bytes values := by
  constructor
  · intro run
    cases run with
    | done gap => exact .none gap
    | more lead element others =>
        cases lead with
        | first gap => exact .some gap element ((run_false_iff _ _).mp others)
  · intro elements
    cases elements with
    | none gap => exact .done gap
    | some gap element others =>
        exact .more (.first gap) element ((run_false_iff _ _).mpr others)

/-- Whatever follows an element ends a number. -/
theorem Run.delimited {bytes rest : Bytes} {values : List Item} {closing : UInt8}
    (run : Run item false bytes values) (plain : continuesNumber closing = false) :
    Delimited (bytes ++ closing :: rest) := by
  cases run with
  | done gap => exact delimited_gap gap (delimited_cons plain)
  | more lead _ _ =>
      cases lead with
      | later before after =>
          simp only [List.append_assoc, List.cons_append]
          exact delimited_gap before (delimited_cons (by decide))

/-- A rule for elements can be replaced by a weaker one. -/
theorem Run.mono {other : Bytes -> Item -> Prop} {first : Bool} {bytes : Bytes}
    {values : List Item} (run : Run item first bytes values)
    (weaker : forall bytes value, value ∈ values -> item bytes value -> other bytes value) :
    Run other first bytes values := by
  induction run with
  | done gap => exact .done gap
  | more lead element _ inductionHypothesis =>
      refine .more lead (weaker _ _ List.mem_cons_self element) (inductionHypothesis ?_)
      intro bytes value member
      exact weaker bytes value (List.mem_cons_of_mem _ member)

theorem Run.exists_of_mem {first : Bool} {bytes : Bytes} {values : List Item} {value : Item}
    (run : Run item first bytes values) (member : value ∈ values) :
    Exists fun part => item part value := by
  induction run with
  | done _ => exact absurd member List.not_mem_nil
  | more _ element _ inductionHypothesis =>
      rcases List.mem_cons.mp member with rfl | member
      · exact ⟨_, element⟩
      · exact inductionHypothesis member

/-- Every element stands somewhere. -/
theorem Grammar.Elements.exists_of_mem {bytes : Bytes} {values : List Item} {value : Item}
    (elements : Elements item bytes values) (member : value ∈ values) :
    Exists fun part => item part value :=
  ((run_true_iff _ _).mpr elements).exists_of_mem member

theorem Grammar.Elements.mono {other : Bytes -> Item -> Prop} {bytes : Bytes}
    {values : List Item} (elements : Elements item bytes values)
    (weaker : forall bytes value, value ∈ values -> item bytes value -> other bytes value) :
    Elements other bytes values := by
  rw [← run_true_iff] at elements ⊢
  exact elements.mono weaker

theorem Grammar.Member.mono {purpose : Purpose} {other : Bytes -> Item -> Prop} {bytes : Bytes}
    {pair : String × Item} (written : Member purpose item bytes pair)
    (weaker : forall bytes, item bytes pair.2 -> other bytes pair.2) :
    Member purpose other bytes pair := by
  cases written with
  | pair name before after value => exact .pair name before after (weaker _ value)

theorem Grammar.Member.exists_value {purpose : Purpose} {bytes : Bytes} {pair : String × Item}
    (written : Member purpose item bytes pair) : Exists fun part => item part pair.2 := by
  cases written with
  | pair _ _ _ value => exact ⟨_, value⟩

end

/-- An element stands next in an input, after a gap, and the rest follows it. -/
def Stands {Item : Type} (item : Bytes -> Item -> Prop) (input : Bytes) (value : Item)
    (rest : Bytes) : Prop :=
  Exists fun gap => Exists fun bytes =>
    Gap gap ∧ input = gap ++ (bytes ++ rest) ∧ item bytes value

/-! ## What an element may come to -/

/-- An outcome of a reader that ends at a given place when it succeeds.  The
predicate says which results and which causes it may have. -/
inductive Settles {Result : Type} (allowed : Except Cause Result -> Prop) (rest : Bytes) :
    Outcome Result -> Prop
  | read {result : Result} : allowed (.ok result) -> Settles allowed rest (.ok (result, rest))
  | refused {fault : Fault} : allowed (.error fault.cause) -> Settles allowed rest (.error fault)

/-- The outcomes of a sequence of elements, when each of them is read after
what was read before it and the first one that is refused ends the reading. -/
inductive Along {State Item : Type} (step : State -> Item -> Except Cause State -> Prop) :
    State -> List Item -> Except Cause State -> Prop
  | done {state : State} : Along step state [] (.ok state)
  | next {state later : State} {item : Item} {items : List Item} {result : Except Cause State} :
      step state item (.ok later) -> Along step later items result ->
      Along step state (item :: items) result
  | refused {state : State} {item : Item} {items : List Item} {cause : Cause} :
      step state item (.error cause) -> Along step state (item :: items) (.error cause)

theorem Along.mono {State Item : Type} {step other : State -> Item -> Except Cause State -> Prop}
    {state : State} {items : List Item} {result : Except Cause State}
    (along : Along step state items result)
    (weaker : forall state item result, item ∈ items -> step state item result ->
      other state item result) : Along other state items result := by
  induction along with
  | done => exact .done
  | next holds _ inductionHypothesis =>
      refine .next (weaker _ _ _ List.mem_cons_self holds) (inductionHypothesis ?_)
      intro state item result member
      exact weaker state item result (List.mem_cons_of_mem _ member)
  | refused holds => exact .refused (weaker _ _ _ List.mem_cons_self holds)

theorem Settles.mono {Result : Type} {allowed other : Except Cause Result -> Prop} {rest : Bytes}
    {outcome : Outcome Result} (settles : Settles allowed rest outcome)
    (weaker : forall result, allowed result -> other result) : Settles other rest outcome := by
  cases settles with
  | read holds => exact .read (weaker _ holds)
  | refused holds => exact .refused (weaker _ holds)

theorem settles_iff {Result : Type} (allowed : Except Cause Result -> Prop) (rest : Bytes)
    (outcome : Outcome Result) :
    Settles allowed rest outcome ↔
      (Exists fun result => outcome = .ok (result, rest) ∧ allowed (.ok result)) ∨
      (Exists fun fault => outcome = .error fault ∧ allowed (.error fault.cause)) := by
  constructor
  · intro settles
    cases settles with
    | read holds => exact .inl ⟨_, rfl, holds⟩
    | refused holds => exact .inr ⟨_, rfl, holds⟩
  · rintro (⟨result, rfl, holds⟩ | ⟨fault, rfl, holds⟩)
    · exact .read holds
    · exact .refused holds

/-- A reader that fails with another one, and otherwise wraps what that one
finds, is settled with it. -/
theorem Settles.map {Result Other : Type} {allowed : Except Cause Result -> Prop}
    {wrapped : Except Cause Other -> Prop} {rest : Bytes} {inner : Outcome Result}
    {outer : Outcome Other} {wrap : Result -> Other} (settles : Settles allowed rest inner)
    (refuses : forall fault, inner = .error fault -> outer = .error fault)
    (reads : forall result after, inner = .ok (result, after) -> outer = .ok (wrap result, after))
    (holds : forall result, allowed result -> wrapped (result.map wrap)) :
    Settles wrapped rest outer := by
  cases settles with
  | read accepted =>
      rw [reads _ _ rfl]
      exact .read (holds _ accepted)
  | refused accepted =>
      rw [refuses _ rfl]
      exact .refused (holds _ accepted)

/-- An outcome that can only be one result is that result. -/
theorem settles_eq_iff {Result : Type} (result : Result) (rest : Bytes)
    (outcome : Outcome Result) :
    Settles (fun found => found = .ok result) rest outcome ↔ outcome = .ok (result, rest) := by
  constructor
  · intro settles
    cases settles with
    | read same =>
        cases same
        rfl
    | refused impossible => cases impossible
  · rintro rfl
    exact .read rfl

/-- One more element for those collected, when the element may have the
outcomes that are allowed. -/
def Collects {Item : Type} (allowed : Item -> Except Cause Item -> Prop) (collected : List Item)
    (item : Item) (result : Except Cause (List Item)) : Prop :=
  Exists fun outcome =>
    allowed item outcome ∧ result = outcome.map (fun found => found :: collected)

/-- Elements that are all read exactly come out in reverse. -/
theorem Along.collected {Item : Type} {items collected : List Item}
    {result : Except Cause (List Item)}
    (along : Along (Collects fun item outcome => outcome = .ok item) collected items result) :
    result = .ok (items.reverse ++ collected) := by
  induction along with
  | done => rfl
  | next step _ inductionHypothesis =>
      rcases step with ⟨_, rfl, same⟩
      cases same
      rw [inductionHypothesis, List.reverse_cons, List.append_assoc, List.singleton_append]
  | refused step =>
      rcases step with ⟨_, rfl, impossible⟩
      cases impossible

/-! ## The loop -/

section

variable {State Item : Type} {item : Bytes -> Item -> Prop} {closing : UInt8} {ending : Cause}
variable {next : Bool -> Bytes -> Except Fault Step} {element : State -> Reader State}
variable {step : State -> Item -> Except Cause State -> Prop}

/-- The loop goes through all elements of the grammar, or is stopped by one
that is refused, when every element of the grammar is either read or refused. -/
theorem readElements_settles
    (closes : forall first gap rest, Gap gap ->
      next first (gap ++ closing :: rest) = .ok (.close rest))
    (goesOn : forall first lead bytes value state rest,
      Lead first lead -> item bytes value -> Delimited rest ->
      bytes ≠ [] ∧ Exists fun inside =>
        next first (lead ++ (bytes ++ rest)) = .ok (.element inside) ∧
        Settles (step state value) rest (element state inside))
    (plain : continuesNumber closing = false) {first : Bool} {bytes : Bytes} {values : List Item}
    (run : Run item first bytes values) (steps : Bytes) (enough : bytes.length < steps.length)
    (state : State) (rest : Bytes) :
    Settles (Along step state values) rest
      (readElements next ending element steps first state (bytes ++ closing :: rest)) := by
  -- Each turn of the loop uses up one step and at least one byte.
  induction run generalizing steps state with
  | done gap =>
      cases steps with
      | nil => exact absurd enough (Nat.not_lt_zero _)
      | cons _ steps =>
          rw [readElements, closes _ _ _ gap]
          exact .read .done
  | @more first lead bytes others value values before written run inductionHypothesis =>
      cases steps with
      | nil => exact absurd enough (Nat.not_lt_zero _)
      | cons _ steps =>
          rcases goesOn first lead bytes value state (others ++ closing :: rest) before written
            (run.delimited plain) with ⟨nonempty, inside, decided, settles⟩
          have shorter : others.length < steps.length := by
            have positive := List.length_pos_iff.mpr nonempty
            simp only [List.length_append, List.length_cons] at enough
            omega
          rw [readElements, List.append_assoc, List.append_assoc, decided]
          rcases (settles_iff _ _ _).mp settles with ⟨later, same, holds⟩ | ⟨fault, same, holds⟩
          · simp only [same]
            exact (inductionHypothesis steps shorter later).mono fun _ along => .next holds along
          · simp only [same]
            exact .refused (.refused holds)

/-- The loop comes to an end only on elements of the grammar. -/
theorem readElements_sound
    (closes : forall first input rest, next first input = .ok (.close rest) ->
      Exists fun gap => Gap gap ∧ input = gap ++ closing :: rest)
    (goesOn : forall first input inside state later rest,
      next first input = .ok (.element inside) -> element state inside = .ok (later, rest) ->
      Exists fun lead => Exists fun bytes => Exists fun value =>
        Lead first lead ∧ input = lead ++ (bytes ++ rest) ∧ item bytes value ∧
        step state value (.ok later))
    (steps : Bytes) {first : Bool} {state final : State} {input rest : Bytes}
    (found : readElements next ending element steps first state input = .ok (final, rest)) :
    Exists fun bytes => Exists fun values =>
      input = bytes ++ closing :: rest ∧ Run item first bytes values ∧
      Along step state values (.ok final) := by
  induction steps generalizing first state input with
  | nil => cases found
  | cons _ steps inductionHypothesis =>
      rw [readElements] at found
      split at found
      · cases found
      · next after decided =>
          cases found
          rcases closes _ _ _ decided with ⟨gap, separators, split⟩
          exact ⟨gap, [], split, .done separators, .done⟩
      · next inside decided =>
          split at found
          · cases found
          · next later after continued =>
              rcases goesOn _ _ _ _ _ _ decided continued with
                ⟨lead, bytes, value, before, split, written, holds⟩
              rcases inductionHypothesis found with ⟨others, values, tail, run, along⟩
              refine ⟨lead ++ (bytes ++ others), value :: values, ?_, .more before written run,
                .next holds along⟩
              rw [split, tail, List.append_assoc, List.append_assoc]

end

/-! ## Lists -/

theorem nextItem_close (purpose : Purpose) (first : Bool) {gap : Bytes} (rest : Bytes)
    (separators : Gap gap) :
    nextItem purpose first (gap ++ ascii ']' :: rest) = .ok (.close rest) := by
  rw [nextItem, skipSeparators_stop separators (by decide)]
  simp only [if_true]

theorem nextItem_element (purpose : Purpose) {first : Bool} {lead : Bytes} {byte : UInt8}
    (rest : Bytes) (before : Lead first lead) (plain : Bytes.isSeparator byte = false)
    (inside : byte ≠ ascii ']') :
    nextItem purpose first (lead ++ byte :: rest) = .ok (.element (byte :: rest)) := by
  cases before with
  | first gap =>
      rw [nextItem, skipSeparators_stop gap plain]
      simp only [inside, if_true, if_false]
  | later leading trailing =>
      have comma : ascii ',' ≠ ascii ']' := by decide
      rw [List.append_assoc, List.cons_append, nextItem, skipSeparators_stop leading (by decide)]
      simp only [comma, inside, skipSeparators_stop trailing plain, Bool.false_eq_true, if_true,
        if_false]

/-- Whatever a list goes on with, it has passed over a closing bracket or over
all that stands before an item. -/
theorem nextItem_sound {purpose : Purpose} {first : Bool} {input : Bytes} {decision : Step}
    (decided : nextItem purpose first input = .ok decision) :
    (Exists fun gap => Exists fun rest =>
      Gap gap ∧ input = gap ++ ascii ']' :: rest ∧ decision = .close rest) ∨
    (Exists fun lead => Exists fun rest =>
      Lead first lead ∧ input = lead ++ rest ∧ decision = .element rest) := by
  rw [nextItem] at decided
  split at decided
  · cases decided
  · next byte rest skipped =>
      rcases (skipSeparators_eq_cons_iff _ _ _).mp skipped with ⟨_, gap, separators, rfl⟩
      split at decided
      · next closing =>
          cases decided
          rw [closing]
          exact .inl ⟨gap, rest, separators, rfl, rfl⟩
      split at decided
      · next isFirst =>
          cases decided
          cases isFirst
          exact .inr ⟨gap, byte :: rest, .first separators, rfl, rfl⟩
      split at decided
      · next isLater comma =>
          rw [Bool.not_eq_true] at isLater
          cases isLater
          rw [comma]
          split at decided
          · cases decided
          · next second after skipped =>
              rcases (skipSeparators_eq_cons_iff _ _ _).mp skipped with ⟨_, trailing, others, rfl⟩
              split at decided
              · cases purpose <;> cases decided
              · cases decided
                refine .inr ⟨gap ++ ascii ',' :: trailing, second :: after,
                  .later separators others, ?_, rfl⟩
                rw [List.append_assoc, List.cons_append]
      · cases decided

section

variable {purpose : Purpose} {value : Reader Value} {item : Bytes -> Value -> Prop}

/-- A value of the grammar can be told from a gap and from the end of a list
by its first byte. -/
def Starts (bytes : Bytes) : Prop :=
  Exists fun byte => Exists fun rest =>
    bytes = byte :: rest ∧ Bytes.isBlank byte = false ∧ byte ≠ ascii ']'

/-- A list of the grammar is read to its end, or to an item that is refused. -/
theorem readItems_settles (purpose : Purpose) {allowed : Value -> Except Cause Value -> Prop}
    (starts : forall bytes found, item bytes found -> Starts bytes)
    (settles : forall bytes found rest, item bytes found -> Delimited rest ->
      Settles (allowed found) rest (value (bytes ++ rest)))
    {bytes : Bytes} {items : List Value} (written : Elements item bytes items) (rest : Bytes) :
    Settles (fun result => Exists fun collected =>
        Along (Collects allowed) [] items collected ∧ result = collected.map List.reverse)
      rest (readItems purpose value (bytes ++ ascii ']' :: rest)) := by
  have goesOn : forall first lead bytes found collected rest,
      Lead first lead -> item bytes found -> Delimited rest ->
      bytes ≠ [] ∧ Exists fun inside =>
        nextItem purpose first (lead ++ (bytes ++ rest)) = .ok (.element inside) ∧
        Settles (Collects allowed collected found) rest (readItem value collected inside) := by
    intro first lead bytes found collected rest before element ends
    have settled := settles bytes found rest element ends
    rcases starts bytes found element with ⟨byte, others, rfl, notBlank, inside⟩
    have plain := not_separator_of_not_blank notBlank
    refine ⟨List.cons_ne_nil _ _, byte :: (others ++ rest),
      nextItem_element purpose _ before plain inside, ?_⟩
    apply settled.map
    · intro fault same
      rw [readItem, ← List.cons_append, same]
    · intro result after same
      rw [readItem, ← List.cons_append, same]
    · intro result holds
      exact ⟨result, holds, rfl⟩
  have enough : bytes.length < (bytes ++ ascii ']' :: rest).length := by
    simp only [List.length_append, List.length_cons]
    omega
  have along : Settles (Along (Collects allowed) [] items) rest
      (readElements (nextItem purpose) .endInList (readItem value) (bytes ++ ascii ']' :: rest)
        true [] (bytes ++ ascii ']' :: rest)) :=
    readElements_settles (fun first gap rest => nextItem_close purpose first rest) goesOn
      (by decide) ((run_true_iff _ _).mpr written) _ enough [] rest
  apply along.map
  · intro fault same
    rw [readItems, same]
  · intro result after same
    rw [readItems, same]
  · intro result holds
    exact ⟨result, holds, rfl⟩

/-- Only lists of the grammar are read, when only values of the grammar are. -/
theorem readItems_sound
    (sound : forall input found rest, value input = .ok (found, rest) ->
      Stands item input found rest)
    {input rest : Bytes} {items : List Value}
    (found : readItems purpose value input = .ok (items, rest)) :
    Exists fun bytes => input = bytes ++ ascii ']' :: rest ∧ Elements item bytes items := by
  have closes : forall first input rest, nextItem purpose first input = .ok (.close rest) ->
      Exists fun gap => Gap gap ∧ input = gap ++ ascii ']' :: rest := by
    intro first input rest decided
    rcases nextItem_sound decided with ⟨gap, _, separators, split, same⟩ | ⟨_, _, _, _, no⟩
    · cases same
      exact ⟨gap, separators, split⟩
    · cases no
  have goesOn : forall first input inside collected later rest,
      nextItem purpose first input = .ok (.element inside) ->
      readItem value collected inside = .ok (later, rest) ->
      Exists fun lead => Exists fun bytes => Exists fun found =>
        Lead first lead ∧ input = lead ++ (bytes ++ rest) ∧ item bytes found ∧
        Collects (fun item outcome => outcome = .ok item) collected found (.ok later) := by
    intro first input inside collected later rest decided continued
    rcases nextItem_sound decided with ⟨_, _, _, _, no⟩ | ⟨lead, _, before, split, same⟩
    · cases no
    · cases same
      rw [readItem] at continued
      split at continued
      · cases continued
      · next element after read =>
          cases continued
          rcases sound _ _ _ read with ⟨gap, bytes, separators, others, written⟩
          refine ⟨lead ++ gap, bytes, element, before.append separators, ?_, written, _, rfl, rfl⟩
          rw [split, others, List.append_assoc]
  rw [readItems] at found
  split at found
  · cases found
  · next collected after read =>
      cases found
      rcases readElements_sound closes goesOn _ read with ⟨bytes, items, split, run, along⟩
      have same := along.collected
      rw [List.append_nil, Except.ok.injEq] at same
      rw [same, List.reverse_reverse]
      exact ⟨bytes, split, (run_true_iff _ _).mp run⟩

end

/-! ## Objects -/

theorem nextKey_close (purpose : Purpose) (first : Bool) {gap : Bytes} (rest : Bytes)
    (separators : Gap gap) :
    nextKey purpose first (gap ++ ascii '\x7d' :: rest) = .ok (.close rest) := by
  unfold nextKey
  rw [skipSeparators_stop separators (by decide)]
  simp only [if_true]

theorem nextKey_element (purpose : Purpose) {first : Bool} {lead : Bytes} (rest : Bytes)
    (before : Lead first lead) :
    nextKey purpose first (lead ++ ascii '"' :: rest) = .ok (.element rest) := by
  have key : ascii '"' ≠ ascii '\x7d' := by decide
  cases before with
  | first gap =>
      unfold nextKey
      rw [skipSeparators_stop gap (by decide)]
      simp only [key, if_true, if_false]
  | later leading trailing =>
      have comma : ascii ',' ≠ ascii '\x7d' := by decide
      unfold nextKey
      rw [List.append_assoc, List.cons_append, skipSeparators_stop leading (by decide)]
      simp only [comma, skipSeparators_stop trailing (show Bytes.isSeparator (ascii '"') = false by
        decide), Bool.false_eq_true, if_true, if_false]

/-- Whatever an object goes on with, it has passed over a closing bracket or
over all that stands before a key, its opening quote included. -/
theorem nextKey_sound {purpose : Purpose} {first : Bool} {input : Bytes} {decision : Step}
    (decided : nextKey purpose first input = .ok decision) :
    (Exists fun gap => Exists fun rest =>
      Gap gap ∧ input = gap ++ ascii '\x7d' :: rest ∧ decision = .close rest) ∨
    (Exists fun lead => Exists fun rest =>
      Lead first lead ∧ input = lead ++ ascii '"' :: rest ∧ decision = .element rest) := by
  unfold nextKey at decided
  split at decided
  · cases decided
  · next byte rest skipped =>
      rcases (skipSeparators_eq_cons_iff _ _ _).mp skipped with ⟨_, gap, separators, rfl⟩
      split at decided
      · next closing =>
          cases decided
          rw [closing]
          exact .inl ⟨gap, rest, separators, rfl, rfl⟩
      split at decided
      · next isFirst =>
          cases isFirst
          split at decided
          · next quote =>
              cases decided
              rw [quote]
              exact .inr ⟨gap, rest, .first separators, rfl, rfl⟩
          · cases decided
      split at decided
      · next isLater comma =>
          rw [Bool.not_eq_true] at isLater
          cases isLater
          rw [comma]
          split at decided
          · cases purpose <;> cases decided
          · next second after skipped =>
              rcases (skipSeparators_eq_cons_iff _ _ _).mp skipped with ⟨_, trailing, others, rfl⟩
              split at decided
              · next quote =>
                  cases decided
                  rw [quote]
                  refine .inr ⟨gap ++ ascii ',' :: trailing, after,
                    .later separators others, ?_, rfl⟩
                  rw [List.append_assoc, List.cons_append]
              split at decided
              · cases purpose <;> cases decided
              · cases decided
      · cases decided

theorem readColon_append {gap : Bytes} (rest : Bytes) (separators : Gap gap) :
    readColon (gap ++ ascii ':' :: rest) = .ok rest := by
  rw [readColon, skipSeparators_stop separators (by decide)]
  simp only [if_true]

theorem readColon_sound {input rest : Bytes} (found : readColon input = .ok rest) :
    Exists fun gap => Gap gap ∧ input = gap ++ ascii ':' :: rest := by
  rw [readColon] at found
  split at found
  · cases found
  · next byte after skipped =>
      rcases (skipSeparators_eq_cons_iff _ _ _).mp skipped with ⟨_, gap, separators, rfl⟩
      split at found
      · next colon =>
          cases found
          rw [colon]
          exact ⟨gap, separators, rfl⟩
      · cases found

section

variable {State Item : Type} {purpose written : Purpose} {member : MemberReader State}
variable {item : Bytes -> Item -> Prop}
variable {step : State -> String × Item -> Except Cause State -> Prop}

/-- An object of the grammar is read to its end, or to a member that is
refused. -/
theorem readMembers_settles
    (settles : forall state quoted key before after bytes value rest,
      Quoted written quoted key -> Gap before -> Gap after -> item bytes value ->
      Delimited rest ->
      Settles (step state (key, value)) rest (readMember purpose member state
        (quoted ++ ascii '"' :: (before ++ ascii ':' :: (after ++ (bytes ++ rest))))))
    {bytes : Bytes} {members : List (String × Item)}
    (elements : Elements (Member written item) bytes members) (state : State) (rest : Bytes) :
    Settles (Along step state members) rest
      (readMembers purpose member state (bytes ++ ascii '\x7d' :: rest)) := by
  have goesOn : forall first lead bytes pair state rest,
      Lead first lead -> Member written item bytes pair -> Delimited rest ->
      bytes ≠ [] ∧ Exists fun inside =>
        nextKey purpose first (lead ++ (bytes ++ rest)) = .ok (.element inside) ∧
        Settles (step state pair) rest (readMember purpose member state inside) := by
    intro first lead bytes pair state rest before element ends
    cases element with
    | pair name leading trailing value =>
        cases name with
        | quoted spelled =>
            refine ⟨List.cons_ne_nil _ _, _, ?_, settles _ _ _ _ _ _ _ rest spelled leading
              trailing value ends⟩
            rw [← nextKey_element purpose _ before]
            simp only [List.append_assoc, List.cons_append, List.nil_append]
  have enough : bytes.length < (bytes ++ ascii '\x7d' :: rest).length := by
    simp only [List.length_append, List.length_cons]
    omega
  rw [readMembers]
  exact readElements_settles (fun first gap rest => nextKey_close purpose first rest) goesOn
    (by decide) ((run_true_iff _ _).mpr elements) _ enough state rest

/-- Only objects of the grammar are read, when only members of the grammar
are. -/
theorem readMembers_sound {state final : State} {input rest : Bytes}
    (found : readMembers purpose member state input = .ok (final, rest))
    (sound : forall state key input later rest, member state key input = .ok (later, rest) ->
      Exists fun before => Exists fun after => Exists fun bytes => Exists fun value =>
        Gap before ∧ Gap after ∧ input = before ++ ascii ':' :: (after ++ (bytes ++ rest)) ∧
        item bytes value ∧ step state (key, value) (.ok later)) :
    Exists fun bytes => Exists fun members =>
      input = bytes ++ ascii '\x7d' :: rest ∧ Elements (Member purpose item) bytes members ∧
      Along step state members (.ok final) := by
  have closes : forall first input rest, nextKey purpose first input = .ok (.close rest) ->
      Exists fun gap => Gap gap ∧ input = gap ++ ascii '\x7d' :: rest := by
    intro first input rest decided
    rcases nextKey_sound decided with ⟨gap, _, separators, split, same⟩ | ⟨_, _, _, _, no⟩
    · cases same
      exact ⟨gap, separators, split⟩
    · cases no
  have goesOn : forall first input inside state later rest,
      nextKey purpose first input = .ok (.element inside) ->
      readMember purpose member state inside = .ok (later, rest) ->
      Exists fun lead => Exists fun bytes => Exists fun pair =>
        Lead first lead ∧ input = lead ++ (bytes ++ rest) ∧ Member purpose item bytes pair ∧
        step state pair (.ok later) := by
    intro first input inside state later rest decided continued
    rcases nextKey_sound decided with ⟨_, _, _, _, no⟩ | ⟨lead, _, leading, split, same⟩
    · cases no
    · cases same
      rw [readMember] at continued
      split at continued
      · cases continued
      · next key after read =>
          rcases readText_sound read with ⟨quoted, others, spelled⟩
          rcases sound _ _ _ _ _ continued with
            ⟨before, after, bytes, value, first, second, remaining, written, holds⟩
          refine ⟨lead, _, (key, value), leading, ?_,
            .pair (.quoted spelled) first second written, holds⟩
          rw [split, others, remaining]
          simp only [List.append_assoc, List.cons_append, List.nil_append]
  rw [readMembers] at found
  rcases readElements_sound closes goesOn _ found with ⟨bytes, members, split, run, along⟩
  exact ⟨bytes, members, split, (run_true_iff _ _).mp run, along⟩

end

end Json
end Salutation
