import Salutation.Proofs.Json.Records

namespace Salutation
namespace Json

open Grammar

/-!
# Fields of a record

The value of a field is a natural number or a truth value.  Its reader takes
any scalar and then looks at what it has, so that the texts it accepts are
those of the scalars with a value of the wanted kind.  Among the number
literals these are the ones without sign, fraction and exponent that fit 64
bits.

What a member holds is not known before its key is.  Members are therefore
described by the bytes of their values, which can be skipped in any case.
-/

namespace Grammar

/-- A value that can be skipped, taken as its own bytes. -/
inductive RawText : Bytes -> Bytes -> Prop
  | value {bytes : Bytes} {value : Value} : ValueText .skip bytes value -> RawText bytes bytes

/-- A whole number without a sign that fits 64 bits. -/
inductive NaturalText : Bytes -> Nat -> Prop
  | digits {bytes : Bytes} {digits : List Nat} :
      Whole bytes digits -> Numeral.digitsValue digits < Nat.pow 2 64 ->
      NaturalText bytes (Numeral.digitsValue digits)

/-- A truth value. -/
inductive TruthText : Bytes -> Bool -> Prop
  | true : TruthText (Bytes.ofText "true") true
  | false : TruthText (Bytes.ofText "false") false

end Grammar

theorem Grammar.RawText.starts {bytes raw : Bytes} (written : RawText bytes raw) :
    Starts bytes := by
  cases written with
  | value written => exact written.starts

/-! ## Scalars of the wanted kind -/

/-- A literal denotes a natural number when it consists of nothing but the
digits of one that fits. -/
theorem integer?_eq_natural_iff (numeral : Numeral) (value : Nat) :
    numeral.integer? = some (.ofNat value) ↔
      Exists fun digits => numeral = ⟨false, digits, none, none⟩ ∧
        Numeral.digitsValue digits < Nat.pow 2 64 ∧ value = Numeral.digitsValue digits := by
  constructor
  · intro found
    rcases numeral with ⟨negative, digits, fraction, exponent⟩
    unfold Numeral.integer? at found
    split at found
    · next noFraction noExponent =>
        cases noFraction
        cases noExponent
        cases negative with
        | true =>
            simp only [if_true, Bool.and_eq_true, decide_eq_true_eq] at found
            split at found
            · next bounds =>
                simp only [Option.some.injEq, Int.ofNat_eq_natCast] at found
                omega
            · cases found
        | false =>
            simp only [Bool.false_eq_true, if_false] at found
            split at found
            · next small =>
                simp only [Option.some.injEq, Int.ofNat_eq_natCast, Int.natCast_inj] at found
                exact ⟨digits, rfl, small, found.symm⟩
            · cases found
    · cases found
  · rintro ⟨digits, rfl, small, rfl⟩
    simp only [Numeral.integer?, Bool.false_eq_true, if_false]
    exact if_pos small

/-- No real number is an integer. -/
theorem real?_ne_integer (negative : Bool) (significand : Nat) (power value : Int) :
    Numeral.real? negative significand power ≠ some (.integer value) := by
  intro found
  rw [Numeral.real?, Option.map_eq_some_iff] at found
  rcases found with ⟨_, _, impossible⟩
  cases impossible

theorem scalarText_natural_iff (bytes : Bytes) (value : Nat) :
    ScalarText .keep bytes (.number (.integer (.ofNat value))) ↔ NaturalText bytes value := by
  constructor
  · intro written
    cases written with
    | number written =>
        cases written with
        | literal literal taken =>
            cases taken with
            | kept denotes =>
                cases denotes with
                | real _ _ found => exact absurd found (real?_ne_integer _ _ _ _)
                | integer found =>
                    rcases (integer?_eq_natural_iff _ _).mp found with ⟨digits, rfl, small, rfl⟩
                    cases literal with
                    | positive unsigned =>
                        cases unsigned with
                        | parts whole fraction exponent =>
                            cases fraction
                            cases exponent
                            simp only [List.append_nil]
                            exact .digits whole small
                    | negative unsigned => cases unsigned
  · intro written
    cases written with
    | @digits digits whole small =>
        have unsigned : Unsigned false _ ⟨false, digits, none, none⟩ :=
          .parts whole .absent .absent
        rw [List.append_nil, List.append_nil] at unsigned
        have found := (integer?_eq_natural_iff ⟨false, digits, none, none⟩ _).mpr
          ⟨digits, rfl, small, rfl⟩
        exact .number (.literal (.positive unsigned) (.kept (.integer found)))

theorem scalarText_truth_iff (bytes : Bytes) (value : Bool) :
    ScalarText .keep bytes (.boolean value) ↔ TruthText bytes value := by
  constructor
  · intro written
    cases written with
    | true => exact .true
    | false => exact .false
  · intro written
    cases written with
    | true => exact .true
    | false => exact .false

theorem Grammar.NaturalText.lt {bytes : Bytes} {value : Nat} (written : NaturalText bytes value) :
    value < Nat.pow 2 64 := by
  cases written with
  | digits _ small => exact small

theorem Grammar.NaturalText.raw {bytes : Bytes} {value : Nat} (written : NaturalText bytes value) :
    RawText bytes bytes := by
  rcases ((scalarText_natural_iff _ _).mpr written).skipped with ⟨other, skipped⟩
  exact .value (.scalar skipped)

theorem Grammar.TruthText.raw {bytes : Bytes} {value : Bool} (written : TruthText bytes value) :
    RawText bytes bytes := by
  rcases ((scalarText_truth_iff _ _).mpr written).skipped with ⟨other, skipped⟩
  exact .value (.scalar skipped)

/-! ## The readers of fields -/

/-- What the bytes of a value come to when they are read in accordance with a
rule for such values. -/
def Reads {Result : Type} (text : Bytes -> Result -> Prop) (raw : Bytes)
    (result : Except Cause Result) : Prop :=
  forall value, result = .ok value ↔ text raw value

theorem reads_error_iff {Result : Type} (text : Bytes -> Result -> Prop) (raw : Bytes)
    (cause : Cause) : Reads text raw (.error cause) ↔ forall value, ¬ text raw value := by
  constructor
  · intro reads value written
    cases (reads value).mpr written
  · intro none value
    constructor
    · intro impossible
      cases impossible
    · exact fun written => absurd written (none value)

theorem reads_ok {Result : Type} {text : Bytes -> Result -> Prop} {raw : Bytes} {value : Result}
    (written : text raw value) (unique : forall other, text raw other -> other = value) :
    Reads text raw (.ok value) := by
  intro other
  constructor
  · rintro ⟨⟩
    exact written
  · intro found
    rw [unique other found]

/-- What is made of a value is read when the value is. -/
theorem Reads.map {Result Other : Type} {text : Bytes -> Result -> Prop} {raw : Bytes}
    {result : Except Cause Result} (reads : Reads text raw result) (wrap : Result -> Other) :
    Reads (fun raw other => Exists fun value => text raw value ∧ wrap value = other) raw
      (result.map wrap) := by
  cases result with
  | error cause =>
      refine (reads_error_iff _ _ _).mpr ?_
      rintro other ⟨value, written, _⟩
      exact (reads_error_iff _ _ _).mp reads value written
  | ok value =>
      refine reads_ok ⟨value, (reads value).mp rfl, rfl⟩ ?_
      rintro _ ⟨other, written, rfl⟩
      rw [Except.ok.inj ((reads other).mpr written)]

/-- A reader that reads exactly what is written, and nothing else. -/
theorem Settles.reads {Result : Type} {allowed : Except Cause Result -> Prop}
    {text : Bytes -> Result -> Prop} {raw rest : Bytes} {outcome : Outcome Result}
    (settles : Settles allowed rest outcome)
    (exact : forall value, text raw value -> outcome = .ok (value, rest))
    (sound : forall value, outcome = .ok (value, rest) -> text raw value) :
    Settles (fun result => allowed result ∧ Reads text raw result) rest outcome := by
  cases settles with
  | read holds =>
      refine .read ⟨holds, reads_ok (sound _ rfl) ?_⟩
      intro other written
      have same := exact other written
      cases same
      rfl
  | refused holds =>
      refine .refused ⟨holds, (reads_error_iff _ _ _).mpr ?_⟩
      intro value written
      cases exact value written

/-- What a reader settles has one value at most. -/
theorem Settles.unique {Result : Type} {text : Bytes -> Result -> Prop} {raw rest : Bytes}
    {outcome : Outcome Result} (settles : Settles (Reads text raw) rest outcome)
    {first second : Result} (written : text raw first) (other : text raw second) :
    first = second := by
  cases settles with
  | read reads =>
      have same := (reads first).mpr written
      rw [(reads second).mpr other] at same
      cases same
      rfl
  | refused reads => cases (reads first).mpr written

/-- What is written is read. -/
theorem Settles.eq_ok {Result : Type} {text : Bytes -> Result -> Prop} {raw rest : Bytes}
    {outcome : Outcome Result} (settles : Settles (Reads text raw) rest outcome) {value : Result}
    (written : text raw value) : outcome = .ok (value, rest) := by
  rw [← settles_eq_iff]
  exact settles.mono fun result reads => (reads value).mpr written

theorem readScalar_bracket {opening : UInt8} (known : opening = ascii '[' ∨ opening = ascii '\x7b')
    (rest : Bytes) :
    Exists fun fault => readScalar .keep opening rest = .error fault := by
  rcases known with rfl | rfl
  · exact ⟨_, rfl⟩
  · exact ⟨_, rfl⟩

/-- A list or an object is no scalar. -/
theorem not_scalarText_bracket {opening : UInt8}
    (known : opening = ascii '[' ∨ opening = ascii '\x7b') (inside : Bytes) (scalar : Scalar) :
    ¬ ScalarText .keep (opening :: inside) scalar := by
  intro written
  rcases written.begins with ⟨first, others, same, begins⟩
  cases same
  rcases known with rfl | rfl
  · exact begins.notList rfl
  · exact begins.notObject rfl

/-- A value that can be skipped is read as a scalar exactly if it is one. -/
theorem readScalar_raw {bytes rest : Bytes} {value : Value} (written : ValueText .skip bytes value)
    (ends : Delimited rest) :
    Exists fun first => Exists fun others =>
      bytes = first :: others ∧ Bytes.isSeparator first = false ∧
      Settles (Reads (ScalarText .keep) bytes) rest
        (readScalar .keep first (others ++ rest)) := by
  have bracket {opening : UInt8} (known : opening = ascii '[' ∨ opening = ascii '\x7b')
      (inside : Bytes) :
      Settles (Reads (ScalarText .keep) (opening :: inside)) rest
        (readScalar .keep opening (inside ++ rest)) := by
    rcases readScalar_bracket known (inside ++ rest) with ⟨fault, refused⟩
    rw [refused]
    exact .refused ((reads_error_iff _ _ _).mpr (not_scalarText_bracket known inside))
  cases written with
  | list _ => exact ⟨_, _, rfl, by decide, bracket (.inl rfl) _⟩
  | object _ => exact ⟨_, _, rfl, by decide, bracket (.inr rfl) _⟩
  | scalar written =>
      rcases readScalar_settles literals_lenient written fun _ _ => ends with
        ⟨first, others, rfl, begins, settles⟩
      refine ⟨first, others, rfl, begins.plain, ?_⟩
      have exact (scalar : Scalar) (kept : ScalarText .keep (first :: others) scalar) :
          readScalar .keep first (others ++ rest) = .ok (scalar, rest) := by
        rcases readScalar_settles (literals_exact .keep) kept fun _ _ => ends with
          ⟨_, _, same, _, settles⟩
        cases same
        rw [← settles_eq_iff]
        exact settles.mono fun _ outcome => outcome.exact
      have sound (scalar : Scalar)
          (read : readScalar .keep first (others ++ rest) = .ok (scalar, rest)) :
          ScalarText .keep (first :: others) scalar := by
        rcases readScalar_sound read with ⟨_, split, kept⟩
        rw [← List.append_cancel_right split] at kept
        exact kept
      exact (settles.reads exact sound).mono fun _ holds => holds.2

/-- A reader that takes the scalars of one kind and refuses all others. -/
theorem Settles.select {Result : Type} {raw rest : Bytes} {inner : Outcome Scalar}
    {outer : Outcome Result} {wrap : Result -> Scalar} {text : Bytes -> Result -> Prop}
    (settles : Settles (Reads (ScalarText .keep) raw) rest inner)
    (kind : forall value, ScalarText .keep raw (wrap value) ↔ text raw value)
    (takes : forall value after, inner = .ok (wrap value, after) -> outer = .ok (value, after))
    (refuses : (forall value after, inner ≠ .ok (wrap value, after)) ->
      Exists fun fault => outer = .error fault) :
    Settles (Reads text raw) rest outer := by
  by_cases wanted : Exists fun value => Exists fun after => inner = .ok (wrap value, after)
  · rcases wanted with ⟨value, after, same⟩
    have taken := takes value after same
    rw [same] at settles
    rw [taken]
    cases settles with
    | read reads =>
        refine .read (reads_ok ((kind value).mp ((reads _).mp rfl)) ?_)
        intro other written
        have equal := (reads _).mpr ((kind other).mpr written)
        rw [Except.ok.injEq] at equal
        rw [equal] at same
        rw [takes other _ same] at taken
        cases taken
        rfl
  · have other : forall value after, inner ≠ .ok (wrap value, after) :=
      fun value after same => wanted ⟨value, after, same⟩
    rcases refuses other with ⟨fault, refused⟩
    rw [refused]
    apply Settles.refused
    rw [reads_error_iff]
    intro value written
    have kept := (kind value).mpr written
    cases settles with
    | read reads =>
        have same := (reads _).mpr kept
        cases same
        exact other value rest rfl
    | refused reads => cases (reads _).mpr kept

theorem readNatural_stop {gap : Bytes} {first : UInt8} (separators : Gap gap)
    (plain : Bytes.isSeparator first = false) (rest : Bytes) :
    readNatural (gap ++ first :: rest) =
      match readScalar .keep first rest with
      | .ok (.number (.integer (.ofNat value)), after) => .ok (value, after)
      | .ok (.number (.integer (.negSucc below)), after) =>
          .error ⟨.wrongInteger (.negSucc below) "u64", after⟩
      | _ => .error (wrongKind "u64" (gap ++ first :: rest)) := by
  rewrite [readNatural, skipSeparators_stop separators plain]
  rfl

theorem readBoolean_stop {gap : Bytes} {first : UInt8} (separators : Gap gap)
    (plain : Bytes.isSeparator first = false) (rest : Bytes) :
    readBoolean (gap ++ first :: rest) =
      match readScalar .keep first rest with
      | .ok (.boolean value, after) => .ok (value, after)
      | _ => .error (wrongKind "a boolean" (gap ++ first :: rest)) := by
  rewrite [readBoolean, skipSeparators_stop separators plain]
  rfl

/-- A value that can be skipped is read as a natural number exactly if it is
one. -/
theorem readNatural_settles {gap bytes raw rest : Bytes} (separators : Gap gap)
    (written : RawText bytes raw) (ends : Delimited rest) :
    Settles (Reads NaturalText raw) rest (readNatural (gap ++ (bytes ++ rest))) := by
  cases written with
  | value written =>
      rcases readScalar_raw written ends with ⟨first, others, rfl, plain, settles⟩
      rw [List.cons_append, readNatural_stop separators plain]
      apply settles.select (fun value => scalarText_natural_iff _ value)
      · intro value after same
        rw [same]
      · intro other
        split
        · next same => exact absurd same (other _ _)
        · exact ⟨_, rfl⟩
        · exact ⟨_, rfl⟩

/-- A value that can be skipped is read as a truth value exactly if it is
one. -/
theorem readBoolean_settles {gap bytes raw rest : Bytes} (separators : Gap gap)
    (written : RawText bytes raw) (ends : Delimited rest) :
    Settles (Reads TruthText raw) rest (readBoolean (gap ++ (bytes ++ rest))) := by
  cases written with
  | value written =>
      rcases readScalar_raw written ends with ⟨first, others, rfl, plain, settles⟩
      rw [List.cons_append, readBoolean_stop separators plain]
      apply settles.select (fun value => scalarText_truth_iff _ value)
      · intro value after same
        rw [same]
      · intro other
        split
        · next same => exact absurd same (other _ _)
        · exact ⟨_, rfl⟩

/-- What is read as a scalar stands in the input and can be skipped. -/
theorem stands_of_readScalar {gap rest after : Bytes} {first : UInt8} {scalar : Scalar}
    (separators : Gap gap) (read : readScalar .keep first rest = .ok (scalar, after)) :
    Exists fun raw => Stands RawText (gap ++ first :: rest) raw after ∧
      ScalarText .keep raw scalar := by
  rcases readScalar_sound read with ⟨others, rfl, written⟩
  rcases written.skipped with ⟨other, skipped⟩
  exact ⟨first :: others, ⟨gap, first :: others, separators, rfl, .value (.scalar skipped)⟩,
    written⟩

theorem readNatural_sound {input rest : Bytes} {value : Nat}
    (found : readNatural input = .ok (value, rest)) :
    Exists fun raw => Stands RawText input raw rest ∧ NaturalText raw value := by
  rw [readNatural] at found
  split at found
  · cases found
  · next first inside skipped =>
      rcases (skipSeparators_eq_cons_iff _ _ _).mp skipped with ⟨_, gap, separators, rfl⟩
      split at found
      · next read =>
          cases found
          rcases stands_of_readScalar separators read with ⟨raw, stands, written⟩
          exact ⟨raw, stands, (scalarText_natural_iff _ _).mp written⟩
      · cases found
      · cases found

theorem readBoolean_sound {input rest : Bytes} {value : Bool}
    (found : readBoolean input = .ok (value, rest)) :
    Exists fun raw => Stands RawText input raw rest ∧ TruthText raw value := by
  rw [readBoolean] at found
  split at found
  · cases found
  · next first inside skipped =>
      rcases (skipSeparators_eq_cons_iff _ _ _).mp skipped with ⟨_, gap, separators, rfl⟩
      split at found
      · next read =>
          cases found
          rcases stands_of_readScalar separators read with ⟨raw, stands, written⟩
          exact ⟨raw, stands, (scalarText_truth_iff _ _).mp written⟩
      · cases found

/-! ## Fields among the members of an object -/

section

variable {Item Value : Type}

/-- The values of all members of a name, in their order. -/
def valuesOf (name : String) (members : List (String × Item)) : List Item :=
  (members.filter fun pair => pair.1 == name).map Prod.snd

theorem valuesOf_same (name : String) (item : Item) (members : List (String × Item)) :
    valuesOf name ((name, item) :: members) = item :: valuesOf name members := by
  simp only [valuesOf, List.filter_cons_of_pos, beq_self_eq_true, List.map_cons]

theorem valuesOf_other {name key : String} (different : key ≠ name) (item : Item)
    (members : List (String × Item)) :
    valuesOf name ((key, item) :: members) = valuesOf name members := by
  have unequal : (key == name) = false := beq_eq_false_iff_ne.mpr different
  simp only [valuesOf, List.filter_cons, unequal, Bool.false_eq_true, if_false]

/-- A field that is left out, or stated by the only value that there is for
it. -/
inductive Stated (text : Item -> Value -> Prop) : List Item -> Option Value -> Prop
  | absent : Stated text [] none
  | once {item : Item} {value : Value} : text item value -> Stated text [item] (some value)

variable {text : Item -> Value -> Prop}

theorem Stated.written {items : List Item} {value : Value}
    (stated : Stated text items (some value)) :
    Exists fun item => text item value := by
  cases stated with
  | once written => exact ⟨_, written⟩

theorem stated_cons_iff (item : Item) (items : List Item) (value : Option Value) :
    Stated text (item :: items) value ↔
      items = [] ∧ Exists fun found => text item found ∧ value = some found := by
  constructor
  · intro stated
    cases stated with
    | once written => exact ⟨rfl, _, written, rfl⟩
  · rintro ⟨rfl, found, written, rfl⟩
    exact .once written

theorem stated_none_iff (items : List Item) : Stated text items none ↔ items = [] := by
  constructor
  · intro stated
    cases stated
    rfl
  · rintro rfl
    exact .absent

/-- How the members from some point on state a field, when those before them had
some keys already.  A field that has been stated is not stated again. -/
def Remains (name : String) (text : Item -> Value -> Prop) (seen : List String)
    (members : List (String × Item)) (value : Option Value) : Prop :=
  Stated text (valuesOf name members) value ∧ (name ∈ seen -> value = none)

section

variable {name key : String} {seen : List String} {item : Item} {members : List (String × Item)}
  {value : Option Value}

theorem remains_start :
    Remains name text [] members value ↔ Stated text (valuesOf name members) value := by
  simp only [Remains, List.not_mem_nil, false_implies, and_true]

theorem remains_nil : Remains name text seen [] value ↔ value = none := by
  constructor
  · rintro ⟨stated, _⟩
    cases stated
    rfl
  · rintro rfl
    exact ⟨.absent, fun _ => rfl⟩

theorem remains_other (different : key ≠ name) :
    Remains name text seen ((key, item) :: members) value ↔
      Remains name text seen members value := by
  simp only [Remains, valuesOf_other different]

theorem remains_seen_other (different : key ≠ name) :
    Remains name text (key :: seen) members value ↔ Remains name text seen members value := by
  simp only [Remains, List.mem_cons, different.symm, false_or]

/-- The field is stated by its member and by none after it. -/
theorem remains_same (fresh : name ∉ seen) :
    Remains name text seen ((name, item) :: members) value ↔
      valuesOf name members = [] ∧ Exists fun found => text item found ∧ value = some found := by
  simp only [Remains, valuesOf_same, stated_cons_iff, fresh, false_implies, and_true]

theorem remains_seen_same :
    Remains name text (name :: seen) members value ↔ valuesOf name members = [] ∧ value = none := by
  constructor
  · rintro ⟨stated, none⟩
    cases none List.mem_cons_self
    exact ⟨(stated_none_iff _).mp stated, rfl⟩
  · rintro ⟨last, rfl⟩
    exact ⟨(stated_none_iff _).mpr last, fun _ => rfl⟩

theorem not_remains_repeated (repeated : name ∈ seen) :
    ¬ Remains name text seen ((name, item) :: members) value := by
  rintro ⟨stated, none⟩
  rw [none repeated, valuesOf_same, stated_none_iff] at stated
  cases stated

end

end

end Json
end Salutation
