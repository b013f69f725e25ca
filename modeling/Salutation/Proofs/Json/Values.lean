import Salutation.Proofs.Json.Elements

namespace Salutation
namespace Json

open Grammar

/-!
# Values

The reader of values is settled by two inductions on the depth it may still
go down.  The first one says what becomes of a value of the grammar, whatever
is known of its texts and numbers, and has the exact reading as its first
instance.  The second one says that nothing but values of the grammar is read.
Together they identify the texts that are values, up to the limit on nesting,
with the texts of the grammar.
-/

/-! ## Scalars -/

theorem readKeyword_append (letters rest : Bytes) :
    readKeyword letters (letters ++ rest) = .ok rest := by
  induction letters with
  | nil => rfl
  | cons letter letters inductionHypothesis =>
      rw [List.cons_append, readKeyword, if_pos rfl, inductionHypothesis]

theorem readKeyword_sound {letters input rest : Bytes}
    (found : readKeyword letters input = .ok rest) : input = letters ++ rest := by
  induction letters generalizing input with
  | nil =>
      cases found
      rfl
  | cons letter letters inductionHypothesis =>
      cases input with
      | nil => cases found
      | cons byte input =>
          rw [readKeyword] at found
          split at found
          · next same => rw [same, inductionHypothesis found, List.cons_append]
          · cases found

theorem digit_ne {byte other : UInt8} (digit : Bytes.isDigit byte = true)
    (plain : Bytes.isDigit other = false) : byte ≠ other := by
  rintro rfl
  rw [digit] at plain
  cases plain

theorem digit_not_blank {byte : UInt8} (digit : Bytes.isDigit byte = true) :
    Bytes.isBlank byte = false := by
  apply Bool.eq_false_iff.mpr
  intro blank
  simp only [Bytes.isBlank, Bytes.isSeparator, Bool.or_eq_true, beq_iff_eq] at blank
  rcases blank with (((rfl | rfl) | rfl) | rfl) | rfl <;> exact absurd digit (by decide)

theorem readScalar_minus (purpose : Purpose) (rest : Bytes) :
    readScalar purpose (ascii '-') rest =
      match readNumber purpose true rest with
      | .error fault => .error fault
      | .ok (value, after) => .ok (.number value, after) := by
  rfl

theorem readScalar_digit (purpose : Purpose) {first : UInt8} (rest : Bytes)
    (digit : Bytes.isDigit first = true) :
    readScalar purpose first rest =
      match readNumber purpose false (first :: rest) with
      | .error fault => .error fault
      | .ok (value, after) => .ok (.number value, after) := by
  have notNull : first ≠ ascii 'n' := digit_ne digit (by decide)
  have notTrue : first ≠ ascii 't' := digit_ne digit (by decide)
  have notFalse : first ≠ ascii 'f' := digit_ne digit (by decide)
  have notMinus : first ≠ ascii '-' := digit_ne digit (by decide)
  rw [readScalar, if_neg notNull, if_neg notTrue, if_neg notFalse, if_neg notMinus]
  exact if_pos digit

theorem readScalar_quote (purpose : Purpose) (rest : Bytes) :
    readScalar purpose (ascii '"') rest =
      match readText purpose rest with
      | .error fault => .error fault
      | .ok (value, after) => .ok (.text value, after) := by
  rfl

/-- What can be seen of a scalar by its first byte alone. -/
structure Begins (first : UInt8) : Prop where
  notBlank : Bytes.isBlank first = false
  notClosing : first ≠ ascii ']'
  notList : first ≠ ascii '['
  notObject : first ≠ ascii '\x7b'

theorem Begins.plain {first : UInt8} (begins : Begins first) :
    Bytes.isSeparator first = false :=
  not_separator_of_not_blank begins.notBlank

theorem begins_of_digit {first : UInt8} (digit : Bytes.isDigit first = true) : Begins first where
  notBlank := digit_not_blank digit
  notClosing := digit_ne digit (by decide)
  notList := digit_ne digit (by decide)
  notObject := digit_ne digit (by decide)

theorem begins_of_known {first : UInt8}
    (known : first ∈ [ascii 'n', ascii 't', ascii 'f', ascii '-', ascii '"']) : Begins first := by
  simp only [List.mem_cons, List.not_mem_nil, or_false] at known
  rcases known with rfl | rfl | rfl | rfl | rfl <;>
    exact ⟨by decide, by decide, by decide, by decide⟩

/-- A number without sign begins with a digit. -/
theorem Grammar.Unsigned.begins {negative : Bool} {bytes : Bytes} {numeral : Numeral}
    (written : Unsigned negative bytes numeral) :
    Exists fun first => Exists fun others =>
      bytes = first :: others ∧ Bytes.isDigit first = true := by
  cases written with
  | parts whole fraction exponent =>
      cases whole with
      | zero => exact ⟨_, _, rfl, by decide⟩
      | digits written _ =>
          cases written with
          | digit small _ => exact ⟨_, _, rfl, isDigit_ofNat small⟩

theorem Grammar.ScalarText.begins {purpose : Purpose} {bytes : Bytes} {scalar : Scalar}
    (spelled : ScalarText purpose bytes scalar) :
    Exists fun first => Exists fun others => bytes = first :: others ∧ Begins first := by
  cases spelled with
  | null => exact ⟨_, _, rfl, begins_of_known (by decide)⟩
  | true => exact ⟨_, _, rfl, begins_of_known (by decide)⟩
  | false => exact ⟨_, _, rfl, begins_of_known (by decide)⟩
  | number spelled =>
      cases spelled with
      | literal literal _ =>
          cases literal with
          | positive unsigned =>
              rcases unsigned.begins with ⟨first, others, rfl, digit⟩
              exact ⟨first, others, rfl, begins_of_digit digit⟩
          | negative _ => exact ⟨_, _, rfl, begins_of_known (by decide)⟩
  | text spelled =>
      cases spelled with
      | quoted _ => exact ⟨_, _, rfl, begins_of_known (by decide)⟩

section

variable {written purpose : Purpose}

/-- What is known of the reader of texts and of the reader of numbers, when
they are used for literals written for a purpose that may be another one. -/
structure Literals (written purpose : Purpose) (texts : String -> Except Cause String -> Prop)
    (numbers : Number -> Except Cause Number -> Prop) : Prop where
  text : forall quoted text rest, Quoted written quoted text ->
    Settles (texts text) rest (readText purpose (quoted ++ ascii '"' :: rest))
  number : forall negative bytes numeral number rest, Unsigned negative bytes numeral ->
    Taken written numeral number -> Delimited rest ->
    Settles (numbers number) rest (readNumber purpose negative (bytes ++ rest))

/-- What a scalar may come to. -/
inductive ScalarOutcome (texts : String -> Except Cause String -> Prop)
    (numbers : Number -> Except Cause Number -> Prop) : Scalar -> Except Cause Scalar -> Prop
  | null : ScalarOutcome texts numbers .null (.ok .null)
  | boolean {value : Bool} : ScalarOutcome texts numbers (.boolean value) (.ok (.boolean value))
  | number {value : Number} {result : Except Cause Number} :
      numbers value result -> ScalarOutcome texts numbers (.number value) (result.map .number)
  | text {value : String} {result : Except Cause String} :
      texts value result -> ScalarOutcome texts numbers (.text value) (result.map .text)

/-- Only a number needs to be told from what follows it. -/
def Ends (value : Value) (rest : Bytes) : Prop :=
  forall number, value = .scalar (.number number) -> Delimited rest

variable {texts : String -> Except Cause String -> Prop}
variable {numbers : Number -> Except Cause Number -> Prop}

/-- A scalar of the grammar is known by its first byte and settled by the
readers of its leaves. -/
theorem readScalar_settles (literals : Literals written purpose texts numbers) {bytes : Bytes}
    {scalar : Scalar} (spelled : ScalarText written bytes scalar) {rest : Bytes}
    (ends : Ends (.scalar scalar) rest) :
    Exists fun first => Exists fun others => bytes = first :: others ∧ Begins first ∧
      Settles (ScalarOutcome texts numbers scalar) rest
        (readScalar purpose first (others ++ rest)) := by
  cases spelled with
  | null =>
      refine ⟨ascii 'n', Bytes.ofText "ull", by decide, begins_of_known (by decide), ?_⟩
      simp only [readScalar, if_true, readKeyword_append]
      exact .read .null
  | true =>
      refine ⟨ascii 't', Bytes.ofText "rue", by decide, begins_of_known (by decide), ?_⟩
      have other : ascii 't' ≠ ascii 'n' := by decide
      simp only [readScalar, other, if_true, if_false, readKeyword_append]
      exact .read .boolean
  | false =>
      refine ⟨ascii 'f', Bytes.ofText "alse", by decide, begins_of_known (by decide), ?_⟩
      have first : ascii 'f' ≠ ascii 'n' := by decide
      have second : ascii 'f' ≠ ascii 't' := by decide
      simp only [readScalar, first, second, if_true, if_false, readKeyword_append]
      exact .read .boolean
  | number spelled =>
      cases spelled with
      | literal literal taken =>
          have delimited := ends _ rfl
          cases literal with
          | positive unsigned =>
              rcases unsigned.begins with ⟨first, others, rfl, digit⟩
              refine ⟨first, others, rfl, begins_of_digit digit, ?_⟩
              apply (literals.number _ _ _ _ rest unsigned taken delimited).map
              · intro fault same
                rw [readScalar_digit purpose _ digit, ← List.cons_append, same]
              · intro number after same
                rw [readScalar_digit purpose _ digit, ← List.cons_append, same]
              · exact fun _ => .number
          | @negative bytes _ unsigned =>
              refine ⟨ascii '-', bytes, rfl, begins_of_known (by decide), ?_⟩
              apply (literals.number _ _ _ _ rest unsigned taken delimited).map
              · intro fault same
                rw [readScalar_minus, same]
              · intro number after same
                rw [readScalar_minus, same]
              · exact fun _ => .number
  | text spelled =>
      cases spelled with
      | @quoted bytes _ quoted =>
          refine ⟨ascii '"', bytes ++ [ascii '"'], rfl, begins_of_known (by decide), ?_⟩
          rw [List.append_assoc, List.singleton_append]
          apply (literals.text _ _ rest quoted).map
          · intro fault same
            rw [readScalar_quote, same]
          · intro text after same
            rw [readScalar_quote, same]
          · exact fun _ => .text

/-! ## One step down -/

theorem readWith_scalar {list object : Reader Value} {gap : Bytes} {first : UInt8}
    (separators : Gap gap) (begins : Begins first) (rest : Bytes) :
    readWith purpose list object (gap ++ first :: rest) =
      match readScalar purpose first rest with
      | .error fault => .error fault
      | .ok (value, after) => .ok (.scalar value, after) := by
  rw [readWith, skipSeparators_stop separators begins.plain]
  exact (if_neg begins.notList).trans (if_neg begins.notObject)

theorem readWith_list {list object : Reader Value} {gap : Bytes} (separators : Gap gap)
    (rest : Bytes) :
    readWith purpose list object (gap ++ ascii '[' :: rest) = list rest := by
  rw [readWith, skipSeparators_stop separators (by decide)]
  simp only [if_true]

theorem readWith_object {list object : Reader Value} {gap : Bytes} (separators : Gap gap)
    (rest : Bytes) :
    readWith purpose list object (gap ++ ascii '\x7b' :: rest) = object rest := by
  have other : ascii '\x7b' ≠ ascii '[' := by decide
  rw [readWith, skipSeparators_stop separators (by decide)]
  simp only [other, if_true, if_false]

/-- A scalar is read alike at every depth. -/
theorem readValue_scalar {gap : Bytes} {first : UInt8} (depth : Nat) (separators : Gap gap)
    (begins : Begins first) (rest : Bytes) :
    readValue purpose depth (gap ++ first :: rest) =
      match readScalar purpose first rest with
      | .error fault => .error fault
      | .ok (value, after) => .ok (.scalar value, after) := by
  cases depth with
  | zero => exact readWith_scalar separators begins rest
  | succ depth => exact readWith_scalar separators begins rest

theorem readValue_zero_list {gap : Bytes} (separators : Gap gap) (rest : Bytes) :
    readValue purpose 0 (gap ++ ascii '[' :: rest) = .error ⟨.tooDeep, rest⟩ :=
  readWith_list separators rest

theorem readValue_zero_object {gap : Bytes} (separators : Gap gap) (rest : Bytes) :
    readValue purpose 0 (gap ++ ascii '\x7b' :: rest) = .error ⟨.tooDeep, rest⟩ :=
  readWith_object separators rest

theorem readValue_list {gap : Bytes} (depth : Nat) (separators : Gap gap) (rest : Bytes) :
    readValue purpose (depth + 1) (gap ++ ascii '[' :: rest) =
      match readItems purpose (readValue purpose depth) rest with
      | .error fault => .error fault
      | .ok (items, after) => .ok (.list items, after) :=
  readWith_list separators rest

theorem readValue_object {gap : Bytes} (depth : Nat) (separators : Gap gap) (rest : Bytes) :
    readValue purpose (depth + 1) (gap ++ ascii '\x7b' :: rest) =
      match readMembers purpose (readValueMember (readValue purpose depth)) [] rest with
      | .error fault => .error fault
      | .ok (members, after) => .ok (.object members.reverse, after) :=
  readWith_object separators rest

/-! ## What becomes of a value of the grammar -/

/-- What a member may come to, in terms of its key and its value. -/
inductive MemberOutcome (texts : String -> Except Cause String -> Prop)
    (values : Value -> Except Cause Value -> Prop) :
    String × Value -> Except Cause (String × Value) -> Prop
  | refused {key : String} {value : Value} {cause : Cause} :
      texts key (.error cause) -> MemberOutcome texts values (key, value) (.error cause)
  | read {key found : String} {value : Value} {result : Except Cause Value} :
      texts key (.ok found) -> values value result ->
      MemberOutcome texts values (key, value) (result.map fun value => (found, value))

/-- A description of what a value may come to at each depth, in accordance
with what its parts may come to. -/
structure Describes (texts : String -> Except Cause String -> Prop)
    (numbers : Number -> Except Cause Number -> Prop)
    (values : Nat -> Value -> Except Cause Value -> Prop) : Prop where
  scalar : forall depth scalar result, ScalarOutcome texts numbers scalar result ->
    values depth (.scalar scalar) (result.map .scalar)
  listTooDeep : forall items, values 0 (.list items) (.error .tooDeep)
  objectTooDeep : forall members, values 0 (.object members) (.error .tooDeep)
  list : forall depth items result, Along (Collects (values depth)) [] items result ->
    values (depth + 1) (.list items) (result.map fun found => .list found.reverse)
  object : forall depth members result,
    Along (Collects (MemberOutcome texts (values depth))) [] members result ->
    values (depth + 1) (.object members) (result.map fun found => .object found.reverse)

variable {values : Nat -> Value -> Except Cause Value -> Prop}

/-- A member of the grammar is settled by the reader of its value. -/
theorem readValueMember_settles (literals : Literals written purpose texts numbers)
    {value : Reader Value} {item : Bytes -> Value -> Prop}
    {allowed : Value -> Except Cause Value -> Prop}
    (settles : forall gap bytes found rest, Gap gap -> item bytes found -> Delimited rest ->
      Settles (allowed found) rest (value (gap ++ (bytes ++ rest))))
    (members : List (String × Value)) {quoted before after bytes : Bytes} {key : String}
    {found : Value} {rest : Bytes} (spelled : Quoted written quoted key) (leading : Gap before)
    (trailing : Gap after) (element : item bytes found) (ends : Delimited rest) :
    Settles (Collects (MemberOutcome texts allowed) members (key, found)) rest
      (readMember purpose (readValueMember value) members
        (quoted ++ ascii '"' :: (before ++ ascii ':' :: (after ++ (bytes ++ rest))))) := by
  have named := literals.text _ _ (before ++ ascii ':' :: (after ++ (bytes ++ rest))) spelled
  rw [readMember]
  rcases (settles_iff _ _ _).mp named with ⟨name, same, known⟩ | ⟨fault, same, refused⟩
  · simp only [same, readValueMember, readColon_append _ leading]
    apply (settles after bytes found rest trailing element ends).map
    · intro fault failed
      rw [failed]
    · intro result after read
      rw [read]
    · intro result holds
      refine ⟨_, .read known holds, ?_⟩
      cases result <;> rfl
  · simp only [same]
    exact .refused ⟨_, .refused refused, rfl⟩

theorem readValue_scalar_settles (literals : Literals written purpose texts numbers)
    (describes : Describes texts numbers values) (depth : Nat) {gap bytes rest : Bytes}
    {scalar : Scalar} (separators : Gap gap) (spelled : ScalarText written bytes scalar)
    (ends : Ends (.scalar scalar) rest) :
    Settles (values depth (.scalar scalar)) rest
      (readValue purpose depth (gap ++ (bytes ++ rest))) := by
  rcases readScalar_settles literals spelled ends with ⟨first, others, rfl, begins, settles⟩
  apply settles.map
  · intro fault failed
    rw [List.cons_append, readValue_scalar _ separators begins, failed]
  · intro result after read
    rw [List.cons_append, readValue_scalar _ separators begins, read]
  · exact describes.scalar _ _

/-- A value can be told from a gap and from the end of a list by its first
byte. -/
theorem Grammar.ValueText.starts {bytes : Bytes} {value : Value}
    (spelled : ValueText purpose bytes value) : Starts bytes := by
  cases spelled with
  | scalar spelled =>
      rcases spelled.begins with ⟨first, others, rfl, begins⟩
      exact ⟨first, others, rfl, begins.notBlank, begins.notClosing⟩
  | list _ => exact ⟨_, _, rfl, by decide, by decide⟩
  | object _ => exact ⟨_, _, rfl, by decide, by decide⟩

/-- No gap stands before the first byte of a value. -/
theorem Grammar.ValueText.gap_eq_nil {gap rest : Bytes} {value : Value}
    (spelled : ValueText purpose (gap ++ rest) value) (separators : Gap gap) : gap = [] := by
  rcases spelled.starts with ⟨first, others, split, notBlank, _⟩
  cases gap with
  | nil => rfl
  | cons byte gap =>
      rw [List.cons_append, List.cons.injEq] at split
      have separator := separators byte List.mem_cons_self
      rw [split.1, not_separator_of_not_blank notBlank] at separator
      cases separator

/-- What a value of the grammar comes to at a given depth. -/
theorem readValue_settles (literals : Literals written purpose texts numbers)
    (describes : Describes texts numbers values) (depth : Nat) {gap bytes rest : Bytes}
    {value : Value} (separators : Gap gap) (spelled : ValueText written bytes value)
    (ends : Ends value rest) :
    Settles (values depth value) rest (readValue purpose depth (gap ++ (bytes ++ rest))) := by
  induction depth generalizing gap bytes rest value with
  | zero =>
      cases spelled with
      | scalar spelled =>
          exact readValue_scalar_settles literals describes 0 separators spelled ends
      | list _ =>
          rw [List.cons_append, readValue_zero_list separators]
          exact .refused (describes.listTooDeep _)
      | object _ =>
          rw [List.cons_append, readValue_zero_object separators]
          exact .refused (describes.objectTooDeep _)
  | succ depth inductionHypothesis =>
      -- Inside a container every element is followed by a byte that ends it.
      have inner : forall gap bytes found rest, Gap gap -> ValueText written bytes found ->
          Delimited rest ->
          Settles (values depth found) rest (readValue purpose depth (gap ++ (bytes ++ rest))) :=
        fun gap bytes found rest separators spelled delimited =>
          inductionHypothesis separators spelled fun _ _ => delimited
      cases spelled with
      | scalar spelled =>
          exact readValue_scalar_settles literals describes _ separators spelled ends
      | list elements =>
          have items := readItems_settles purpose (fun _ _ => ValueText.starts)
            (fun bytes found rest => inner [] bytes found rest gap_nil) elements rest
          rw [List.cons_append, List.append_assoc, List.singleton_append]
          apply items.map
          · intro fault failed
            rw [readValue_list _ separators, failed]
          · intro result after read
            rw [readValue_list _ separators, read]
          · rintro _ ⟨collected, along, rfl⟩
            have holds := describes.list depth _ collected along
            cases collected <;> exact holds
      | object elements =>
          have members := readMembers_settles
            (fun members _ _ _ _ _ _ _ spelled leading trailing element delimited =>
              readValueMember_settles literals inner members spelled leading trailing element
                delimited) elements [] rest
          rw [List.cons_append, List.append_assoc, List.singleton_append]
          apply members.map
          · intro fault failed
            rw [readValue_object _ separators, failed]
          · intro result after read
            rw [readValue_object _ separators, read]
          · exact describes.object depth _

end

/-! ## Exact reading -/

theorem nestingOfItems_le_iff (items : List Value) (depth : Nat) :
    Value.nestingOfItems items <= depth ↔ forall item, item ∈ items -> item.nesting <= depth := by
  induction items with
  | nil => simp [Value.nestingOfItems]
  | cons item items inductionHypothesis =>
      simp only [Value.nestingOfItems, Nat.max_le, inductionHypothesis, List.forall_mem_cons]

theorem nestingOfMembers_le_iff (members : List (String × Value)) (depth : Nat) :
    Value.nestingOfMembers members <= depth ↔
      forall pair, pair ∈ members -> pair.2.nesting <= depth := by
  induction members with
  | nil => simp [Value.nestingOfMembers]
  | cons pair members inductionHypothesis =>
      simp only [Value.nestingOfMembers, Nat.max_le, inductionHypothesis, List.forall_mem_cons]

theorem Grammar.Elements.nestingOfItems_le {item : Bytes -> Value -> Prop} {depth : Nat}
    {bytes : Bytes} {items : List Value} (elements : Elements item bytes items)
    (shallow : forall bytes value, item bytes value -> value.nesting <= depth) :
    Value.nestingOfItems items <= depth := by
  rw [nestingOfItems_le_iff]
  intro value member
  rcases elements.exists_of_mem member with ⟨_, written⟩
  exact shallow _ _ written

theorem Grammar.Elements.nestingOfMembers_le {purpose : Purpose} {item : Bytes -> Value -> Prop}
    {depth : Nat} {bytes : Bytes} {members : List (String × Value)}
    (elements : Elements (Member purpose item) bytes members)
    (shallow : forall bytes value, item bytes value -> value.nesting <= depth) :
    Value.nestingOfMembers members <= depth := by
  rw [nestingOfMembers_le_iff]
  intro pair member
  rcases elements.exists_of_mem member with ⟨_, written⟩
  rcases written.exists_value with ⟨_, value⟩
  exact shallow _ _ value

/-- Induction over a value of the grammar.  What is to be proved of a container
may be assumed of the values in it. -/
theorem Grammar.ValueText.induct {purpose : Purpose} {motive : Bytes -> Value -> Prop}
    (scalar : forall bytes scalar, ScalarText purpose bytes scalar -> motive bytes (.scalar scalar))
    (list : forall bytes items, Elements motive bytes items ->
      motive (ascii '[' :: (bytes ++ [ascii ']'])) (.list items))
    (object : forall bytes members, Elements (Member purpose motive) bytes members ->
      motive (ascii '\x7b' :: (bytes ++ [ascii '\x7d'])) (.object members))
    {bytes : Bytes} {value : Value} (written : ValueText purpose bytes value) :
    motive bytes value := by
  have within (depth : Nat) : forall bytes value, ValueText purpose bytes value ->
      value.nesting <= depth -> motive bytes value := by
    induction depth with
    | zero =>
        intro bytes value written shallow
        cases written with
        | scalar written => exact scalar _ _ written
        | list _ => exact absurd shallow (Nat.not_succ_le_zero _)
        | object _ => exact absurd shallow (Nat.not_succ_le_zero _)
    | succ depth inductionHypothesis =>
        intro bytes value written shallow
        cases written with
        | scalar written => exact scalar _ _ written
        | list elements =>
            have bounds := (nestingOfItems_le_iff _ depth).mp (Nat.le_of_succ_le_succ shallow)
            exact list _ _ (elements.mono fun bytes value member element =>
              inductionHypothesis bytes value element (bounds value member))
        | object elements =>
            have bounds := (nestingOfMembers_le_iff _ depth).mp (Nat.le_of_succ_le_succ shallow)
            exact object _ _ (elements.mono fun bytes pair member element =>
              element.mono fun bytes value =>
                inductionHypothesis bytes pair.2 value (bounds pair member))
  exact within value.nesting bytes value written (Nat.le_refl _)

/-- Literals that are read for the purpose for which they are written. -/
theorem literals_exact (purpose : Purpose) :
    Literals purpose purpose (fun text result => result = .ok text)
      (fun number result => result = .ok number) where
  text := by
    intro quoted text rest spelled
    rw [settles_eq_iff]
    exact readText_append spelled rest
  number := by
    intro negative bytes numeral number rest spelled taken ends
    rw [settles_eq_iff]
    exact readNumber_append spelled taken ends

theorem ScalarOutcome.exact {scalar : Scalar} {result : Except Cause Scalar}
    (outcome : ScalarOutcome (fun text result => result = .ok text)
      (fun number result => result = .ok number) scalar result) : result = .ok scalar := by
  cases outcome with
  | null => rfl
  | boolean => rfl
  | number same =>
      rw [same]
      rfl
  | text same =>
      rw [same]
      rfl

/-- A value that does not nest too deep comes to itself. -/
theorem describes_exact :
    Describes (fun text result => result = .ok text) (fun number result => result = .ok number)
      (fun depth value result => value.nesting <= depth -> result = .ok value) where
  scalar := by
    intro depth scalar result outcome _
    rw [outcome.exact]
    rfl
  listTooDeep := by
    intro items shallow
    exact absurd shallow (Nat.not_succ_le_zero _)
  objectTooDeep := by
    intro members shallow
    exact absurd shallow (Nat.not_succ_le_zero _)
  list := by
    intro depth items result along shallow
    have within := (nestingOfItems_le_iff items depth).mp (Nat.le_of_succ_le_succ shallow)
    have exact : Along (Collects fun item outcome => outcome = .ok item) [] items result := by
      apply along.mono
      rintro collected item _ member ⟨outcome, holds, rfl⟩
      exact ⟨outcome, holds (within item member), rfl⟩
    rw [exact.collected, List.append_nil]
    simp only [Except.map, List.reverse_reverse]
  object := by
    intro depth members result along shallow
    have within := (nestingOfMembers_le_iff members depth).mp (Nat.le_of_succ_le_succ shallow)
    have exact : Along (Collects fun item outcome => outcome = .ok item) [] members result := by
      apply along.mono
      rintro collected pair _ member ⟨outcome, holds, rfl⟩
      refine ⟨outcome, ?_, rfl⟩
      cases holds with
      | refused impossible => cases impossible
      | read same holds =>
          cases same
          rw [holds (within _ member)]
          rfl
    rw [exact.collected, List.append_nil]
    simp only [Except.map, List.reverse_reverse]

/-- A value of the grammar that does not nest too deep is read, and what
follows it is left. -/
theorem readValue_append {purpose : Purpose} {depth : Nat} {gap bytes rest : Bytes}
    {value : Value} (separators : Gap gap) (spelled : ValueText purpose bytes value)
    (shallow : value.nesting <= depth) (ends : Ends value rest) :
    readValue purpose depth (gap ++ (bytes ++ rest)) = .ok (value, rest) := by
  have settles := readValue_settles (literals_exact purpose) describes_exact depth separators
    spelled ends
  rw [← settles_eq_iff]
  exact settles.mono fun result holds => holds shallow

/-- No input begins with two values, unless one of them is a number that could
go on. -/
theorem Grammar.ValueText.eq_of_append_eq {purpose : Purpose}
    {first second left right before after : Bytes} {value other : Value}
    (spelled : ValueText purpose left value) (written : ValueText purpose right other)
    (leading : Gap first) (trailing : Gap second) (ends : Ends value before)
    (stops : Ends other after)
    (same : first ++ (left ++ before) = second ++ (right ++ after)) :
    value = other ∧ before = after := by
  have read := readValue_append leading spelled (Nat.le_max_left _ other.nesting) ends
  have again := readValue_append trailing written (Nat.le_max_right value.nesting _) stops
  rw [same, again] at read
  cases read
  exact ⟨rfl, rfl⟩

/-! ## Nothing else is read -/

theorem readScalar_sound {purpose : Purpose} {first : UInt8} {rest after : Bytes}
    {scalar : Scalar} (found : readScalar purpose first rest = .ok (scalar, after)) :
    Exists fun others => rest = others ++ after ∧
      ScalarText purpose (first :: others) scalar := by
  simp only [readScalar] at found
  split at found
  · next same =>
      split at found
      · cases found
      · next after read =>
          cases found
          rw [same]
          exact ⟨_, readKeyword_sound read, .null⟩
  split at found
  · next same =>
      split at found
      · cases found
      · next after read =>
          cases found
          rw [same]
          exact ⟨_, readKeyword_sound read, .true⟩
  split at found
  · next same =>
      split at found
      · cases found
      · next after read =>
          cases found
          rw [same]
          exact ⟨_, readKeyword_sound read, .false⟩
  split at found
  · next same =>
      split at found
      · cases found
      · next number after read =>
          cases found
          rcases readNumber_sound read with ⟨bytes, numeral, split, unsigned, taken⟩
          rw [same]
          exact ⟨bytes, split, .number (.literal (.negative unsigned) taken)⟩
  split at found
  · next digit =>
      split at found
      · cases found
      · next number after read =>
          cases found
          rcases readNumber_sound read with ⟨bytes, numeral, split, unsigned, taken⟩
          rcases unsigned.begins with ⟨leading, others, rfl, _⟩
          rw [List.cons_append, List.cons.injEq] at split
          rw [split.1]
          exact ⟨others, split.2, .number (.literal (.positive unsigned) taken)⟩
  split at found
  · next same =>
      split at found
      · cases found
      · next text after read =>
          cases found
          rcases readText_sound read with ⟨bytes, split, quoted⟩
          rw [same]
          refine ⟨bytes ++ [ascii '"'], ?_, .text (.quoted quoted)⟩
          rw [split, List.append_assoc, List.singleton_append]
  · cases found

theorem readValueMember_sound {value : Reader Value} {item : Bytes -> Value -> Prop}
    (sound : forall input found rest, value input = .ok (found, rest) ->
      Stands item input found rest)
    {members later : List (String × Value)} {key : String} {input rest : Bytes}
    (read : readValueMember value members key input = .ok (later, rest)) :
    Exists fun before => Exists fun after => Exists fun bytes => Exists fun found =>
      Gap before ∧ Gap after ∧ input = before ++ ascii ':' :: (after ++ (bytes ++ rest)) ∧
      item bytes found ∧
      Collects (fun pair outcome => outcome = .ok pair) members (key, found) (.ok later) := by
  rw [readValueMember] at read
  split at read
  · cases read
  · next afterColon colon =>
      rcases readColon_sound colon with ⟨before, leading, rfl⟩
      split at read
      · cases read
      · next found _ value =>
          cases read
          rcases sound _ _ _ value with ⟨after, bytes, trailing, rfl, written⟩
          exact ⟨before, after, bytes, found, leading, trailing, rfl, written, _, rfl, rfl⟩

/-- One step down is sound when the readers inside the brackets are. -/
theorem readWith_sound {purpose : Purpose} {list object : Reader Value} {input rest : Bytes}
    {value : Value} (found : readWith purpose list object input = .ok (value, rest)) :
    Exists fun gap => Gap gap ∧
      ((Exists fun bytes => Exists fun scalar => input = gap ++ (bytes ++ rest) ∧
          ScalarText purpose bytes scalar ∧ value = .scalar scalar) ∨
        (Exists fun inside => input = gap ++ ascii '[' :: inside ∧
          list inside = .ok (value, rest)) ∨
        (Exists fun inside => input = gap ++ ascii '\x7b' :: inside ∧
          object inside = .ok (value, rest))) := by
  rw [readWith] at found
  split at found
  · cases found
  · next byte inside skipped =>
      rcases (skipSeparators_eq_cons_iff _ _ _).mp skipped with ⟨_, gap, separators, rfl⟩
      refine ⟨gap, separators, ?_⟩
      split at found
      · next same =>
          rw [same]
          exact .inr (.inl ⟨inside, rfl, found⟩)
      split at found
      · next same =>
          rw [same]
          exact .inr (.inr ⟨inside, rfl, found⟩)
      · split at found
        · cases found
        · next scalar after read =>
            cases found
            rcases readScalar_sound read with ⟨others, rfl, spelled⟩
            exact .inl ⟨byte :: others, scalar, rfl, spelled, rfl⟩

/-- Only values of the grammar are read, and none that nests too deep. -/
theorem readValue_sound {purpose : Purpose} {depth : Nat} {input rest : Bytes} {value : Value}
    (found : readValue purpose depth input = .ok (value, rest)) :
    Stands (ValueText purpose) input value rest ∧ value.nesting <= depth := by
  induction depth generalizing input rest value with
  | zero =>
      rcases readWith_sound found with
        ⟨gap, separators, ⟨bytes, scalar, split, spelled, rfl⟩ | ⟨_, _, no⟩ | ⟨_, _, no⟩⟩
      · exact ⟨⟨gap, bytes, separators, split, .scalar spelled⟩, Nat.le_refl 0⟩
      · cases no
      · cases no
  | succ depth inductionHypothesis =>
      have inner : forall input found rest, readValue purpose depth input = .ok (found, rest) ->
          Stands (fun bytes value => ValueText purpose bytes value ∧ value.nesting <= depth)
            input found rest := by
        intro input found rest read
        rcases inductionHypothesis read with
          ⟨⟨gap, bytes, separators, split, written⟩, shallow⟩
        exact ⟨gap, bytes, separators, split, written, shallow⟩
      rcases readWith_sound found with
        ⟨gap, separators, ⟨bytes, scalar, split, spelled, rfl⟩ | ⟨inside, split, read⟩ |
          ⟨inside, split, read⟩⟩
      · exact ⟨⟨gap, bytes, separators, split, .scalar spelled⟩, Nat.zero_le _⟩
      · split at read
        · cases read
        · next items after listed =>
            cases read
            rcases readItems_sound inner listed with ⟨bytes, closed, elements⟩
            have shallow := elements.nestingOfItems_le fun _ _ holds => holds.2
            have written := ValueText.list (elements.mono fun _ _ _ holds => holds.1)
            refine ⟨⟨gap, _, separators, ?_, written⟩, Nat.succ_le_succ shallow⟩
            rw [split, closed, List.cons_append, List.append_assoc, List.singleton_append]
      · split at read
        · cases read
        · next members after listed =>
            cases read
            rcases readMembers_sound listed fun _ _ _ _ _ => readValueMember_sound inner with
              ⟨bytes, pairs, closed, elements, along⟩
            have same := along.collected
            rw [List.append_nil, Except.ok.injEq] at same
            have shallow := elements.nestingOfMembers_le fun _ _ holds => holds.2
            have written := ValueText.object
              (elements.mono fun _ _ _ member => member.mono fun _ holds => holds.1)
            rw [same, List.reverse_reverse]
            refine ⟨⟨gap, _, separators, ?_, written⟩, Nat.succ_le_succ shallow⟩
            rw [split, closed, List.cons_append, List.append_assoc, List.singleton_append]

/-! ## Whole texts -/

theorem readAll_eq_ok_iff {Result : Type} (reader : Reader Result) (input : Bytes)
    (result : Result) :
    readAll reader input = .ok result ↔
      Exists fun rest => reader input = .ok (result, rest) ∧ Gap rest := by
  rw [readAll]
  constructor
  · intro found
    split at found
    · cases found
    · next read =>
        split at found
        · next skipped =>
            cases found
            exact ⟨_, read, (skipSeparators_eq_nil_iff _).mp skipped⟩
        · cases found
  · rintro ⟨rest, read, separators⟩
    simp only [read, skipSeparators_gap separators]

theorem readAll_of_error {Result : Type} {reader : Reader Result} {input : Bytes} {fault : Fault}
    (refused : reader input = .error fault) :
    readAll reader input = .error (fault.locate input) := by
  rw [readAll, refused]

/-- The values that are parsed are those of the grammar, up to the limit on
nesting. -/
theorem parse_eq_ok_iff (input : Bytes) (value : Value) :
    parse input = .ok value ↔ Document input value ∧ value.nesting <= depthLimit := by
  rw [parse, readAll_eq_ok_iff]
  constructor
  · rintro ⟨rest, read, after⟩
    rcases readValue_sound read with ⟨⟨gap, bytes, before, rfl, spelled⟩, shallow⟩
    exact ⟨.value before spelled after, shallow⟩
  · rintro ⟨⟨before, spelled, after⟩, shallow⟩
    have ends := delimited_gap after delimited_nil
    rw [List.append_nil] at ends
    exact ⟨_, readValue_append before spelled shallow fun _ _ => ends, after⟩

end Json
end Salutation
