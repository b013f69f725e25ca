import Salutation.Proofs.Json.Values

namespace Salutation

open Json Json.Grammar

/-!
# Texts of the grammar are texts

The grammar is made of bytes, and only one of its rules mentions characters.
Nevertheless every text of the grammar is the UTF-8 form of a text as a whole:
everything but the plain characters between quotes is ASCII, and the plain
characters stand there in their UTF-8 form.
-/

namespace Bytes

/-- The UTF-8 form of some characters. -/
def IsText (bytes : Bytes) : Prop :=
  Exists fun characters => bytes = ofCharacters characters

theorem isText_iff (bytes : Bytes) :
    IsText bytes ↔ Exists fun text => toText? bytes = some text := by
  constructor
  · rintro ⟨characters, rfl⟩
    exact ⟨_, toText?_ofCharacters characters⟩
  · rintro ⟨text, found⟩
    rcases (toText?_eq_some_iff bytes text).mp found with ⟨characters, equal, _⟩
    exact ⟨characters, equal⟩

theorem isText_nil : IsText [] :=
  ⟨[], rfl⟩

theorem IsText.append {first second : Bytes} (leading : IsText first) (trailing : IsText second) :
    IsText (first ++ second) := by
  rcases leading with ⟨left, rfl⟩
  rcases trailing with ⟨right, rfl⟩
  exact ⟨left ++ right, List.flatMap_append.symm⟩

theorem isText_character (character : Char) : IsText (String.utf8EncodeChar character) :=
  ⟨[character], (List.flatMap_singleton _ _).symm⟩

/-- ASCII bytes only. -/
def IsAscii (bytes : Bytes) : Prop :=
  forall byte, byte ∈ bytes -> byte.toNat < 0x80

instance decidableIsAscii (bytes : Bytes) : Decidable (IsAscii bytes) :=
  List.decidableBAll (fun byte : UInt8 => byte.toNat < 0x80) bytes

theorem isAscii_nil : IsAscii [] :=
  fun _ member => absurd member List.not_mem_nil

theorem IsAscii.cons {byte : UInt8} {bytes : Bytes} (others : IsAscii bytes)
    (small : byte.toNat < 0x80) : IsAscii (byte :: bytes) := by
  intro other member
  rcases List.mem_cons.mp member with rfl | member
  · exact small
  · exact others other member

theorem IsAscii.append {first second : Bytes} (leading : IsAscii first)
    (trailing : IsAscii second) : IsAscii (first ++ second) := by
  intro byte member
  rcases List.mem_append.mp member with member | member
  · exact leading byte member
  · exact trailing byte member

theorem IsAscii.isText {bytes : Bytes} (small : IsAscii bytes) : IsText bytes := by
  induction bytes with
  | nil => exact isText_nil
  | cons byte bytes inductionHypothesis =>
      have bound : byte.toNat < 0x80 := small byte List.mem_cons_self
      have others : IsAscii bytes := fun other member => small other (List.mem_cons_of_mem _ member)
      have valid : byte.toNat.isValidChar := Or.inl (by omega)
      have code : (Char.ofNat byte.toNat).toNat = byte.toNat := toNat_ofNat_of_valid valid
      have form : [byte] = String.utf8EncodeChar (Char.ofNat byte.toNat) := by
        rw [utf8EncodeChar_of_ascii (by rw [code]; exact bound), ascii, code, UInt8.ofNat_toNat]
      have head : IsText [byte] := form ▸ isText_character _
      exact head.append (inductionHypothesis others)

end Bytes

open Bytes

namespace Json

theorem Grammar.Gap.isAscii {gap : Bytes} (separators : Gap gap) : IsAscii gap := by
  intro byte member
  have separator := separators byte member
  simp only [Bytes.isSeparator, Bool.or_eq_true, beq_iff_eq] at separator
  rcases separator with ((rfl | rfl) | rfl) | rfl <;> decide

/-! ## Literals -/

theorem Grammar.Digits.isAscii {bytes : Bytes} {values : List Nat} (written : Digits bytes values) :
    IsAscii bytes := by
  induction written with
  | none => exact isAscii_nil
  | digit small _ inductionHypothesis =>
      apply inductionHypothesis.cons
      rw [UInt8.toNat_ofNat']
      omega

theorem Grammar.Whole.isAscii {bytes : Bytes} {values : List Nat} (written : Whole bytes values) :
    IsAscii bytes := by
  cases written with
  | zero => exact isAscii_nil.cons (by decide)
  | digits written _ => exact written.isAscii

theorem Grammar.Fraction.isAscii {bytes : Bytes} {values : Option (List Nat)}
    (written : Fraction bytes values) : IsAscii bytes := by
  cases written with
  | absent => exact isAscii_nil
  | present written _ => exact written.isAscii.cons (by decide)

theorem Grammar.Sign.isAscii {bytes : Bytes} {negative : Bool} (written : Sign bytes negative) :
    IsAscii bytes := by
  cases written with
  | absent => exact isAscii_nil
  | plus => exact isAscii_nil.cons (by decide)
  | minus => exact isAscii_nil.cons (by decide)

theorem Grammar.Exponent.isAscii {bytes : Bytes} {exponent : Option (Bool × List Nat)}
    (written : Exponent bytes exponent) : IsAscii bytes := by
  cases written with
  | absent => exact isAscii_nil
  | present mark sign written _ =>
      apply (sign.isAscii.append written.isAscii).cons
      rcases mark with rfl | rfl <;> decide

theorem Grammar.Literal.isAscii {bytes : Bytes} {numeral : Numeral}
    (written : Literal bytes numeral) : IsAscii bytes := by
  have unsigned {negative : Bool} {bytes : Bytes} (written : Unsigned negative bytes numeral) :
      IsAscii bytes := by
    cases written with
    | parts whole fraction exponent =>
        exact whole.isAscii.append (fraction.isAscii.append exponent.isAscii)
  cases written with
  | positive written => exact unsigned written
  | negative written => exact (unsigned written).cons (by decide)

theorem Grammar.HexDigit.isAscii {byte : UInt8} {value : Nat} (digit : HexDigit byte value) :
    byte.toNat < 0x80 := by
  cases digit <;>
  · rw [UInt8.toNat_ofNat']
    omega

theorem Grammar.CodeUnit.isAscii {bytes : Bytes} {value : Nat} (unit : CodeUnit bytes value) :
    IsAscii bytes := by
  cases unit with
  | digits first second third fourth =>
      exact (((isAscii_nil.cons fourth.isAscii).cons third.isAscii).cons second.isAscii).cons
        first.isAscii

theorem isAscii_escape (letter : Char) (small : (ascii letter).toNat < 0x80) :
    IsAscii [ascii '\\', ascii letter] :=
  (isAscii_nil.cons small).cons (by decide)

theorem Grammar.Spelling.isText {bytes : Bytes} {characters : List Char}
    (spelled : Spelling bytes characters) : IsText bytes := by
  induction spelled with
  | nothing => exact isText_nil
  | plain _ _ _ _ inductionHypothesis => exact (isText_character _).append inductionHypothesis
  | @short letter character bytes characters member _ inductionHypothesis =>
      exact (isAscii_escape letter (shortEscapes_letter member).1).isText.append inductionHypothesis
  | unit digits _ inductionHypothesis =>
      have escape := (isAscii_escape 'u' (by decide)).append digits.isAscii
      exact escape.isText.append inductionHypothesis
  | pair first second _ _ _ _ _ _ inductionHypothesis =>
      have leading := (isAscii_escape 'u' (by decide)).append first.isAscii
      have trailing := (isAscii_escape 'u' (by decide)).append second.isAscii
      have joined := leading.isText.append (trailing.isText.append inductionHypothesis)
      simpa only [List.cons_append, List.nil_append, List.append_assoc] using joined

theorem Grammar.TextText.isText {bytes : Bytes} {text : String}
    (written : TextText .keep bytes text) : IsText bytes := by
  have quote : IsText [ascii '"'] := (isAscii_nil.cons (by decide)).isText
  cases written with
  | quoted quoted =>
      cases quoted with
      | kept spelled => exact quote.append (spelled.isText.append quote)

theorem Grammar.ScalarText.isText {bytes : Bytes} {scalar : Scalar}
    (written : ScalarText .keep bytes scalar) : IsText bytes := by
  cases written with
  | null => exact IsAscii.isText (by decide)
  | true => exact IsAscii.isText (by decide)
  | false => exact IsAscii.isText (by decide)
  | number written =>
      cases written with
      | literal literal _ => exact literal.isAscii.isText
  | text written => exact written.isText

/-! ## Containers -/

theorem Lead.isAscii {first : Bool} {lead : Bytes} (before : Lead first lead) : IsAscii lead := by
  cases before with
  | first separators => exact separators.isAscii
  | later leading trailing =>
      exact leading.isAscii.append (trailing.isAscii.cons (by decide))

theorem Run.isText {Item : Type} {item : Bytes -> Item -> Prop} {first : Bool} {bytes : Bytes}
    {values : List Item} (run : Run item first bytes values)
    (inside : forall bytes value, value ∈ values -> item bytes value -> IsText bytes) :
    IsText bytes := by
  induction run with
  | done separators => exact separators.isAscii.isText
  | more lead element _ inductionHypothesis =>
      have here := inside _ _ List.mem_cons_self element
      have others := inductionHypothesis fun bytes value member =>
        inside bytes value (List.mem_cons_of_mem _ member)
      exact lead.isAscii.isText.append (here.append others)

theorem Grammar.Member.isText {Item : Type} {item : Bytes -> Item -> Prop} {bytes : Bytes}
    {pair : String × Item} (written : Member .keep item bytes pair)
    (inside : forall bytes, item bytes pair.2 -> IsText bytes) : IsText bytes := by
  cases written with
  | pair name before after value =>
      have colon : IsAscii _ := before.isAscii.append
        (after.isAscii.cons (show (ascii ':').toNat < 0x80 by decide))
      have joined := name.isText.append (colon.isText.append (inside _ value))
      simpa only [List.append_assoc, List.cons_append] using joined

/-- A container with a text inside is a text. -/
theorem isText_bracketed {opening closing : UInt8} {bytes : Bytes} (inside : IsText bytes)
    (small : IsAscii [opening, closing]) : IsText (opening :: (bytes ++ [closing])) := by
  have first : IsAscii [opening] := isAscii_nil.cons (small _ List.mem_cons_self)
  have last : IsAscii [closing] := fun byte member => small byte (List.mem_cons_of_mem _ member)
  exact first.isText.append (inside.append last.isText)

theorem Grammar.ValueText.isText {bytes : Bytes} {value : Value}
    (written : ValueText .keep bytes value) : IsText bytes := by
  refine ValueText.induct (motive := fun bytes _ => IsText bytes) ?_ ?_ ?_ written
  · intro bytes scalar written
    exact written.isText
  · intro bytes items elements
    apply isText_bracketed _ (by decide)
    exact ((run_true_iff _ _).mpr elements).isText fun _ _ _ inside => inside
  · intro bytes members elements
    apply isText_bracketed _ (by decide)
    exact ((run_true_iff _ _).mpr elements).isText fun _ _ _ member =>
      member.isText fun _ inside => inside

/-- A whole text of the grammar is the UTF-8 form of a text. -/
theorem Grammar.Document.isText {bytes : Bytes} {value : Value}
    (document : Document bytes value) : IsText bytes := by
  cases document with
  | value before written after =>
      exact before.isAscii.isText.append (written.isText.append after.isAscii.isText)

end Json
end Salutation
