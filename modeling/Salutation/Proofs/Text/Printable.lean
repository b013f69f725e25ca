import Salutation.Decimal.Shortest
import Salutation.Text.Quoted
import Salutation.Proofs.Utf8

namespace Salutation
namespace Text

/-!
# Texts that stay on their line

A text of printable characters has no line feed and no other control, so that
nothing that is shown with it can be mistaken for a line of its own.  A quoted
text is printable whatever it quotes, and so is every number.
-/

/-- Printable characters only. -/
def AllPrintable (characters : List Char) : Prop :=
  forall character, character ∈ characters -> isUnprintable character = false

instance decidableAllPrintable (characters : List Char) : Decidable (AllPrintable characters) :=
  List.decidableBAll (fun character => isUnprintable character = false) characters

/-- All characters of a text are printable. -/
def IsPrintable (text : String) : Prop := AllPrintable text.toList

instance decidableIsPrintable (text : String) : Decidable (IsPrintable text) :=
  decidableAllPrintable text.toList

theorem AllPrintable.append {first second : List Char} (leading : AllPrintable first)
    (trailing : AllPrintable second) : AllPrintable (first ++ second) := by
  intro character member
  rcases List.mem_append.mp member with member | member
  · exact leading character member
  · exact trailing character member

theorem AllPrintable.sublist {part whole : List Char} (printable : AllPrintable whole)
    (contained : part.Sublist whole) : AllPrintable part :=
  fun character member => printable character (contained.subset member)

theorem AllPrintable.isPrintable {characters : List Char} (printable : AllPrintable characters) :
    IsPrintable (String.ofList characters) := by
  rw [IsPrintable, String.toList_ofList]
  exact printable

theorem IsPrintable.append {first second : String} (leading : IsPrintable first)
    (trailing : IsPrintable second) : IsPrintable (first ++ second) := by
  rw [IsPrintable, String.toList_append]
  exact AllPrintable.append leading trailing

/-- A printable text has no line feed. -/
theorem IsPrintable.not_mem_lineFeed {text : String} (printable : IsPrintable text) :
    '\n' ∉ text.toList := by
  intro member
  have shown := printable '\n' member
  cases shown

/-- The bytes of the visible ASCII characters and of the space. -/
def isVisible (byte : UInt8) : Bool :=
  0x20 <= byte.toNat && byte.toNat <= 0x7e

/-- A text is printable when all its bytes are visible. -/
theorem isPrintable_of_visible {text : String}
    (visible : (Bytes.ofText text).all isVisible = true) : IsPrintable text := by
  intro character member
  rw [Bytes.ofText_eq, List.all_eq_true] at visible
  have inside : forall byte, byte ∈ String.utf8EncodeChar character ->
      0x20 <= byte.toNat ∧ byte.toNat <= 0x7e := by
    intro byte part
    have shown := visible byte (List.mem_flatMap.mpr ⟨character, member, part⟩)
    rw [isVisible, Bool.and_eq_true, decide_eq_true_iff, decide_eq_true_iff] at shown
    exact shown
  by_cases small : character.toNat < 0x80
  · rw [Bytes.utf8EncodeChar_of_ascii small] at inside
    have bounds := inside _ List.mem_cons_self
    rw [ascii, UInt8.toNat_ofNat'] at bounds
    have range : 0x20 <= character.toNat ∧ character.toNat <= 0x7e := by omega
    simp only [isUnprintable, range.1, range.2, decide_true, Bool.and_true, if_true]
  · cases form : String.utf8EncodeChar character with
    | nil => exact absurd form String.utf8EncodeChar_ne_nil
    | cons leading others =>
        have first : leading ∈ String.utf8EncodeChar character := by
          rw [form]
          exact List.mem_cons_self
        have large := Bytes.le_of_mem_utf8EncodeChar (Nat.not_lt.mp small) first
        have bounds := inside leading first
        omega

/-! ## Numbers -/

theorem digitChar_printable {digit : Nat} (small : digit < 16) :
    isUnprintable (Nat.digitChar digit) = false := by
  have all : forall digit, digit < 16 -> isUnprintable (Nat.digitChar digit) = false := by decide
  exact all digit small

/-- The digits of a number are printable. -/
theorem allPrintable_toDigits {base : Nat} (positional : 1 < base) (known : base <= 16)
    (number : Nat) : AllPrintable (Nat.toDigits base number) := by
  induction number using Nat.strongRecOn with
  | ind number inductionHypothesis =>
      rw [Nat.toDigits_eq_if positional]
      split
      · next small =>
          intro character member
          rw [List.mem_singleton.mp member]
          exact digitChar_printable (Nat.lt_of_lt_of_le small known)
      · next large =>
          have smaller : number / base < number := Nat.div_lt_self (by omega) positional
          have last : number % base < base := Nat.mod_lt _ (by omega)
          apply (inductionHypothesis _ smaller).append
          intro character member
          rw [List.mem_singleton.mp member]
          exact digitChar_printable (Nat.lt_of_lt_of_le last known)

theorem isPrintable_natural (number : Nat) : IsPrintable (toString number) := by
  have digits : toString number = String.ofList (Nat.toDigits 10 number) :=
    Nat.repr_eq_ofList_toDigits
  rw [digits]
  exact (allPrintable_toDigits (by decide) (by decide) number).isPrintable

theorem isPrintable_integer (number : Int) : IsPrintable (toString number) := by
  cases number with
  | ofNat number => exact isPrintable_natural number
  | negSucc number =>
      have sign : IsPrintable "-" := by decide
      exact sign.append (isPrintable_natural (number + 1))

theorem allPrintable_zeros (count : Nat) : AllPrintable (List.replicate count '0') := by
  intro character member
  rw [List.eq_of_mem_replicate member]
  decide

theorem allPrintable_shortest (value : Decimal.Binary64) : AllPrintable value.shortest.digits := by
  have zero : AllPrintable ['0'] := by decide
  unfold Decimal.Binary64.shortest
  simp only
  split
  · exact zero
  · split
    · next number _ _ =>
        have digits : AllPrintable (Nat.toDigits 10 number) :=
          allPrintable_toDigits (by decide) (by decide) number
        apply digits.sublist
        rw [← List.reverse_sublist, List.reverse_reverse]
        exact List.dropWhile_sublist _
    · exact zero

theorem isPrintable_magnitude (value : Decimal.Binary64) : IsPrintable value.text := by
  have digits := allPrintable_shortest value
  unfold Decimal.Binary64.text
  simp only
  split
  · have point : AllPrintable ['0', '.'] := by decide
    exact ((point.append (allPrintable_zeros _)).append digits).isPrintable
  · split
    · have padded := digits.append (allPrintable_zeros
        (value.shortest.exponent.natAbs + 1 + 1 - value.shortest.digits.length))
      have point : AllPrintable ['.'] := by decide
      have whole := padded.sublist (List.take_sublist (value.shortest.exponent.natAbs + 1) _)
      exact ((whole.append point).append (padded.sublist (List.drop_sublist _ _))).isPrintable
    · have mark : AllPrintable ['e'] := by decide
      have sign : AllPrintable (if value.shortest.exponent < 0 then ['-'] else ['+']) := by
        split <;> decide
      have decimals : AllPrintable (if value.shortest.digits.length <= 1 then []
          else '.' :: value.shortest.digits.drop 1) := by
        have point : AllPrintable ['.'] := by decide
        split
        · decide
        · exact point.append (digits.sublist (List.drop_sublist _ _))
      have exponent : AllPrintable (Nat.toDigits 10 value.shortest.exponent.natAbs) :=
        allPrintable_toDigits (by decide) (by decide) _
      have leading := digits.sublist (List.take_sublist 1 _)
      exact ((((leading.append decimals).append mark).append sign).append exponent).isPrintable

/-! ## Quoted texts -/

/-- A character is quoted by printable ones. -/
theorem allPrintable_escapeQuoted (character : Char) : AllPrintable (escapeQuoted character) := by
  unfold escapeQuoted
  split
  · decide
  split
  · decide
  split
  · decide
  split
  · decide
  split
  · decide
  split
  · decide
  split
  · have opening : AllPrintable ['\\', 'u', '\x7b'] := by decide
    have closing : AllPrintable ['\x7d'] := by decide
    exact (opening.append (allPrintable_toDigits (by decide) (by decide) _)).append closing
  · next printable =>
      intro shown member
      rw [List.mem_singleton.mp member]
      exact Bool.eq_false_iff.mpr printable

/-- A quoted text is printable, whatever it quotes. -/
theorem isPrintable_quoted (text : String) : IsPrintable (quoted text) := by
  have quote : AllPrintable ['"'] := by decide
  have content : AllPrintable (text.toList.flatMap escapeQuoted) := by
    intro shown member
    rcases List.mem_flatMap.mp member with ⟨character, _, shows⟩
    exact allPrintable_escapeQuoted character shown shows
  exact ((quote.append content).append quote).isPrintable

end Text
end Salutation
