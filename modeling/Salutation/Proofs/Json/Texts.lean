import Salutation.Proofs.Json.Numerals
import Salutation.Proofs.Utf8

namespace Salutation
namespace Json

open Grammar

/-!
# Reading text literals

The reader works on bytes: it takes whatever is not special as it stands, puts
bytes in the place of escapes, and asks only at the end whether the result is
UTF-8.  The grammar works on characters.  In between stands `Content`, the
relation of the bytes between two quotes to the bytes they stand for.

The step from bytes to characters is where a text could go wrong unnoticed: the
first bytes of a character might come from one place and the last ones from
another.  This cannot happen.  An escape always gives a whole character, so
that the bytes which continue a character are always taken as they stand, right
after the byte that begins it.
-/

/-! ## Hexadecimal digits -/

theorem hexDigit?_eq_some_iff (byte : UInt8) (value : Nat) :
    hexDigit? byte = some value ↔ HexDigit byte value := by
  constructor
  · intro found
    have code := byte.ofNat_toNat
    simp only [hexDigit?, Bool.and_eq_true, decide_eq_true_eq] at found
    split at found
    · next range =>
        have equal : value = byte.toNat - 0x30 := (Option.some.inj found).symm
        have written : byte = UInt8.ofNat (value + 0x30) := by
          rw [equal, Nat.sub_add_cancel range.1, code]
        exact written ▸ .decimal (by omega)
    · split at found
      · next range =>
          have equal : value = byte.toNat - 0x57 := (Option.some.inj found).symm
          have written : byte = UInt8.ofNat (value + 0x57) := by
            rw [equal, Nat.sub_add_cancel (by omega), code]
          exact written ▸ .lower (by omega) (by omega)
      · split at found
        · next range =>
            have equal : value = byte.toNat - 0x37 := (Option.some.inj found).symm
            have written : byte = UInt8.ofNat (value + 0x37) := by
              rw [equal, Nat.sub_add_cancel (by omega), code]
            exact written ▸ .upper (by omega) (by omega)
        · cases found
  · intro digit
    cases digit with
    | decimal small =>
        have code : (UInt8.ofNat (value + 0x30)).toNat = value + 0x30 := by
          rw [UInt8.toNat_ofNat']; omega
        simp only [hexDigit?, code, Bool.and_eq_true, decide_eq_true_eq]
        rw [if_pos ⟨by omega, by omega⟩, Nat.add_sub_cancel]
    | lower low high =>
        have code : (UInt8.ofNat (value + 0x57)).toNat = value + 0x57 := by
          rw [UInt8.toNat_ofNat']; omega
        simp only [hexDigit?, code, Bool.and_eq_true, decide_eq_true_eq]
        rw [if_neg (by omega), if_pos ⟨by omega, by omega⟩, Nat.add_sub_cancel]
    | upper low high =>
        have code : (UInt8.ofNat (value + 0x37)).toNat = value + 0x37 := by
          rw [UInt8.toNat_ofNat']; omega
        simp only [hexDigit?, code, Bool.and_eq_true, decide_eq_true_eq]
        rw [if_neg (by omega), if_neg (by omega), if_pos ⟨by omega, by omega⟩,
          Nat.add_sub_cancel]

theorem Grammar.HexDigit.lt {byte : UInt8} {value : Nat} (digit : HexDigit byte value) :
    value < 16 := by
  cases digit <;> omega

/-- Four hexadecimal digits stay within 16 bits. -/
theorem Grammar.CodeUnit.lt {bytes : Bytes} {value : Nat} (unit : CodeUnit bytes value) :
    value < 0x10000 := by
  cases unit with
  | digits first second third fourth =>
      have a := first.lt
      have b := second.lt
      have c := third.lt
      have d := fourth.lt
      omega

theorem readCodeUnit_append {bytes : Bytes} {value : Nat} (written : CodeUnit bytes value)
    (rest : Bytes) : readCodeUnit (bytes ++ rest) = .ok (value, rest) := by
  cases written with
  | digits first second third fourth =>
      rw [← hexDigit?_eq_some_iff] at first second third fourth
      simp only [List.cons_append, List.nil_append, readCodeUnit, first, second, third, fourth]

theorem readCodeUnit_sound {input rest : Bytes} {value : Nat}
    (found : readCodeUnit input = .ok (value, rest)) :
    Exists fun bytes => input = bytes ++ rest ∧ CodeUnit bytes value := by
  rw [readCodeUnit.eq_def] at found
  split at found
  · next first second third fourth after =>
      split at found
      · next a b c d firstDigit secondDigit thirdDigit fourthDigit =>
          cases found
          rw [hexDigit?_eq_some_iff] at firstDigit secondDigit thirdDigit fourthDigit
          exact ⟨[first, second, third, fourth], rfl,
            .digits firstDigit secondDigit thirdDigit fourthDigit⟩
      · cases found
  · cases found

/-! ## Escapes -/

/-- An escape after its backslash, and the bytes it stands for. -/
inductive Escape : Purpose -> Bytes -> Bytes -> Prop
  | short {purpose : Purpose} {letter character : Char} :
      (letter, character) ∈ shortEscapes ->
      Escape purpose [ascii letter] [ascii character]
  | unit {digits : Bytes} {value : Nat} :
      CodeUnit digits value -> isLowSurrogate value = false -> isHighSurrogate value = false ->
      Escape .keep (ascii 'u' :: digits) (encodeCodePoint value)
  | pair {first second : Bytes} {high low : Nat} :
      CodeUnit first high -> CodeUnit second low ->
      isHighSurrogate high = true -> isLowSurrogate low = true ->
      Escape .keep (ascii 'u' :: (first ++ (ascii '\\' :: ascii 'u' :: second)))
        (encodeCodePoint (0x10000 + (high - 0xd800) * 0x400 + (low - 0xdc00)))
  | passed {digits : Bytes} {value : Nat} :
      CodeUnit digits value -> Escape .skip (ascii 'u' :: digits) []

/-- The short escapes are those of the table. -/
theorem plainEscape?_eq_some_iff (byte plain : UInt8) :
    plainEscape? byte = some plain ↔
      Exists fun letter => Exists fun character =>
        (letter, character) ∈ shortEscapes ∧ byte = ascii letter ∧ plain = ascii character := by
  constructor
  · intro found
    simp only [plainEscape?] at found
    split at found
    · next same => exact ⟨'"', '"', by decide, same, (Option.some.inj found).symm⟩
    split at found
    · next same => exact ⟨'\\', '\\', by decide, same, (Option.some.inj found).symm⟩
    split at found
    · next same => exact ⟨'/', '/', by decide, same, (Option.some.inj found).symm⟩
    split at found
    · next same => exact ⟨'b', '\x08', by decide, same, (Option.some.inj found).symm⟩
    split at found
    · next same => exact ⟨'f', '\x0c', by decide, same, (Option.some.inj found).symm⟩
    split at found
    · next same => exact ⟨'n', '\n', by decide, same, (Option.some.inj found).symm⟩
    split at found
    · next same => exact ⟨'r', '\r', by decide, same, (Option.some.inj found).symm⟩
    split at found
    · next same => exact ⟨'t', '\t', by decide, same, (Option.some.inj found).symm⟩
    · cases found
  · rintro ⟨letter, character, member, rfl, rfl⟩
    simp only [shortEscapes, List.mem_cons, Prod.mk.injEq, List.not_mem_nil, or_false] at member
    rcases member with ⟨rfl, rfl⟩ | ⟨rfl, rfl⟩ | ⟨rfl, rfl⟩ | ⟨rfl, rfl⟩ | ⟨rfl, rfl⟩ |
      ⟨rfl, rfl⟩ | ⟨rfl, rfl⟩ | ⟨rfl, rfl⟩ <;> rfl

theorem shortEscapes_ascii {letter character : Char} (member : (letter, character) ∈ shortEscapes) :
    character.toNat < 0x80 := by
  simp only [shortEscapes, List.mem_cons, Prod.mk.injEq, List.not_mem_nil, or_false] at member
  rcases member with ⟨_, rfl⟩ | ⟨_, rfl⟩ | ⟨_, rfl⟩ | ⟨_, rfl⟩ | ⟨_, rfl⟩ | ⟨_, rfl⟩ |
    ⟨_, rfl⟩ | ⟨_, rfl⟩ <;> decide

/-- The letters of the short escapes are ASCII, and none of them is that of a
code unit. -/
theorem shortEscapes_letter {letter character : Char}
    (member : (letter, character) ∈ shortEscapes) :
    (ascii letter).toNat < 0x80 ∧ ascii letter ≠ ascii 'u' := by
  simp only [shortEscapes, List.mem_cons, Prod.mk.injEq, List.not_mem_nil, or_false] at member
  rcases member with ⟨rfl, _⟩ | ⟨rfl, _⟩ | ⟨rfl, _⟩ | ⟨rfl, _⟩ | ⟨rfl, _⟩ | ⟨rfl, _⟩ |
    ⟨rfl, _⟩ | ⟨rfl, _⟩ <;> decide

theorem not_low_of_high {value : Nat} (isHigh : isHighSurrogate value = true) :
    isLowSurrogate value = false := by
  simp only [isHighSurrogate, Bool.and_eq_true, decide_eq_true_eq] at isHigh
  simp only [isLowSurrogate, Bool.and_eq_false_iff, decide_eq_false_iff_not]
  omega

theorem readLowSurrogate_append {second : Bytes} {low : Nat} (high : Nat)
    (written : CodeUnit second low) (isLow : isLowSurrogate low = true) (rest : Bytes) :
    readLowSurrogate high (ascii '\\' :: ascii 'u' :: (second ++ rest)) =
      .ok (encodeCodePoint (0x10000 + (high - 0xd800) * 0x400 + (low - 0xdc00)), rest) := by
  simp only [readLowSurrogate, readPairMark, if_true, readCodeUnit_append written rest, isLow]

theorem readEscape_append {purpose : Purpose} {bytes plain : Bytes}
    (written : Escape purpose bytes plain) (rest : Bytes) :
    readEscape purpose (bytes ++ rest) = .ok (plain, rest) := by
  cases written with
  | short member =>
      have found := (plainEscape?_eq_some_iff _ _).mpr ⟨_, _, member, rfl, rfl⟩
      simp only [List.cons_append, List.nil_append, readEscape, found]
  | unit written notLow notHigh =>
      have letter : plainEscape? (ascii 'u') = none := by decide
      simp only [List.cons_append, readEscape, letter, if_true, readCodeUnit_append written rest,
        notLow, notHigh, Bool.false_eq_true, if_false]
  | pair first second isHigh isLow =>
      have letter : plainEscape? (ascii 'u') = none := by decide
      simp only [List.cons_append, List.append_assoc, readEscape, letter, if_true,
        readCodeUnit_append first, not_low_of_high isHigh, Bool.false_eq_true, if_false, isHigh,
        readLowSurrogate_append _ second isLow _]
  | passed written =>
      have letter : plainEscape? (ascii 'u') = none := by decide
      simp only [List.cons_append, readEscape, letter, if_true, readCodeUnit_append written rest]

theorem readPairMark_sound {mark : UInt8} {input rest : Bytes}
    (found : readPairMark mark input = .ok rest) : input = mark :: rest := by
  cases input with
  | nil => cases found
  | cons byte tail =>
      rw [readPairMark] at found
      split at found
      · next same => rw [same, Except.ok.inj found]
      · cases found

theorem readLowSurrogate_sound {high : Nat} {input rest plain : Bytes}
    (found : readLowSurrogate high input = .ok (plain, rest)) :
    Exists fun second => Exists fun low =>
      input = ascii '\\' :: ascii 'u' :: (second ++ rest) ∧ CodeUnit second low ∧
        isLowSurrogate low = true ∧
        plain = encodeCodePoint (0x10000 + (high - 0xd800) * 0x400 + (low - 0xdc00)) := by
  rw [readLowSurrogate] at found
  split at found
  · cases found
  · next afterBackslash backslash =>
      split at found
      · cases found
      · next afterMark mark =>
          split at found
          · cases found
          · next low after read =>
              rcases readCodeUnit_sound read with ⟨second, split, written⟩
              split at found
              · next isLow =>
                  rw [Except.ok.injEq, Prod.mk.injEq] at found
                  rcases found with ⟨rfl, rfl⟩
                  refine ⟨second, low, ?_, written, isLow, rfl⟩
                  rw [readPairMark_sound backslash, readPairMark_sound mark, split]
              · cases found

theorem readEscape_sound {purpose : Purpose} {input rest plain : Bytes}
    (found : readEscape purpose input = .ok (plain, rest)) :
    Exists fun bytes => input = bytes ++ rest ∧ Escape purpose bytes plain := by
  cases input with
  | nil => cases found
  | cons byte tail =>
      rw [readEscape] at found
      split at found
      · next short known =>
          cases found
          rcases (plainEscape?_eq_some_iff _ _).mp known with ⟨letter, character, member, rfl, rfl⟩
          exact ⟨[ascii letter], rfl, .short member⟩
      · split at found
        · next letter =>
            subst letter
            split at found
            · cases found
            · next value after read =>
                rcases readCodeUnit_sound read with ⟨digits, split, written⟩
                cases purpose with
                | skip =>
                    cases found
                    exact ⟨ascii 'u' :: digits, by rw [split, List.cons_append], .passed written⟩
                | keep =>
                    simp only at found
                    split at found
                    · cases found
                    · next notLow =>
                        split at found
                        · next isHigh =>
                            rcases readLowSurrogate_sound found with
                              ⟨second, low, further, secondWritten, isLow, equal⟩
                            rw [equal]
                            refine ⟨_, ?_, .pair written secondWritten isHigh isLow⟩
                            rw [split, further, List.cons_append, List.append_assoc]
                            rfl
                        · next notHigh =>
                            rw [Except.ok.injEq, Prod.mk.injEq] at found
                            rcases found with ⟨rfl, rfl⟩
                            refine ⟨ascii 'u' :: digits, by rw [split, List.cons_append], ?_⟩
                            exact Escape.unit written (Bool.eq_false_iff.mpr notLow)
                              (Bool.eq_false_iff.mpr notHigh)
        · cases found

/-! ## Bytes between quotes -/

/-- A byte that may stand for itself between quotes. -/
def Ordinary (byte : UInt8) : Prop :=
  0x20 <= byte ∧ byte ≠ ascii '"' ∧ byte ≠ ascii '\\'

/-- Bytes between two quotes, and the bytes they stand for. -/
inductive Content (purpose : Purpose) : Bytes -> Bytes -> Prop
  | nothing : Content purpose [] []
  | plain {byte : UInt8} {bytes content : Bytes} :
      Ordinary byte -> Content purpose bytes content ->
      Content purpose (byte :: bytes) (byte :: content)
  | escape {bytes plain rest content : Bytes} :
      Escape purpose bytes plain -> Content purpose rest content ->
      Content purpose (ascii '\\' :: (bytes ++ rest)) (plain ++ content)

theorem readContent_append {purpose : Purpose} {bytes content : Bytes}
    (written : Content purpose bytes content) (rest : Bytes) :
    forall (steps before : Bytes), bytes.length < steps.length ->
      readContent purpose steps before (bytes ++ ascii '"' :: rest) =
        .ok (before.reverse ++ content, rest) := by
  induction written with
  | nothing =>
      intro steps before enough
      cases steps with
      | nil => cases enough
      | cons step steps =>
          simp only [List.nil_append, readContent, if_true, List.append_nil]
  | @plain byte bytes content ordinary _ inductionHypothesis =>
      intro steps before enough
      cases steps with
      | nil => cases enough
      | cons step steps =>
          have notControl : ¬ byte < 0x20 := UInt8.not_lt.mpr ordinary.1
          rw [List.cons_append, readContent, if_neg ordinary.2.1, if_neg ordinary.2.2,
            if_neg notControl, inductionHypothesis steps _ (Nat.lt_of_succ_lt_succ enough),
            List.reverse_cons, List.append_assoc, List.singleton_append]
  | @escape bytes plain further content written _ inductionHypothesis =>
      intro steps before enough
      cases steps with
      | nil => cases enough
      | cons step steps =>
          have notQuote : ¬ ascii '\\' = ascii '"' := by decide
          have shorter : further.length < steps.length := by
            simp only [List.length_cons, List.length_append] at enough
            omega
          rw [List.cons_append, List.append_assoc, readContent, if_neg notQuote, if_pos rfl,
            readEscape_append written]
          simp only [inductionHypothesis steps _ shorter, List.reverse_append,
            List.reverse_reverse, List.append_assoc]

theorem readContent_sound {purpose : Purpose} {rest result : Bytes} (steps : Bytes) :
    forall (before input : Bytes),
      readContent purpose steps before input = .ok (result, rest) ->
      Exists fun bytes => Exists fun content =>
        input = bytes ++ ascii '"' :: rest ∧ result = before.reverse ++ content ∧
          Content purpose bytes content := by
  induction steps with
  | nil =>
      intro before input found
      cases found
  | cons step steps inductionHypothesis =>
      intro before input found
      cases input with
      | nil => cases found
      | cons byte tail =>
          rw [readContent] at found
          split at found
          · next quote =>
              rw [Except.ok.injEq, Prod.mk.injEq] at found
              refine ⟨[], [], ?_, ?_, .nothing⟩
              · rw [quote, found.2, List.nil_append]
              · rw [found.1, List.append_nil]
          · next notQuote =>
              split at found
              · next backslash =>
                  split at found
                  · cases found
                  · next plain after read =>
                      rcases readEscape_sound read with ⟨escape, escapeSplit, escapeWritten⟩
                      rcases inductionHypothesis _ _ found with
                        ⟨bytes, content, split, equal, written⟩
                      refine ⟨ascii '\\' :: (escape ++ bytes), plain ++ content, ?_, ?_,
                        .escape escapeWritten written⟩
                      · rw [backslash, escapeSplit, split, List.cons_append, List.append_assoc]
                      · rw [equal, List.reverse_append, List.reverse_reverse, List.append_assoc]
              · next notBackslash =>
                  split at found
                  · cases found
                  · next notControl =>
                      rcases inductionHypothesis _ _ found with
                        ⟨bytes, content, split, equal, written⟩
                      refine ⟨byte :: bytes, byte :: content, ?_, ?_,
                        .plain ⟨UInt8.not_lt.mp notControl, notQuote, notBackslash⟩ written⟩
                      · rw [split, List.cons_append]
                      · rw [equal, List.reverse_cons, List.append_assoc, List.singleton_append]

/-! ## From bytes to characters -/

/-- Bytes that may stand for themselves stand for themselves. -/
theorem Content.append_plain {purpose : Purpose} {rest content : Bytes}
    (written : Content purpose rest content) (bytes : Bytes)
    (ordinary : forall byte, byte ∈ bytes -> Ordinary byte) :
    Content purpose (bytes ++ rest) (bytes ++ content) := by
  induction bytes with
  | nil => exact written
  | cons byte bytes inductionHypothesis =>
      refine .plain (ordinary byte List.mem_cons_self) (inductionHypothesis ?_)
      intro other member
      exact ordinary other (List.mem_cons_of_mem _ member)

theorem utf8EncodeChar_ordinary {character : Char} (printable : 0x20 <= character.toNat)
    (notQuote : character ≠ '"') (notBackslash : character ≠ '\\') :
    forall byte, byte ∈ String.utf8EncodeChar character -> Ordinary byte := by
  intro byte member
  by_cases small : character.toNat < 0x80
  · rw [Bytes.utf8EncodeChar_of_ascii small, List.mem_singleton] at member
    have code : byte.toNat = character.toNat := by
      rw [member, ascii, UInt8.toNat_ofNat']
      omega
    refine ⟨UInt8.le_iff_toNat_le.mpr (by rw [code]; exact printable), ?_, ?_⟩
    · intro equal
      rw [equal] at code
      exact notQuote (Char.toNat_inj.mp code.symm)
    · intro equal
      rw [equal] at code
      exact notBackslash (Char.toNat_inj.mp code.symm)
  · have high := Bytes.le_of_mem_utf8EncodeChar (Nat.le_of_not_lt small) member
    refine ⟨UInt8.le_iff_toNat_le.mpr (Nat.le_trans (by decide) high), ?_, ?_⟩
    · intro equal
      rw [equal] at high
      exact absurd high (by decide)
    · intro equal
      rw [equal] at high
      exact absurd high (by decide)

/-- A character with a byte of its own form that may stand for itself may do so
as a whole. -/
theorem printable_of_ordinary {character : Char} {leading : UInt8} {others : Bytes}
    (shape : String.utf8EncodeChar character = leading :: others) (ordinary : Ordinary leading) :
    0x20 <= character.toNat ∧ character ≠ '"' ∧ character ≠ '\\' := by
  by_cases small : character.toNat < 0x80
  · rw [Bytes.utf8EncodeChar_of_ascii small] at shape
    have same : ascii character = leading := (List.cons.inj shape).1
    subst same
    refine ⟨?_, ?_, ?_⟩
    · have least := UInt8.le_iff_toNat_le.mp ordinary.1
      rw [ascii, UInt8.toNat_ofNat', Nat.mod_eq_of_lt (by omega)] at least
      exact least
    · intro equal
      exact ordinary.2.1 (congrArg ascii equal)
    · intro equal
      exact ordinary.2.2 (congrArg ascii equal)
  · refine ⟨by omega, ?_, ?_⟩ <;>
    · intro equal
      rw [equal] at small
      exact absurd (by decide) small

theorem toNat_ofNat_of_valid {code : Nat} (valid : code.isValidChar) :
    (Char.ofNat code).toNat = code := by
  rw [Char.ofNat, dif_pos valid]
  rfl

/-- What an escape in a kept text stands for is one whole character. -/
theorem Escape.character {bytes plain : Bytes} (written : Escape .keep bytes plain) :
    Exists fun character => plain = String.utf8EncodeChar character ∧
      forall (rest : Bytes) (characters : List Char), Spelling rest characters ->
        Spelling (ascii '\\' :: (bytes ++ rest)) (character :: characters) := by
  cases written with
  | @short _ letter character member =>
      refine ⟨character, (Bytes.utf8EncodeChar_of_ascii (shortEscapes_ascii member)).symm, ?_⟩
      intro rest characters spelled
      exact .short member spelled
  | @unit digits value written notLow notHigh =>
      have bound := written.lt
      simp only [isLowSurrogate, Bool.and_eq_false_iff, decide_eq_false_iff_not] at notLow
      simp only [isHighSurrogate, Bool.and_eq_false_iff, decide_eq_false_iff_not] at notHigh
      have valid : value.isValidChar := by
        simp only [Nat.isValidChar]
        omega
      refine ⟨Char.ofNat value, rfl, ?_⟩
      intro rest characters spelled
      refine .unit ?_ spelled
      rw [toNat_ofNat_of_valid valid]
      exact written
  | @pair first second high low firstWritten secondWritten isHigh isLow =>
      simp only [isHighSurrogate, Bool.and_eq_true, decide_eq_true_eq] at isHigh
      simp only [isLowSurrogate, Bool.and_eq_true, decide_eq_true_eq] at isLow
      have valid : (0x10000 + (high - 0xd800) * 0x400 + (low - 0xdc00)).isValidChar := by
        simp only [Nat.isValidChar]
        omega
      refine ⟨Char.ofNat (0x10000 + (high - 0xd800) * 0x400 + (low - 0xdc00)), rfl, ?_⟩
      intro rest characters spelled
      have pair := Spelling.pair firstWritten secondWritten isHigh.1 isHigh.2 isLow.1 isLow.2
        (toNat_ofNat_of_valid valid) spelled
      simpa only [List.cons_append, List.append_assoc] using pair

/-- The bytes that continue a character are taken as they stand: an escape
would begin another character. -/
theorem Content.continuation {bytes content : Bytes} (others : Bytes)
    (continuing : forall byte, byte ∈ others -> ¬ byte.IsUTF8FirstByte)
    (written : Content .keep bytes (others ++ content)) :
    Exists fun rest => bytes = others ++ rest ∧ Content .keep rest content := by
  induction others generalizing bytes with
  | nil => exact ⟨bytes, rfl, written⟩
  | cons other others inductionHypothesis =>
      have later : forall byte, byte ∈ others -> ¬ byte.IsUTF8FirstByte := fun byte member =>
        continuing byte (List.mem_cons_of_mem _ member)
      rw [List.cons_append] at written
      generalize target : other :: (others ++ content) = whole at written
      cases written with
      | nothing => cases target
      | plain ordinary further =>
          cases target
          rcases inductionHypothesis later further with ⟨rest, split, remaining⟩
          exact ⟨rest, by rw [split, List.cons_append], remaining⟩
      | escape escaped further =>
          rcases escaped.character with ⟨character, form, _⟩
          rcases Bytes.utf8EncodeChar_shape character with ⟨leading, rest, shape, first, _⟩
          rw [form, shape, List.cons_append] at target
          have same : other = leading := (List.cons.inj target).1
          exact absurd (same ▸ first) (continuing other List.mem_cons_self)

/-- Bytes that stand for the UTF-8 form of characters spell these characters. -/
theorem Content.spelling {characters : List Char} :
    forall {bytes : Bytes}, Content .keep bytes (Bytes.ofCharacters characters) ->
      Spelling bytes characters := by
  induction characters with
  | nil =>
      intro bytes written
      generalize target : Bytes.ofCharacters [] = whole at written
      cases written with
      | nothing => exact .nothing
      | plain _ _ => cases target
      | escape escaped _ =>
          rcases escaped.character with ⟨character, form, _⟩
          rcases Bytes.utf8EncodeChar_shape character with ⟨leading, others, shape, _, _⟩
          rw [form, shape] at target
          cases target
  | cons character characters inductionHypothesis =>
      intro bytes written
      rw [Bytes.ofCharacters_cons] at written
      generalize target :
        String.utf8EncodeChar character ++ Bytes.ofCharacters characters = whole at written
      cases written with
      | nothing =>
          exact absurd (List.append_eq_nil_iff.mp target).1 String.utf8EncodeChar_ne_nil
      | escape escaped further =>
          rcases escaped.character with ⟨other, form, spell⟩
          rw [form] at target
          rcases Bytes.utf8EncodeChar_append_inj target with ⟨same, remaining⟩
          subst same
          exact spell _ _ (inductionHypothesis (remaining ▸ further))
      | @plain byte tail content ordinary further =>
          rcases Bytes.utf8EncodeChar_shape character with ⟨leading, others, shape, _, continuing⟩
          rw [shape, List.cons_append] at target
          rcases List.cons.inj target with ⟨same, remaining⟩
          subst same
          rcases Content.continuation others continuing (remaining ▸ further) with
            ⟨rest, split, last⟩
          have spelled := inductionHypothesis last
          have plain := printable_of_ordinary shape ordinary
          have spelling := Spelling.plain plain.1 plain.2.1 plain.2.2 spelled
          rw [shape] at spelling
          rw [split]
          exact spelling

/-- Spelled characters stand for their UTF-8 form. -/
theorem Grammar.Spelling.content {bytes : Bytes} {characters : List Char}
    (spelled : Spelling bytes characters) :
    Content .keep bytes (Bytes.ofCharacters characters) := by
  induction spelled with
  | nothing => exact .nothing
  | plain printable notQuote notBackslash _ inductionHypothesis =>
      rw [Bytes.ofCharacters_cons]
      exact inductionHypothesis.append_plain _
        (utf8EncodeChar_ordinary printable notQuote notBackslash)
  | short member _ inductionHypothesis =>
      rw [Bytes.ofCharacters_cons, Bytes.utf8EncodeChar_of_ascii (shortEscapes_ascii member)]
      exact .escape (.short member) inductionHypothesis
  | @unit digits bytes character characters written _ inductionHypothesis =>
      have valid : character.toNat.isValidChar := character.valid
      simp only [Nat.isValidChar] at valid
      have notLow : isLowSurrogate character.toNat = false := by
        simp only [isLowSurrogate, Bool.and_eq_false_iff, decide_eq_false_iff_not]
        omega
      have notHigh : isHighSurrogate character.toNat = false := by
        simp only [isHighSurrogate, Bool.and_eq_false_iff, decide_eq_false_iff_not]
        omega
      have escaped := Content.escape (.unit written notLow notHigh) inductionHypothesis
      rw [encodeCodePoint, Char.ofNat_toNat] at escaped
      rw [Bytes.ofCharacters_cons]
      exact escaped
  | @pair first second bytes high low character characters firstWritten secondWritten
      highLeast highMost lowLeast lowMost code _ inductionHypothesis =>
      have isHigh : isHighSurrogate high = true := by
        simp only [isHighSurrogate, Bool.and_eq_true, decide_eq_true_eq]
        exact ⟨highLeast, highMost⟩
      have isLow : isLowSurrogate low = true := by
        simp only [isLowSurrogate, Bool.and_eq_true, decide_eq_true_eq]
        exact ⟨lowLeast, lowMost⟩
      have escaped := Content.escape (.pair firstWritten secondWritten isHigh isLow)
        inductionHypothesis
      rw [encodeCodePoint, ← code, Char.ofNat_toNat] at escaped
      rw [Bytes.ofCharacters_cons]
      simpa only [List.cons_append, List.append_assoc] using escaped

/-- A passage is what stands between quotes for a reader that skips. -/
theorem passage_iff_content (bytes : Bytes) :
    Passage bytes ↔ Exists fun content => Content .skip bytes content := by
  constructor
  · intro passage
    induction passage with
    | nothing => exact ⟨[], .nothing⟩
    | plain least notQuote notBackslash _ inductionHypothesis =>
        rcases inductionHypothesis with ⟨content, written⟩
        exact ⟨_, .plain ⟨least, notQuote, notBackslash⟩ written⟩
    | short member _ inductionHypothesis =>
        rcases inductionHypothesis with ⟨content, written⟩
        exact ⟨_, .escape (.short member) written⟩
    | unit digits _ inductionHypothesis =>
        rcases inductionHypothesis with ⟨content, written⟩
        exact ⟨_, .escape (.passed digits) written⟩
  · rintro ⟨content, written⟩
    induction written with
    | nothing => exact .nothing
    | plain ordinary _ inductionHypothesis =>
        exact .plain ordinary.1 ordinary.2.1 ordinary.2.2 inductionHypothesis
    | escape escaped _ inductionHypothesis =>
        cases escaped with
        | short member => exact .short member inductionHypothesis
        | passed digits => exact .unit digits inductionHypothesis

/-! ## Whole literals -/

/-- The input itself bounds the steps that its own content takes. -/
theorem readContent_whole {purpose : Purpose} {bytes content : Bytes}
    (written : Content purpose bytes content) (rest : Bytes) :
    readContent purpose (bytes ++ ascii '"' :: rest) [] (bytes ++ ascii '"' :: rest) =
      .ok (content, rest) := by
  rw [readContent_append written rest _ []]
  · rfl
  · rw [List.length_append, List.length_cons]
    omega

theorem readText_append {purpose : Purpose} {bytes : Bytes} {text : String}
    (quoted : Quoted purpose bytes text) (rest : Bytes) :
    readText purpose (bytes ++ ascii '"' :: rest) = .ok (text, rest) := by
  cases quoted with
  | kept spelled =>
      simp only [readText, readContent_whole spelled.content rest, Bytes.toText?_ofCharacters]
  | skipped passage =>
      rcases (passage_iff_content bytes).mp passage with ⟨content, written⟩
      simp only [readText, readContent_whole written rest]

theorem readText_sound {purpose : Purpose} {input rest : Bytes} {text : String}
    (found : readText purpose input = .ok (text, rest)) :
    Exists fun bytes => input = bytes ++ ascii '"' :: rest ∧ Quoted purpose bytes text := by
  rw [readText] at found
  split at found
  · cases found
  · next result after read =>
      rcases readContent_sound _ _ _ read with ⟨bytes, content, split, equal, written⟩
      rw [List.reverse_nil, List.nil_append] at equal
      subst equal
      cases purpose with
      | skip =>
          cases found
          exact ⟨bytes, split, .skipped ((passage_iff_content bytes).mpr ⟨_, written⟩)⟩
      | keep =>
          simp only at found
          split at found
          · next known =>
              cases found
              rcases (Bytes.toText?_eq_some_iff _ _).mp known with ⟨characters, form, rfl⟩
              subst form
              exact ⟨bytes, split, .kept written.spelling⟩
          · cases found

end Json
end Salutation
