import Salutation.Bytes

namespace Salutation
namespace Bytes

/-!
# The UTF-8 form of characters

A character has a UTF-8 form of one to four bytes, and the first byte of it
can be told from the others.  Two things follow.  The forms are self-delimiting,
so that a byte string is the form of at most one list of characters.  And a
character that is not ASCII consists of bytes beyond ASCII only, so that a
reader which looks for ASCII bytes never finds one inside a character.
-/

/-- The UTF-8 form of characters. -/
def ofCharacters (characters : List Char) : Bytes :=
  characters.flatMap String.utf8EncodeChar

theorem ofCharacters_cons (character : Char) (characters : List Char) :
    ofCharacters (character :: characters) =
      String.utf8EncodeChar character ++ ofCharacters characters :=
  List.flatMap_cons

/-- The bytes of a text are the form of its characters. -/
theorem ofText_eq (text : String) : ofText text = ofCharacters text.toList := by
  have encoded : text.toUTF8 = text.toList.utf8Encode := by
    rw [String.toUTF8, ← String.toByteArray_ofList, String.ofList_toList]
  rw [ofText, encoded, List.utf8Encode, List.toList_data_toByteArray, ofCharacters]

/-- A byte string is a text exactly when it is the form of its characters. -/
theorem toText?_eq_some_iff (bytes : Bytes) (text : String) :
    toText? bytes = some text ↔
      Exists fun characters => bytes = ofCharacters characters ∧
        text = String.ofList characters := by
  rw [toText?, String.fromUTF8?]
  constructor
  · intro found
    split at found
    · next valid =>
        rcases valid with ⟨characters, encoded⟩
        refine ⟨characters, ?_, ?_⟩
        · have content := congrArg (fun array => array.data.toList) encoded
          simp only [List.utf8Encode, List.toList_data_toByteArray] at content
          exact content
        · rw [← Option.some.inj found, ← String.toByteArray_inj, String.toByteArray_ofList]
          exact encoded
    · cases found
  · rintro ⟨characters, rfl, rfl⟩
    have encoded : (ofCharacters characters).toByteArray = characters.utf8Encode := rfl
    have valid : (ofCharacters characters).toByteArray.IsValidUTF8 :=
      encoded ▸ ByteArray.isValidUTF8_utf8Encode
    rw [dif_pos valid, Option.some.injEq, ← String.toByteArray_inj, String.toByteArray_ofList]
    exact encoded

theorem toText?_ofCharacters (characters : List Char) :
    toText? (ofCharacters characters) = some (String.ofList characters) :=
  (toText?_eq_some_iff _ _).mpr ⟨characters, rfl, rfl⟩

/-- A first byte and the bytes that continue it. -/
theorem utf8EncodeChar_shape (character : Char) :
    Exists fun leading => Exists fun others =>
      String.utf8EncodeChar character = leading :: others ∧ leading.IsUTF8FirstByte ∧
        forall byte, byte ∈ others -> ¬ byte.IsUTF8FirstByte := by
  cases form : String.utf8EncodeChar character with
  | nil => exact absurd form String.utf8EncodeChar_ne_nil
  | cons leading others =>
      have nonempty : 0 < (String.utf8EncodeChar character).length := by
        rw [form, List.length_cons]
        omega
      refine ⟨leading, others, rfl, ?_, ?_⟩
      · have first : (String.utf8EncodeChar character)[0] = leading := by
          simp only [form, List.getElem_cons_zero]
        exact first ▸ UInt8.isUTF8FirstByte_getElem_zero_utf8EncodeChar
      · intro byte member
        rcases List.mem_iff_getElem.mp member with ⟨index, inside, found⟩
        have bound : index + 1 < (String.utf8EncodeChar character).length := by
          rw [form, List.length_cons]
          omega
        have later : (String.utf8EncodeChar character)[index + 1] = byte := by
          simp only [form, List.getElem_cons_succ, found]
        rw [← later, UInt8.isUTF8FirstByte_getElem_utf8EncodeChar]
        exact Nat.succ_ne_zero index

/-- The forms of characters are self-delimiting. -/
theorem utf8EncodeChar_append_inj {first second : Char} {left right : Bytes}
    (equal : String.utf8EncodeChar first ++ left = String.utf8EncodeChar second ++ right) :
    first = second ∧ left = right := by
  have decode (character : Char) (rest : Bytes) :
      (String.utf8EncodeChar character ++ rest).toByteArray.utf8DecodeChar? 0 =
        some character := by
    rw [List.toByteArray_append, ByteArray.utf8DecodeChar?_utf8EncodeChar_append]
  have same : first = second := by
    have decoded := decode first left
    rw [equal, decode second right] at decoded
    exact (Option.some.inj decoded).symm
  subst same
  exact ⟨rfl, List.append_cancel_left equal⟩

theorem utf8EncodeChar_of_ascii {character : Char} (small : character.toNat < 0x80) :
    String.utf8EncodeChar character = [ascii character] := by
  have bound : character.val.toNat <= 0x7f := Nat.le_of_lt_succ small
  simp only [String.utf8EncodeChar, if_pos bound]
  rfl

/-- Characters beyond ASCII have no byte within it. -/
theorem le_of_mem_utf8EncodeChar {character : Char} (large : 0x80 <= character.toNat)
    {byte : UInt8} (member : byte ∈ String.utf8EncodeChar character) : 0x80 <= byte.toNat := by
  have bound : ¬ character.val.toNat <= 0x7f := Nat.not_le_of_lt large
  simp only [String.utf8EncodeChar, if_neg bound] at member
  split at member
  · simp only [List.mem_cons, List.not_mem_nil, or_false] at member
    rcases member with rfl | rfl <;>
    · rw [UInt8.toNat_ofNat']
      omega
  · split at member
    · simp only [List.mem_cons, List.not_mem_nil, or_false] at member
      rcases member with rfl | rfl | rfl <;>
      · rw [UInt8.toNat_ofNat']
        omega
    · simp only [List.mem_cons, List.not_mem_nil, or_false] at member
      rcases member with rfl | rfl | rfl | rfl <;>
      · rw [UInt8.toNat_ofNat']
        omega

end Bytes
end Salutation
