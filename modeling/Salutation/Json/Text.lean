import Salutation.Json.Numeral

namespace Salutation
namespace Json

/-!
# Text literals

A text is read from just after its opening quote to just after its closing
one.  Escapes are replaced by the UTF-8 form of the character they stand for,
all other bytes are taken as they are, and the result is required to be UTF-8
as a whole once the closing quote is found.

A skipped text is held to less: its escapes must be complete, but they need
not pair their surrogates, and its bytes need not be UTF-8.
-/

/-- The value of a hexadecimal digit, in either case. -/
def hexDigit? (byte : UInt8) : Option Nat :=
  let code := byte.toNat
  if 0x30 <= code && code <= 0x39 then some (code - 0x30)
  else if 0x61 <= code && code <= 0x66 then some (code - 0x57)
  else if 0x41 <= code && code <= 0x46 then some (code - 0x37)
  else none

/-- Four hexadecimal digits.  They are taken together: a bad one among them
is reported after all four. -/
def readCodeUnit : Bytes -> Outcome Nat
  | first :: second :: third :: fourth :: rest =>
      match hexDigit? first, hexDigit? second, hexDigit? third, hexDigit? fourth with
      | some a, some b, some c, some d => .ok (((a * 16 + b) * 16 + c) * 16 + d, rest)
      | _, _, _, _ => .error ⟨.badEscape, rest⟩
  | _ => .error ⟨.endInText, []⟩

/-- The first half of a surrogate pair. -/
def isHighSurrogate (unit : Nat) : Bool :=
  0xd800 <= unit && unit <= 0xdbff

/-- The second half of a surrogate pair. -/
def isLowSurrogate (unit : Nat) : Bool :=
  0xdc00 <= unit && unit <= 0xdfff

/-- The byte that a one-letter escape stands for. -/
def plainEscape? (byte : UInt8) : Option UInt8 :=
  if byte = ascii '"' then some (ascii '"')
  else if byte = ascii '\\' then some (ascii '\\')
  else if byte = ascii '/' then some (ascii '/')
  else if byte = ascii 'b' then some 0x08
  else if byte = ascii 'f' then some 0x0c
  else if byte = ascii 'n' then some 0x0a
  else if byte = ascii 'r' then some 0x0d
  else if byte = ascii 't' then some 0x09
  else none

/-- The UTF-8 form of a code point. -/
def encodeCodePoint (code : Nat) : Bytes :=
  String.utf8EncodeChar (Char.ofNat code)

/-- One expected byte inside an escape that has begun a surrogate pair. -/
def readPairMark (mark : UInt8) : Bytes -> Except Fault Bytes
  | [] => .error ⟨.endInText, []⟩
  | byte :: rest => if byte = mark then .ok rest else .error ⟨.brokenSurrogatePair, rest⟩

/-- The second half of a surrogate pair, from its backslash on. -/
def readLowSurrogate (high : Nat) (input : Bytes) : Outcome Bytes :=
  match readPairMark (ascii '\\') input with
  | .error fault => .error fault
  | .ok afterBackslash =>
      match readPairMark (ascii 'u') afterBackslash with
      | .error fault => .error fault
      | .ok afterMark =>
          match readCodeUnit afterMark with
          | .error fault => .error fault
          | .ok (low, rest) =>
              if isLowSurrogate low then
                .ok (encodeCodePoint (0x10000 + (high - 0xd800) * 0x400 + (low - 0xdc00)), rest)
              else .error ⟨.loneSurrogate, rest⟩

/-- An escape, from just after its backslash: the bytes it stands for. -/
def readEscape (purpose : Purpose) : Reader Bytes
  | [] => .error ⟨.endInText, []⟩
  | byte :: rest =>
      match plainEscape? byte with
      | some plain => .ok ([plain], rest)
      | none =>
          if byte = ascii 'u' then
            match readCodeUnit rest with
            | .error fault => .error fault
            | .ok (unit, after) =>
                match purpose with
                | .skip => .ok ([], after)
                | .keep =>
                    if isLowSurrogate unit then .error ⟨.loneSurrogate, after⟩
                    else if isHighSurrogate unit then readLowSurrogate unit after
                    else .ok (encodeCodePoint unit, after)
          else .error ⟨.badEscape, rest⟩

/-- Where a control character is reported: after it in a kept text, before it
in a skipped one. -/
def controlFault (purpose : Purpose) (byte : UInt8) (rest : Bytes) : Fault :=
  match purpose with
  | .keep => ⟨.controlCharacter, rest⟩
  | .skip => ⟨.controlCharacter, byte :: rest⟩

/-- The content of a text up to its closing quote, in front of which the
bytes already read stand in reverse.  The first argument bounds the number of
steps, one for each of its bytes; the input itself is always enough. -/
def readContent (purpose : Purpose) : Bytes -> Bytes -> Reader Bytes
  | [], _, _ => .error ⟨.endInText, []⟩
  | _ :: _, _, [] => .error ⟨.endInText, []⟩
  | _ :: steps, content, byte :: rest =>
      if byte = ascii '"' then .ok (content.reverse, rest)
      else if byte = ascii '\\' then
        match readEscape purpose rest with
        | .error fault => .error fault
        | .ok (plain, after) => readContent purpose steps (plain.reverse ++ content) after
      else if byte < 0x20 then .error (controlFault purpose byte rest)
      else readContent purpose steps (byte :: content) rest

/-- What is left of an input when the content of a text turns out not to be
UTF-8.  The place is counted back from the end of the text, by the bytes of the
content from the first one on that belongs to no character.  An escape among
them counts as what it stands for and not as it is written. -/
def afterFault (input content rest : Bytes) : Bytes :=
  let unusable := content.length - Bytes.validLength content.length content
  input.drop (input.length - rest.length - unusable)

/-- A text, from just after its opening quote.  A skipped text has no
content, and the empty text stands in for it.  A text that is not UTF-8 is
refused only after its closing quote has been found. -/
def readText (purpose : Purpose) (input : Bytes) : Outcome String :=
  match readContent purpose input [] input with
  | .error fault => .error fault
  | .ok (content, rest) =>
      match purpose with
      | .skip => .ok ("", rest)
      | .keep =>
          match content.toText? with
          | some text => .ok (text, rest)
          | none => .error ⟨.notUtf8, afterFault input content rest⟩

end Json
end Salutation
