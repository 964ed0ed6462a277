import FeatureRunner.Text.Quoted

/-!
# Texts as bytes

Files hold texts in UTF-8.  A character is a lead byte and up to three further bytes.  The lead
byte fixes how many follow, and between which bounds the first of them lies; all others lie
between `0x80` and `0xbf`.  Bytes of any other form are a fault, which covers the bytes from the
lead byte up to the first one that does not fit.  A text with a lone half has no bytes.
-/

namespace FeatureRunner

abbrev Bytes := List UInt8

/-- What is wrong with a byte sequence. -/
inductive Utf8Flaw where
  | lead
  | continuation
  | cut
deriving DecidableEq, Repr

/-- A faulty byte sequence in a file: the byte it begins with, and where it lies. -/
structure Utf8Fault where
  byte : UInt8
  first : Nat
  length : Nat
  flaw : Utf8Flaw
deriving DecidableEq, Repr

namespace Utf8Fault

def reason : Utf8Flaw → Text
  | .lead => "invalid start byte".toList
  | .continuation => "invalid continuation byte".toList
  | .cut => "unexpected end of data".toList

def message (fault : Utf8Fault) : Text :=
  let place : Text :=
    if fault.length = 1 then
      "byte 0x".toList ++ Text.hexadecimal 2 fault.byte.toNat ++ " in position ".toList ++
        Text.ofNat fault.first
    else
      "bytes in position ".toList ++ Text.ofNat fault.first ++ ['-'] ++
        Text.ofNat (fault.first + fault.length - 1)
  "'utf-8' codec can't decode ".toList ++ place ++ ": ".toList ++ reason fault.flaw

end Utf8Fault

namespace Utf8

/-- What a lead byte announces: its own part of the character number, how many bytes follow, and
the bounds of the first of them. -/
structure Lead where
  bits : Nat
  count : Nat
  least : Nat
  most : Nat

/-- What a byte announces, if it is a lead byte. -/
def lead? (byte : UInt8) : Option Lead :=
  let n := byte.toNat
  if n < 0x80 then some ⟨n, 0, 0x80, 0xbf⟩
  else if n < 0xc2 then none
  else if n < 0xe0 then some ⟨n - 0xc0, 1, 0x80, 0xbf⟩
  else if n < 0xf0 then
    some ⟨n - 0xe0, 2, if n = 0xe0 then 0xa0 else 0x80, if n = 0xed then 0x9f else 0xbf⟩
  else if n < 0xf5 then
    some ⟨n - 0xf0, 3, if n = 0xf0 then 0x90 else 0x80, if n = 0xf4 then 0x8f else 0xbf⟩
  else none

/-- Reads the given count of further bytes, the first of which lies between two bounds: the
character number so far goes in and the whole one comes out, with the bytes after the character.
A flaw comes with the number of bytes that fitted, the lead byte among them. -/
def readFollowing : (count : Nat) → (least most number fitting : Nat) → Bytes →
    Except (Utf8Flaw × Nat) (Nat × Bytes)
  | 0, _, _, number, _, bytes => .ok (number, bytes)
  | _ + 1, _, _, _, fitting, [] => .error (.cut, fitting)
  | count + 1, least, most, number, fitting, byte :: rest =>
    if least ≤ byte.toNat ∧ byte.toNat ≤ most then
      readFollowing count 0x80 0xbf (0x40 * number + (byte.toNat - 0x80)) (fitting + 1) rest
    else .error (.continuation, fitting)

/-- The bytes after a character are not more than those after its lead byte. -/
theorem readFollowing_length {count least most number fitting found : Nat} {bytes rest : Bytes}
    (read : readFollowing count least most number fitting bytes = .ok (found, rest)) :
    rest.length ≤ bytes.length := by
  induction count generalizing least most number fitting bytes with
  | zero =>
    simp only [readFollowing, Except.ok.injEq, Prod.mk.injEq] at read
    simp [read.2]
  | succ count ih =>
    cases bytes with
    | nil => simp [readFollowing] at read
    | cons byte others =>
      unfold readFollowing at read
      split at read
      · exact Nat.le_succ_of_le (ih read)
      · simp at read

/-- The text of a byte sequence that begins at a position of a file. -/
def decodeFrom (position : Nat) : Bytes → Except Utf8Fault Text
  | [] => .ok []
  | byte :: rest =>
    match lead? byte with
    | none => .error ⟨byte, position, 1, .lead⟩
    | some lead =>
      match _read : readFollowing lead.count lead.least lead.most lead.bits 1 rest with
      | .error (flaw, fitting) => .error ⟨byte, position, fitting, flaw⟩
      | .ok (number, after) =>
        match decodeFrom (position + 1 + lead.count) after with
        | .error fault => .error fault
        | .ok others => .ok (Text.character number :: others)
termination_by bytes => bytes.length
decreasing_by exact Nat.lt_succ_of_le (readFollowing_length _read)

def decode (bytes : Bytes) : Except Utf8Fault Text := decodeFrom 0 bytes

end Utf8

/-- Lone halves in a row that keep a text from being written as bytes: the first of them, its
position, and their count. -/
structure EncodingFault where
  half : Char
  first : Nat
  count : Nat
deriving DecidableEq, Repr

/-- The message about a text that has no bytes. -/
def EncodingFault.message (fault : EncodingFault) : Text :=
  let place : Text :=
    if fault.count = 1 then
      "character '\\u".toList ++ Text.hexadecimal 4 (Text.halfUnit fault.half) ++
        "' in position ".toList ++ Text.ofNat fault.first
    else
      "characters in position ".toList ++ Text.ofNat fault.first ++ ['-'] ++
        Text.ofNat (fault.first + fault.count - 1)
  "'utf-8' codec can't encode ".toList ++ place ++ ": surrogates not allowed".toList

/-- The first lone halves of a text, if it has any. -/
def Text.encodingFault? (text : Text) : Option EncodingFault :=
  match text.dropWhile (!isLoneHalf ·) with
  | [] => none
  | half :: rest =>
    some ⟨half, (text.takeWhile (!isLoneHalf ·)).length, (rest.takeWhile isLoneHalf).length + 1⟩

namespace Text

/-- The text with a line feed in place of every line end, which may be written as a carriage
return, a line feed, or both in this order. -/
def unifyLineEnds : Text → Text
  | [] => []
  | '\r' :: '\n' :: rest => '\n' :: unifyLineEnds rest
  | c :: rest => (if c = '\r' then '\n' else c) :: unifyLineEnds rest

end Text

def Bytes.text (bytes : Bytes) : Except Utf8Fault Text :=
  (Utf8.decode bytes).map Text.unifyLineEnds

end FeatureRunner
