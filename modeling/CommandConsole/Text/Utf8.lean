import CommandConsole.Text.Hexadecimal

namespace CommandConsole.Text.Utf8

/-!
# Strict decoding of UTF-8

Bytes are decoded one at a time. Between two bytes the decoder holds only the
bytes of a character that is not complete yet, so a text may arrive in chunks
that end anywhere. Overlong forms and code points above U+10FFFF are refused at
the first byte that no character can have there. The two bytes that begin a
surrogate are refused by what comes behind them, be it a byte or the end.
-/

/-- The reasons for which bytes are refused. -/
inductive Reason where
  | invalidStart
  | invalidContinuation
  | unexpectedEnd
  deriving Repr, DecidableEq

/-- The wording of a reason. -/
def Reason.message : Reason → String
  | .invalidStart =>
      "invalid start byte"
  | .invalidContinuation =>
      "invalid continuation byte"
  | .unexpectedEnd =>
      "unexpected end of data"

/-- Refused bytes together with their place among the bytes given to the decoder. -/
structure Defect where
  bytes : List UInt8
  position : Nat
  reason : Reason
  deriving Repr, DecidableEq

/-- The wording of a defect. -/
def Defect.message (defect : Defect) : String :=
  let place :=
    match defect.bytes with
    | [byte] =>
        "byte 0x" ++ String.ofList (hexadecimal 2 byte.toNat) ++
          " in position " ++ toString defect.position
    | bytes =>
        "bytes in position " ++ toString defect.position ++ "-" ++
          toString (defect.position + bytes.length - 1)
  "'utf-8' codec can't decode " ++ place ++ ": " ++ defect.reason.message

/-- The count of bytes of a character by its first byte, zero where none starts so. -/
def sequenceLength (lead : UInt8) : Nat :=
  if lead ≤ 0x7F then
    1
  else if 0xC2 ≤ lead ∧ lead ≤ 0xDF then
    2
  else if 0xE0 ≤ lead ∧ lead ≤ 0xEF then
    3
  else if 0xF0 ≤ lead ∧ lead ≤ 0xF4 then
    4
  else
    0

/-- The least and the greatest byte that may follow the given bytes of a character. -/
def continuationRange : List UInt8 → UInt8 × UInt8
  | [0xE0] =>
      (0xA0, 0xBF)
  | [0xF0] =>
      (0x90, 0xBF)
  | [0xF4] =>
      (0x80, 0x8F)
  | _ =>
      (0x80, 0xBF)

/-- Whether bytes begin a surrogate, which no further byte completes. -/
def beginsSurrogate : List UInt8 → Bool
  | [0xED, second] =>
      0xA0 ≤ second
  | _ =>
      false

/-- The bits that the first byte of a character contributes to its code point. -/
def leadBits (lead : UInt8) : Nat :=
  match sequenceLength lead with
  | 2 =>
      lead.toNat % 32
  | 3 =>
      lead.toNat % 16
  | 4 =>
      lead.toNat % 8
  | _ =>
      lead.toNat

/-- The character with the given first byte and continuation bytes. -/
def assemble (lead : UInt8) (continuation : List UInt8) : Char :=
  Char.ofNat (continuation.foldl (fun code byte => code * 64 + byte.toNat % 64) (leadBits lead))

/-- What one more byte makes of the bytes of an incomplete character. -/
inductive Reading where
  | complete (character : Char)
  | incomplete (pending : List UInt8)
  | refused (bytes : List UInt8) (reason : Reason)
  deriving Repr, DecidableEq

/-- Read one byte after the bytes of an incomplete character. -/
def readByte (pending : List UInt8) (byte : UInt8) : Reading :=
  match pending with
  | [] =>
      if sequenceLength byte = 0 then
        .refused [byte] .invalidStart
      else if sequenceLength byte = 1 then
        .complete (assemble byte [])
      else
        .incomplete [byte]
  | lead :: continuation =>
      let range := continuationRange pending
      if beginsSurrogate pending then
        .refused [lead] .invalidContinuation
      else if range.1 ≤ byte ∧ byte ≤ range.2 then
        if pending.length + 1 = sequenceLength lead then
          .complete (assemble lead (continuation ++ [byte]))
        else
          .incomplete (pending ++ [byte])
      else
        .refused pending .invalidContinuation

/--
Decode one chunk after the bytes of an incomplete character whose first byte
has the given position. The result holds the characters completed in the chunk
and the bytes left over at its end.
-/
def decodeChunk
    (position : Nat)
    (pending : List UInt8) :
    List UInt8 → Except Defect (List Char × List UInt8)
  | [] =>
      .ok ([], pending)
  | byte :: bytes =>
      match readByte pending byte with
      | .complete character =>
          match decodeChunk (position + pending.length + 1) [] bytes with
          | .ok (characters, rest) =>
              .ok (character :: characters, rest)
          | .error defect =>
              .error defect
      | .incomplete pending =>
          decodeChunk position pending bytes
      | .refused bytes reason =>
          .error ⟨bytes, position, reason⟩

/-- The defect of bytes that end inside a character whose first byte has the given position. -/
def unfinished? (position : Nat) : List UInt8 → Option Defect
  | [] =>
      none
  | lead :: continuation =>
      if beginsSurrogate (lead :: continuation) then
        some ⟨[lead], position, .invalidContinuation⟩
      else
        some ⟨lead :: continuation, position, .unexpectedEnd⟩

/--
Decode chunks one after another, each behind the bytes left over by the one
before it, up to the first defect. The characters are those of the chunks
before the defect; positions count from the left-over bytes of the chunk.
Without a defect, the bytes left over by the last chunk come in its place.
-/
def decodeAvailable (pending : List UInt8) :
    List (List UInt8) → List Char × Except Defect (List UInt8)
  | [] =>
      ([], .ok pending)
  | chunk :: chunks =>
      match decodeChunk 0 pending chunk with
      | .error defect =>
          ([], .error defect)
      | .ok (characters, pending) =>
          let (following, outcome) := decodeAvailable pending chunks
          (characters ++ following, outcome)

/-- Decode the chunks of a whole, in which no bytes may be left over at the end. -/
def decodeChunks
    (pending : List UInt8)
    (chunks : List (List UInt8)) :
    List Char × Option Defect :=
  match decodeAvailable pending chunks with
  | (characters, .error defect) =>
      (characters, some defect)
  | (characters, .ok left) =>
      (characters, unfinished? 0 left)

/-- The pieces of a given positive size that bytes are read in; the last may be shorter. -/
def chunksOf (size : Nat) (positive : 0 < size) : List UInt8 → List (List UInt8)
  | [] =>
      []
  | byte :: bytes =>
      (byte :: bytes).take size :: chunksOf size positive ((byte :: bytes).drop size)
termination_by bytes => bytes.length
decreasing_by
  simp only [List.length_drop, List.length_cons]
  omega

/-- The UTF-8 form of a text. -/
def encode (characters : List Char) : List UInt8 :=
  characters.flatMap String.utf8EncodeChar

end CommandConsole.Text.Utf8
