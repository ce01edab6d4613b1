import Stencil.Text.Quoted

/-!
# Character encodings

Texts to bytes and back. Decoding is strict and says where and why it stopped. Encoding leaves the
code points that an encoding cannot represent to a replacement rule.

## Main definitions

- `Codec` — the encodings, with `Codec.decode` and `Codec.encode`
- `DecodeFault`, `EncodeFault` — the first place that could not be decoded or encoded
- `Replacement` — what is written for a code point that cannot be encoded

## Design notes

Every codec is given by two functions on the smallest pieces: `Codec.next` takes one code point off a
byte list, `Codec.unit?` gives the bytes of one code point. Byte order marks are the only state.
-/

namespace Stencil

/-- The order of the bytes of a unit. -/
inductive ByteOrder where
  | little
  | big
  deriving DecidableEq, Repr

/-- The encodings. A missing byte order is taken from a mark when reading and is little-endian behind
a mark when writing. -/
inductive Codec where
  | utf8
  /-- Starts with a byte order mark, which reading drops. -/
  | utf8Marked
  | ascii
  | latin1
  | latin9
  | windows1252
  | utf16 (order : Option ByteOrder)
  | utf32 (order : Option ByteOrder)
  deriving DecidableEq, Repr

/-- Where and why bytes are not the encoding of a text. -/
structure DecodeFault where
  start : Nat
  stop : Nat
  reason : String
  deriving DecidableEq, Repr

/-- Where and why a text cannot be encoded. -/
structure EncodeFault where
  start : Nat
  stop : Nat
  reason : String
  deriving DecidableEq, Repr

/-- What is done about code points that an encoding does not have, and about bytes that do not encode
any. -/
inductive Replacement where
  /-- Nothing may be replaced. -/
  | refuse
  | drop
  | questionMark
  /-- A decimal character reference of HTML. -/
  | characterReference
  | escape
  /-- Surrogates are encoded like other code points. -/
  | surrogates
  /-- Surrogates stand for single bytes. -/
  | loneBytes
  /-- A rule of an unknown name, which is an error only when it is needed. -/
  | unknown (name : Text)
  deriving DecidableEq, Repr

namespace Replacement

def ofName (name : Text) : Replacement :=
  match name.toName with
  | "strict" => refuse
  | "ignore" => drop
  | "replace" => questionMark
  | "xmlcharrefreplace" => characterReference
  | "backslashreplace" => escape
  | "surrogatepass" => surrogates
  | "surrogateescape" => loneBytes
  | _ => unknown name

/-- The ASCII text that stands for a code point; none if it may not be replaced. -/
def substitute? (rule : Replacement) (c : CodePoint) : Option Text :=
  match rule with
  | drop => some []
  | questionMark => some "?"
  | characterReference => some ("&#" ++ Text.ofNat c ++ ";")
  | escape => some (
    if c < 0x100 then "\\x" ++ Text.hex 2 c
    else if c < 0x10000 then "\\u" ++ Text.hex 4 c
    else "\\U" ++ Text.hex 8 c)
  | _ => none

/-- The text that stands for bytes that encode nothing; none if they may not be replaced. -/
def stand? (rule : Replacement) (bytes : List Nat) : Option Text :=
  match rule with
  | drop => some []
  | questionMark => some [0xFFFD]
  | escape => some (bytes.flatMap fun b => "\\x" ++ Text.hex 2 b)
  | loneBytes =>
    if bytes.all (128 ≤ ·) then some (bytes.map (0xDC00 + ·)) else none
  | _ => none

end Replacement

namespace Codec

/-- One code point with the number of bytes it took, or the number of bytes at fault. -/
abbrev Next := Except (Nat × String) (CodePoint × Nat)

/-- The high half of windows-1252 between `0x80` and `0x9F`; zero stands for no character. -/
def windows1252High : List CodePoint := [
  8364, 0, 8218, 402, 8222, 8230, 8224, 8225, 710, 8240, 352, 8249, 338, 0, 381, 0,
  0, 8216, 8217, 8220, 8221, 8226, 8211, 8212, 732, 8482, 353, 8250, 339, 0, 382, 376]

/-- The places where Latin-9 differs from Latin-1. -/
def latin9Changes : List (Nat × CodePoint) := [
  (164, 8364), (166, 352), (168, 353), (180, 381), (184, 382), (188, 338), (189, 339), (190, 376)]

/-- The code point of a byte in a single-byte code page. -/
def ofByte? (codec : Codec) (b : Nat) : Option CodePoint :=
  match codec with
  | ascii => if b < 128 then some b else none
  | latin9 => some ((latin9Changes.lookup b).getD b)
  | windows1252 =>
    if b < 128 ∨ 160 ≤ b then some b
    else (windows1252High[b - 128]?).bind fun c => if c = 0 then none else some c
  | _ => some b

/-- The byte of a code point in a single-byte code page. -/
def toByte? (codec : Codec) (c : CodePoint) : Option Nat :=
  match codec with
  | ascii => if c < 128 then some c else none
  | latin9 =>
    match latin9Changes.find? (·.2 == c) with
    | some (b, _) => some b
    | none => if c < 256 && (latin9Changes.lookup c).isNone then some c else none
  | windows1252 =>
    if c < 128 ∨ (160 ≤ c ∧ c < 256) then some c
    else if c < 256 then none
    else (windows1252High.idxOf? c).map (· + 128)
  | _ => if c < 256 then some c else none

def isTail (b : Nat) : Bool :=
  0x80 ≤ b && b ≤ 0xBF

/-- The range of the byte after a leading byte: it rules out overlong forms, surrogates and code
points beyond the last one. -/
def secondByteRange (lead : Nat) : Nat × Nat :=
  if lead = 0xE0 then (0xA0, 0xBF)
  else if lead = 0xED then (0x80, 0x9F)
  else if lead = 0xF0 then (0x90, 0xBF)
  else if lead = 0xF4 then (0x80, 0x8F)
  else (0x80, 0xBF)

/-- Take one code point off UTF-8 bytes. -/
def nextUtf8 (b : Nat) (rest : List Nat) : Next :=
  let truncated (n : Nat) : Next := .error (n, "unexpected end of data")
  let broken (n : Nat) : Next := .error (n, "invalid continuation byte")
  let (low, high) := secondByteRange b
  if b < 0x80 then .ok (b, 1)
  else if b < 0xC2 ∨ 0xF4 < b then .error (1, "invalid start byte")
  else match rest with
  | [] => truncated 1
  | b₁ :: rest =>
    if b₁ < low ∨ high < b₁ then broken 1
    else if b < 0xE0 then .ok ((b - 0xC0) * 64 + (b₁ - 0x80), 2)
    else match rest with
    | [] => truncated 2
    | b₂ :: rest =>
      if !isTail b₂ then broken 2
      else if b < 0xF0 then .ok ((b - 0xE0) * 4096 + (b₁ - 0x80) * 64 + (b₂ - 0x80), 3)
      else match rest with
      | [] => truncated 3
      | b₃ :: _ =>
        if !isTail b₃ then broken 3
        else .ok ((b - 0xF0) * 262144 + (b₁ - 0x80) * 4096 + (b₂ - 0x80) * 64 + (b₃ - 0x80), 4)

/-- The number that bytes make in a byte order. -/
def unitValue (order : ByteOrder) (bytes : List Nat) : Nat :=
  let bigEndian := match order with | .big => bytes | .little => bytes.reverse
  bigEndian.foldl (fun n b => n * 256 + b) 0

/-- The bytes of a number, `count` of them. -/
def unitBytes (order : ByteOrder) (count n : Nat) : List Nat :=
  let little := (List.range count).map fun i => n / Nat.pow 256 i % 256
  match order with | .little => little | .big => little.reverse

def nextUtf16 (order : ByteOrder) (bytes : List Nat) : Next :=
  match bytes with
  | b₀ :: b₁ :: rest =>
    let unit := unitValue order [b₀, b₁]
    if unit < 0xD800 ∨ 0xDFFF < unit then .ok (unit, 2)
    else if 0xDC00 ≤ unit then .error (2, "illegal encoding")
    else match rest with
    | b₂ :: b₃ :: _ =>
      let low := unitValue order [b₂, b₃]
      if 0xDC00 ≤ low ∧ low ≤ 0xDFFF then
        .ok (0x10000 + (unit - 0xD800) * 1024 + (low - 0xDC00), 4)
      else .error (2, "illegal UTF-16 surrogate")
    | _ => .error (bytes.length, "unexpected end of data")
  | _ => .error (bytes.length, "truncated data")

def nextUtf32 (order : ByteOrder) (bytes : List Nat) : Next :=
  match bytes with
  | b₀ :: b₁ :: b₂ :: b₃ :: _ =>
    let unit := unitValue order [b₀, b₁, b₂, b₃]
    if isSurrogate unit then
      .error (4, "code point in surrogate code point range(0xd800, 0xe000)")
    else if 0x110000 ≤ unit then .error (4, "code point not in range(0x110000)")
    else .ok (unit, 4)
  | _ => .error (bytes.length, "truncated data")

/-- Take one code point off a byte list. -/
def next (codec : Codec) (b : Nat) (rest : List Nat) : Next :=
  match codec with
  | utf8 | utf8Marked => nextUtf8 b rest
  | utf16 order => nextUtf16 (order.getD .little) (b :: rest)
  | utf32 order => nextUtf32 (order.getD .little) (b :: rest)
  | ascii => if b < 128 then .ok (b, 1) else .error (1, "ordinal not in range(128)")
  | latin1 => .ok (b, 1)
  | codec => match codec.ofByte? b with
    | some c => .ok (c, 1)
    | none => .error (1, "character maps to <undefined>")

/-- The surrogate that bytes would encode if surrogates were allowed, with its size. -/
def surrogate? (codec : Codec) (bytes : List Nat) : Option (CodePoint × Nat) :=
  let checked (size : Nat) (c : CodePoint) : Option (CodePoint × Nat) :=
    if isSurrogate c then some (c, size) else none
  match codec, bytes with
  | utf8, 0xED :: b₁ :: b₂ :: _ | utf8Marked, 0xED :: b₁ :: b₂ :: _ =>
    if isTail b₁ && isTail b₂ then checked 3 (0xD000 + (b₁ - 0x80) * 64 + (b₂ - 0x80)) else none
  | utf16 order, b₀ :: b₁ :: _ => checked 2 (unitValue (order.getD .little) [b₀, b₁])
  | utf32 order, b₀ :: b₁ :: b₂ :: b₃ :: _ =>
    checked 4 (unitValue (order.getD .little) [b₀, b₁, b₂, b₃])
  | _, _ => none

/-- Decode from an offset on. A piece of several bytes is skipped by counting it down. -/
def decodeFrom (codec : Codec) (rule : Replacement) (offset skip : Nat) :
    List Nat → Except DecodeFault Text
  | [] => .ok []
  | b :: rest =>
    match skip with
    | skip + 1 => decodeFrom codec rule (offset + 1) skip rest
    | 0 =>
      let found : Except DecodeFault (Text × Nat) := match codec.next b rest with
        | .ok (c, size) => .ok ([c], size)
        | .error (size, reason) =>
          let stand := match rule with
            | .surrogates => (codec.surrogate? (b :: rest)).map fun (c, size) => ([c], size)
            | rule => (rule.stand? ((b :: rest).take size)).map fun t => (t, size)
          match stand with
          | some found => .ok found
          | none => .error { start := offset, stop := offset + size, reason }
      match found with
      | .error fault => .error fault
      | .ok (t, size) => (decodeFrom codec rule (offset + 1) (size - 1) rest).map (t ++ ·)

/-- The byte order marks of a codec that settles its byte order by one, with what is left to do after
each. -/
def marks : Codec → List (List Nat × Codec)
  | utf8Marked => [([0xEF, 0xBB, 0xBF], utf8)]
  | utf16 none => [([0xFF, 0xFE], utf16 (some .little)), ([0xFE, 0xFF], utf16 (some .big))]
  | utf32 none =>
    [([0xFF, 0xFE, 0, 0], utf32 (some .little)), ([0, 0, 0xFE, 0xFF], utf32 (some .big))]
  | _ => []

/-- The codec that is left to do after a byte order mark, the length of the mark, and the bytes in which
positions are counted, with the first of them to decode. -/
def settle (codec : Codec) (bytes : List Nat) : Codec × Nat × List Nat :=
  match codec.marks.find? fun (mark, _) => mark.isPrefixOf bytes with
  | some (mark, settled) =>
    -- the mark of UTF-8 does not count as a position, the other marks do
    if codec = utf8Marked then (settled, 0, bytes.drop mark.length) else (settled, mark.length, bytes)
  | none => (codec, 0, bytes)

/-- Decode bytes under a rule for those that encode nothing. -/
def decode (codec : Codec) (rule : Replacement) (bytes : Bytes) : Except DecodeFault Text :=
  let (settled, start, bytes) := codec.settle (bytes.map UInt8.toNat)
  settled.decodeFrom rule start 0 (bytes.drop start)

/-- The UTF-8 bytes of a code point that is not a surrogate. -/
def utf8Bytes (c : CodePoint) : List Nat :=
  if c < 0x80 then [c]
  else if c < 0x800 then [0xC0 + c / 64, 0x80 + c % 64]
  else if c < 0x10000 then [0xE0 + c / 4096, 0x80 + c / 64 % 64, 0x80 + c % 64]
  else [0xF0 + c / 262144, 0x80 + c / 4096 % 64, 0x80 + c / 64 % 64, 0x80 + c % 64]

/-- The bytes of one code point, if the encoding has it. -/
def unit? (codec : Codec) (c : CodePoint) : Option (List Nat) :=
  match codec with
  | utf8 | utf8Marked => if isSurrogate c then none else some (utf8Bytes c)
  | utf16 order =>
    let order := order.getD .little
    if isSurrogate c then none
    else if c < 0x10000 then some (unitBytes order 2 c)
    else some (unitBytes order 2 (0xD800 + (c - 0x10000) / 1024) ++
      unitBytes order 2 (0xDC00 + (c - 0x10000) % 1024))
  | utf32 order => if isSurrogate c then none else some (unitBytes (order.getD .little) 4 c)
  | codec => (codec.toByte? c).map ([·])

/-- Why a code point is not in the encoding. -/
def refusal : Codec → String
  | ascii => "ordinal not in range(128)"
  | latin1 => "ordinal not in range(256)"
  | latin9 | windows1252 => "character maps to <undefined>"
  | _ => "surrogates not allowed"

/-- The mark that encoded text starts with. -/
def leadingMark : Codec → List Nat
  | utf8Marked => [0xEF, 0xBB, 0xBF]
  | utf16 none => [0xFF, 0xFE]
  | utf32 none => [0xFF, 0xFE, 0, 0]
  | _ => []

end Codec

namespace Codec

/-- The bytes of a surrogate in an encoding that could have it. -/
def surrogateBytes? (codec : Codec) (c : CodePoint) : Option (List Nat) :=
  if !isSurrogate c then none
  else match codec with
    | utf8 | utf8Marked => some (utf8Bytes c)
    | utf16 order => some (unitBytes (order.getD .little) 2 c)
    | utf32 order => some (unitBytes (order.getD .little) 4 c)
    | _ => none

/-- Whether a codec refuses code points one by one; others report all neighbours at once. -/
def refusesSingly : Codec → Bool
  | utf16 _ | utf32 _ => true
  | _ => false

/-- What stands for a code point that the encoding does not have. -/
def replaced? (codec : Codec) (rule : Replacement) (c : CodePoint) : Option (List Nat) :=
  match rule with
  | .surrogates => codec.surrogateBytes? c
  | .loneBytes =>
    if 0xDC80 ≤ c ∧ c ≤ 0xDCFF ∧ !codec.refusesSingly then some [c - 0xDC00] else none
  | rule => do
    let substitute ← rule.substitute? c
    (substitute.mapM codec.unit?).map List.flatten

/-- Encode code points, the first of them at the given offset. -/
def encodeFrom (codec : Codec) (rule : Replacement) (offset : Nat) :
    Text → Except EncodeFault (List Nat)
  | [] => .ok []
  | c :: rest =>
    match codec.unit? c with
    | some bytes => (encodeFrom codec rule (offset + 1) rest).map (bytes ++ ·)
    | none =>
      let run := if codec.refusesSingly then [c]
        else (c :: rest).takeWhile fun c => (codec.unit? c).isNone
      let refusable := run.any fun c => (codec.replaced? rule c).isNone
      match if refusable then none else codec.replaced? rule c with
      | some bytes => (encodeFrom codec rule (offset + 1) rest).map (bytes ++ ·)
      | none => .error { start := offset, stop := offset + run.length, reason := codec.refusal }

/-- Encode a text, the byte order mark of the codec in front. -/
def encode (codec : Codec) (rule : Replacement) (t : Text) : Except EncodeFault Bytes :=
  (codec.encodeFrom rule 0 t).map fun bytes => (codec.leadingMark ++ bytes).map UInt8.ofNat

end Codec

end Stencil
