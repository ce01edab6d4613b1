import Stencil.Encoding.Codec
import Stencil.Failure

/-!
# Names of encodings

Encodings go by many names. A name is folded to lower case with its punctuation as single
underscores, and then looked up among the aliases.

## Main definitions

- `Encoding.find` — the encoding of a name: a codec, a codec that is not for text, or unknown
- `Encoding.decode`, `Encoding.encode` — conversion under a name, with the failure that is reported
-/

namespace Stencil

namespace Encoding

/-- What a name stands for. -/
inductive Found where
  | codec (codec : Codec)
  /-- A conversion of another kind, such as hexadecimal. -/
  | notText
  | unknown

/-- Fold a name: letters and digits in lower case, dots kept, any other run of characters between
them an underscore. -/
def fold (name : Text) : Text :=
  go false false name
where
  go (started gap : Bool) : Text → Text
  | [] => []
  | c :: rest =>
    if isAsciiLetter c || isAsciiDigit c || c == 46 then
      let lower := if 65 ≤ c && c ≤ 90 then c + 32 else c
      if gap && started then 95 :: lower :: go true false rest else lower :: go true false rest
    else go started true rest

/-- The codecs by their folded names, the first name of each being its own. -/
def textNames : List (Codec × List String) := [
  (.utf8, ["utf_8", "u8", "utf", "utf8", "utf8_ucs2", "utf8_ucs4", "cp65001"]),
  (.utf8Marked, ["utf_8_sig"]),
  (.ascii, ["ascii", "646", "ansi_x3_4_1968", "ansi_x3_4_1986", "cp367", "csascii", "ibm367",
    "iso646_us", "iso_646_irv_1991", "iso_ir_6", "us", "us_ascii"]),
  (.latin1, ["latin_1", "8859", "cp819", "csisolatin1", "ibm819", "iso8859", "iso8859_1",
    "iso_8859_1", "iso_8859_1_1987", "iso_ir_100", "l1", "latin", "latin1"]),
  (.latin9, ["iso8859_15", "iso_8859_15", "l9", "latin9"]),
  (.windows1252, ["cp1252", "1252", "windows_1252"]),
  (.utf16 none, ["utf_16", "u16", "utf16"]),
  (.utf16 (some .little), ["utf_16_le", "unicodelittleunmarked", "utf_16le"]),
  (.utf16 (some .big), ["utf_16_be", "unicodebigunmarked", "utf_16be"]),
  (.utf32 none, ["utf_32", "u32", "utf32"]),
  (.utf32 (some .little), ["utf_32_le", "utf_32le"]),
  (.utf32 (some .big), ["utf_32_be", "utf_32be"])]

/-- Folded names of conversions that are not for text. -/
def otherNames : List String := [
  "rot_13", "rot13", "hex_codec", "hex", "base64_codec", "base64", "base_64", "bz2_codec", "bz2",
  "zlib_codec", "zip", "zlib", "uu_codec", "uu", "quopri_codec", "quopri", "quoted_printable",
  "quotedprintable"]

/-- The names that are converted directly, without the detour that rewords failures. -/
def directNames : List String := [
  "utf_8", "utf8", "utf_16", "utf16", "utf_32", "utf32", "ascii", "us_ascii", "latin_1", "latin1",
  "iso_8859_1", "iso8859_1"]

/-- Look a name up. A dot in a name counts as an underscore unless that gives a codec's own name. -/
def find (name : Text) : Found :=
  let folded := fold name
  let dotless := Text.toName (folded.map fun c => if c = 46 then 95 else c)
  let matching (own : String) (names : List String) : Bool :=
    names.contains dotless && !(folded.contains 46 && dotless == own)
  match textNames.find? fun (_, names) => matching (names.headD "") names with
  | some (codec, _) => .codec codec
  | none => if otherNames.contains dotless && !folded.contains 46 then .notText else .unknown

/-- The text of a code point in a message about encoding. -/
def shownPoint (c : CodePoint) : Text :=
  if c < 0x100 then "\\x" ++ Text.hex 2 c
  else if c < 0x10000 then "\\u" ++ Text.hex 4 c
  else "\\U" ++ Text.hex 8 c

/-- The name a codec goes by in messages. -/
def reportedName : Codec → String
  | .utf8 | .utf8Marked => "utf-8"
  | .ascii => "ascii"
  | .latin1 => "latin-1"
  | .latin9 | .windows1252 => "charmap"
  | .utf16 none => "utf-16"
  | .utf16 (some .little) => "utf-16-le"
  | .utf16 (some .big) => "utf-16-be"
  | .utf32 none => "utf-32"
  | .utf32 (some .little) => "utf-32-le"
  | .utf32 (some .big) => "utf-32-be"

/-- Positions from `start` to before `stop` in a message. -/
def positions (start stop : Nat) : Text :=
  if stop = start + 1 then Text.ofNat start
  else Text.ofNat start ++ "-" ++ Text.ofNat (stop - 1)

def encodeFailure (codec : Codec) (t : Text) (fault : EncodeFault) : Failure :=
  let subject : Text :=
    if fault.stop = fault.start + 1 then
      "character '" ++ shownPoint (t.getD fault.start 0) ++ "'"
    else "characters"
  .ofText .encoding ("'" ++ (reportedName codec : Text) ++ "' codec can't encode " ++ subject ++
    " in position " ++ positions fault.start fault.stop ++ ": " ++ fault.reason)

def decodeFailure (codec : Codec) (bytes : Bytes) (fault : DecodeFault) : Failure :=
  let (settled, _, bytes) := codec.settle (bytes.map UInt8.toNat)
  let name : String := match settled with
    | .utf16 none => "utf-16-le"
    | .utf32 none => "utf-32-le"
    | codec => reportedName codec
  let subject : Text :=
    if fault.stop = fault.start + 1 then
      "byte 0x" ++ Text.hex 2 (bytes.getD fault.start 0)
    else "bytes"
  .ofText .decoding ("'" ++ (name : Text) ++ "' codec can't decode " ++ subject ++
    " in position " ++ positions fault.start fault.stop ++ ": " ++ fault.reason)

/-- Check a name that is handed over as UTF-8 up to a null. -/
def checkName (name : Text) : Except Failure Unit :=
  match Codec.utf8.encode .refuse name with
  | .error fault => .error (encodeFailure .utf8 name fault)
  | .ok _ =>
    if name.contains 0 then .error (.ofText .badValue "embedded null character") else .ok ()

theorem foreign_of_checkName {name : Text} {f : Failure} (fails : checkName name = .error f) :
    f.kind.isForeign = true := by
  rw [checkName] at fails
  split at fails
  · obtain rfl := Except.error.inj fails
    rfl
  · split at fails <;> cases fails
    rfl

/-- The codec of a name, for the direction that `converse` names. -/
def resolve (name : Text) (converse : String) : Except Failure Codec :=
  match find name with
  | .codec codec => .ok codec
  | .notText => .error (.ofText .lookup ("'" ++ name ++ "' is not a text encoding; use codecs." ++
      (converse : Text) ++ "() to handle arbitrary codecs"))
  | .unknown => .error (.ofText .lookup ("unknown encoding: " ++ name))

theorem foreign_of_resolve {name : Text} {converse : String} {f : Failure}
    (fails : resolve name converse = .error f) : f.kind.isForeign = true := by
  rw [resolve] at fails
  split at fails <;> cases fails <;> rfl

/-- The failure of a conversion by a rule that it cannot use. Encodings that are not converted directly
report it as their own. -/
def ruleFailure (name : Text) (doing : String) (f : Failure) : Failure :=
  if directNames.contains (fold name).toName then f
  else
    .because (.ofText f.kind ((doing : Text) ++ " with '" ++ name ++ "' codec failed (" ++
      f.kind.name ++ ": " ++ f.message ++ ")")) f

theorem kind_ruleFailure (name : Text) (doing : String) (f : Failure) :
    (ruleFailure name doing f).kind = f.kind := by
  rw [ruleFailure]
  split <;> rfl

/-- The failure of the rule itself, if it has no meaning for a conversion. -/
def defect? (decoding : Bool) : Replacement → Option Failure
  | .unknown rule => some (.ofText .lookup ("unknown error handler name '" ++ rule ++ "'"))
  | .characterReference =>
    if decoding then
      some (.ofText .wrongType "don't know how to handle UnicodeDecodeError in error callback")
    else none
  | _ => none

theorem foreign_of_defect {decoding : Bool} {rule : Replacement} {f : Failure}
    (defect : defect? decoding rule = some f) : f.kind.isForeign = true := by
  cases rule with
  | unknown rule =>
    obtain rfl := Option.some.inj defect
    rfl
  | characterReference =>
    cases decoding <;> cases defect
    rfl
  | _ => cases defect

theorem foreign_of_ruleFailure {decoding : Bool} {rule : Replacement} {name : Text} {doing : String}
    {f : Failure} (defect : defect? decoding rule = some f) :
    (ruleFailure name doing f).kind.isForeign = true := by
  rw [kind_ruleFailure]
  exact foreign_of_defect defect

/-- The result of decoding: a text, a fault in the bytes, or a failure to find the encoding or to use
the rule. Without bytes there is nothing to find. -/
def decode (name : Text) (rule : Replacement) (bytes : Bytes) :
    Except Failure (Except (String × Failure) Text) := do
  checkName name
  if bytes.isEmpty then pure (.ok [])
  else
    let codec ← resolve name "decode"
    match codec.decode rule bytes, defect? true rule with
    | .ok t, _ => pure (.ok t)
    | .error _, some f => throw (ruleFailure name "decoding" f)
    | .error fault, none => pure (.error (fault.reason, decodeFailure codec bytes fault))

/-- The result of encoding: bytes, a fault in the text, or a failure to find the encoding or to use the
rule. -/
def encode (name : Text) (rule : Replacement) (t : Text) :
    Except Failure (Except (String × Failure) Bytes) := do
  checkName name
  let codec ← resolve name "encode"
  match codec.encode rule t, defect? false rule with
  | .ok bytes, _ => pure (.ok bytes)
  | .error _, some f => throw (ruleFailure name "encoding" f)
  | .error fault, none => pure (.error (fault.reason, encodeFailure codec t fault))

/-! ### Conversions in templates -/

/-- A conversion whose faults are failures. -/
def flat {α : Type} : Except Failure (Except (String × Failure) α) → Except Failure α
  | .ok (.ok a) => .ok a
  | .ok (.error (_, f)) => .error f
  | .error f => .error f

theorem foreign_of_bind {α β : Type} {x : Except Failure β}
    {next : β → Except Failure (Except (String × Failure) α)} {f : Failure}
    (first : ∀ g, x = .error g → g.kind.isForeign = true)
    (rest : ∀ b g, flat (next b) = .error g → g.kind.isForeign = true)
    (fails : flat (x >>= next) = .error f) : f.kind.isForeign = true := by
  cases x with
  | error g =>
    obtain rfl := Except.error.inj fails
    exact first g rfl
  | ok b => exact rest b f fails

theorem foreign_of_decode {name : Text} {rule : Replacement} {bytes : Bytes} {f : Failure}
    (fails : flat (decode name rule bytes) = .error f) : f.kind.isForeign = true := by
  refine foreign_of_bind (fun _ => foreign_of_checkName) (fun _ g fails => ?_) fails
  split at fails
  · cases fails
  refine foreign_of_bind (fun _ => foreign_of_resolve) (fun codec g fails => ?_) fails
  split at fails <;> cases fails
  next defect => exact foreign_of_ruleFailure defect
  next => rfl

theorem foreign_of_encode {name : Text} {rule : Replacement} {t : Text} {f : Failure}
    (fails : flat (encode name rule t) = .error f) : f.kind.isForeign = true := by
  refine foreign_of_bind (fun _ => foreign_of_checkName) (fun _ g fails => ?_) fails
  refine foreign_of_bind (fun _ => foreign_of_resolve) (fun codec g fails => ?_) fails
  split at fails <;> cases fails
  next defect => exact foreign_of_ruleFailure defect
  next => rfl

/-- Check a name as templates do. -/
def nameChecked (name : Text) : Except Raised Unit :=
  Raised.except (checkName name) fun _ => foreign_of_checkName

/-- Decode as templates do. -/
def decoded (name : Text) (rule : Replacement) (bytes : Bytes) : Except Raised Text :=
  Raised.except (flat (decode name rule bytes)) fun _ => foreign_of_decode

/-- Encode as templates do. -/
def encoded (name : Text) (rule : Replacement) (t : Text) : Except Raised Bytes :=
  Raised.except (flat (encode name rule t)) fun _ => foreign_of_encode

end Encoding

end Stencil
