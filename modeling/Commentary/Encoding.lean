import Commentary.Encoding.Utf8
import Commentary.Text.Quoted

/-!
# Text encodings

The encodings that files can be read and written in, and what is said when bytes or characters do
not fit. They are UTF-8, with or without a byte order mark, Latin-1 and ASCII. Every other encoding
counts as unknown, also one that a system at large can read and write, and a statement about files
says nothing more of it than that.
-/

namespace Commentary

/-- An encoding of texts. -/
inductive Encoding where
  | utf8
  /-- UTF-8 with a byte order mark in front. -/
  | utf8Mark
  | latin1
  | ascii
  deriving DecidableEq, Repr

/-- Bytes that an encoding cannot read. -/
structure DecodeError where
  /-- The name of the encoding in messages. -/
  codec : Text
  /-- The index of the first byte at fault. -/
  first : Nat
  /-- The index of the last byte at fault. -/
  last : Nat
  /-- The first byte at fault. -/
  byte : UInt8
  /-- Why they do not fit. -/
  reason : Text
  deriving DecidableEq, Repr

/-- Characters that an encoding cannot write. -/
structure EncodeError where
  /-- The name of the encoding in messages. -/
  codec : Text
  /-- The index of the first character at fault. -/
  first : Nat
  /-- The index of the last character at fault. -/
  last : Nat
  /-- The first character at fault. -/
  char : Char
  /-- How many code points the encoding has. -/
  limit : Nat
  deriving DecidableEq, Repr

/-- One position, or the first and the last of several. -/
def positionRange (first last : Nat) : Text :=
  if first == last then Text.ofNat first else Text.ofNat first ++ '-' :: Text.ofNat last

/-- The code points of an encoding with `limit` of them. -/
def rangeReason (limit : Nat) : Text :=
  "ordinal not in range(".toList ++ Text.ofNat limit ++ [')']

/-- What is said of bytes that cannot be read. -/
def DecodeError.message (e : DecodeError) : Text :=
  Text.quoted e.codec ++ " codec can't decode ".toList ++
    (if e.first == e.last then "byte 0x".toList ++ Text.hex 2 e.byte.toNat else "bytes".toList) ++
    " in position ".toList ++ positionRange e.first e.last ++ ": ".toList ++ e.reason

/-- What is said of characters that cannot be written. -/
def EncodeError.message (e : EncodeError) : Text :=
  Text.quoted e.codec ++ " codec can't encode ".toList ++
    (if e.first == e.last then "character '".toList ++ Text.codeEscape e.char ++ "'".toList
      else "characters".toList) ++
    " in position ".toList ++ positionRange e.first e.last ++ ": ".toList ++ rangeReason e.limit

/-- Why bytes are not UTF-8, in words. -/
def Utf8.Reason.text : Utf8.Reason → Text
  | .invalidStart => "invalid start byte".toList
  | .invalidContinuation => "invalid continuation byte".toList
  | .unexpectedEnd => "unexpected end of data".toList

namespace Encoding

/-- The name of UTF-8 in messages. -/
def utf8Codec : Text := "utf-8".toList

/-- The names of each encoding in plain form; the first one is its own, the others are registered. -/
def names : Encoding → List String
  | .utf8 => ["utf_8", "cp65001", "u8", "utf", "utf8", "utf8_ucs2", "utf8_ucs4"]
  | .utf8Mark => ["utf_8_sig"]
  | .latin1 => ["latin_1", "8859", "cp819", "csisolatin1", "ibm819", "iso8859", "iso8859_1",
      "iso_8859_1", "iso_8859_1_1987", "iso_ir_100", "l1", "latin", "latin1"]
  | .ascii => ["ascii", "646", "ansi_x3.4_1968", "ansi_x3.4_1986", "ansi_x3_4_1968", "cp367",
      "csascii", "ibm367", "iso646_us", "iso_646.irv_1991", "iso_ir_6", "us", "us_ascii"]

/-- A name of an encoding in plain form: letters in small, and one underscore between the runs of
letters, digits and periods. -/
def plainName (name : Text) : Text :=
  let runs := List.splitOnP (fun c => !(c.isAlphanum || c == '.')) (Text.lower name)
  List.intercalate ['_'] (runs.filter (· != []))

/-- The names of the encodings of bytes, which no text can be read or written in. -/
def binaryNames : List (List String) :=
  [["base64_codec", "base64", "base_64"], ["bz2_codec", "bz2"], ["hex_codec", "hex"],
    ["quopri_codec", "quopri", "quoted_printable", "quotedprintable"], ["rot_13", "rot13"],
    ["uu_codec", "uu"], ["zlib_codec", "zip", "zlib"]]

/-- Whether a plain name is one of the given ones. In a registered name periods may be read as
underscores, in an encoding's own name they may not. -/
def isAmong (plain : Text) (names : List String) : Bool :=
  let joined := plain.map fun c => if c == '.' then '_' else c
  names.any (·.toList == plain) || names.tail.any (·.toList == joined)

/-- The name of the encoding that the system is set to, which is UTF-8. -/
def systemName : Text := "locale".toList

/-- An encoding by its name, if it is one of the four. -/
def ofName? (name : Text) : Option Encoding :=
  if name == systemName then some .utf8
  else [Encoding.utf8, .utf8Mark, .latin1, .ascii].find? (isAmong (plainName name) ·.names)

/-- Whether a name is that of an encoding of bytes. -/
def isBinary (name : Text) : Bool := binaryNames.any (isAmong (plainName name))

/-- The byte order mark. -/
def mark : Bytes := [0xEF, 0xBB, 0xBF]

/-- Decode UTF-8. -/
def decodeUtf8 (bytes : Bytes) : Except DecodeError Text :=
  (Utf8.decode bytes).mapError fun f => ⟨utf8Codec, f.first, f.last, f.byte, f.reason.text⟩

/-- Decode UTF-8 behind an optional byte order mark; faults are counted from behind the mark. Bytes
that only begin the mark are no text yet. -/
def decodeMarked (bytes : Bytes) : Except DecodeError Text :=
  if bytes.length < mark.length && bytes.isPrefixOf mark then .ok []
  else if mark.isPrefixOf bytes then decodeUtf8 (bytes.drop mark.length)
  else decodeUtf8 bytes

/-- Decode bytes below `limit`, each a character of its own, from index `i` on. -/
def decodeBytes (codec : Text) (limit i : Nat) : Bytes → Except DecodeError Text
  | [] => .ok []
  | b :: bytes =>
    if b.toNat < limit then (decodeBytes codec limit (i + 1) bytes).map (Char.ofNat b.toNat :: ·)
    else .error ⟨codec, i, i, b, rangeReason limit⟩

/-- Encode characters below `limit` as one byte each, from index `i` on. A fault names the whole run
of characters that do not fit. -/
def encodeBytes (codec : Text) (limit i : Nat) : Text → Except EncodeError Bytes
  | [] => .ok []
  | c :: t =>
    if c.toNat < limit then (encodeBytes codec limit (i + 1) t).map (Utf8.byte c.toNat :: ·)
    else .error ⟨codec, i, i + (t.takeWhile (limit ≤ ·.toNat)).length, c, limit⟩

/-- The name of Latin-1 in messages. -/
def latin1Codec : Text := "latin-1".toList

/-- The name of ASCII in messages. -/
def asciiCodec : Text := "ascii".toList

/-- Read bytes as a text. -/
def decode : Encoding → Bytes → Except DecodeError Text
  | .utf8, bytes => decodeUtf8 bytes
  | .utf8Mark, bytes => decodeMarked bytes
  | .latin1, bytes => decodeBytes latin1Codec 256 0 bytes
  | .ascii, bytes => decodeBytes asciiCodec 128 0 bytes

/-- Write a text as bytes. -/
def encode : Encoding → Text → Except EncodeError Bytes
  | .utf8, t => .ok (Utf8.encode t)
  | .utf8Mark, t => .ok (mark ++ Utf8.encode t)
  | .latin1, t => encodeBytes latin1Codec 256 0 t
  | .ascii, t => encodeBytes asciiCodec 128 0 t

end Encoding

end Commentary
