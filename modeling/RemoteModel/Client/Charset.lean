import RemoteModel.Client.Answer
import RemoteModel.Text.Punycode

/-!
# Charsets

A charset tells how bytes stand for characters. Bytes that stand for none are shown as the
replacement character.

**Refusals.** Units of several bytes whose order is not named need a byte order mark, and the
numerals of Punycode must be ASCII. Some names are those of conversions that do not make texts of
bytes. In these cases there is no text at all.
-/

namespace RemoteModel

open Text.Wide (Order)

/-- Why a name that is known is the name of no charset. -/
inductive Misuse where
  /-- It converts bytes to bytes. -/
  | betweenBytes
  /-- It converts texts to texts. -/
  | betweenTexts
  /-- It takes no replacement characters. -/
  | strict
  /-- It converts nothing. -/
  | void
deriving DecidableEq, Repr

/-- How bytes stand for characters. -/
inductive Charset where
  | utf8
  /-- A mark at the beginning is no character. -/
  | markedUtf8
  | latin
  /-- Latin letters, with marks and signs in the place of the upper control characters. -/
  | windows
  | ascii
  /-- The order is the one that a mark tells, if none is named. -/
  | utf16 (order : Option Order)
  | utf32 (order : Option Order)
  | punycode
  /-- There is no text of any bytes. -/
  | textless (misuse : Misuse)
deriving DecidableEq, Repr

namespace Charset

/-! ## Names -/

/-- Letters, digits and points make up a name; anything else separates its words. -/
def isNamePart (c : Char) : Bool := c.isAlphanum || c == '.'

/-- A name with one underscore between two words. -/
def plainName (name : String) : String :=
  let words := name.toList.splitBy fun a b => isNamePart a == isNamePart b
  Text.join "_" ((words.filter fun word => word.any isNamePart).map String.ofList)

/-- The charsets by their plain names. -/
def named : Entries Charset := [
  ("utf_8", .utf8), ("utf8", .utf8), ("u8", .utf8), ("utf", .utf8), ("cp65001", .utf8),
  ("utf8_ucs2", .utf8), ("utf8_ucs4", .utf8), ("utf_8_sig", .markedUtf8),
  ("latin_1", .latin), ("latin1", .latin), ("latin", .latin), ("l1", .latin),
  ("iso_8859_1", .latin), ("iso8859_1", .latin), ("iso8859", .latin), ("8859", .latin),
  ("iso_8859_1_1987", .latin), ("iso_ir_100", .latin), ("cp819", .latin), ("ibm819", .latin),
  ("csisolatin1", .latin),
  ("cp1252", .windows), ("1252", .windows), ("windows_1252", .windows),
  ("ascii", .ascii), ("us_ascii", .ascii), ("us", .ascii), ("646", .ascii),
  ("iso646_us", .ascii), ("iso_646.irv_1991", .ascii), ("iso_ir_6", .ascii),
  ("ansi_x3.4_1968", .ascii), ("ansi_x3_4_1968", .ascii), ("ansi_x3.4_1986", .ascii),
  ("cp367", .ascii), ("ibm367", .ascii), ("csascii", .ascii),
  ("utf_16", .utf16 none), ("utf16", .utf16 none), ("u16", .utf16 none),
  ("utf_16_be", .utf16 (some .big)), ("utf_16be", .utf16 (some .big)),
  ("unicodebigunmarked", .utf16 (some .big)),
  ("utf_16_le", .utf16 (some .little)), ("utf_16le", .utf16 (some .little)),
  ("unicodelittleunmarked", .utf16 (some .little)),
  ("utf_32", .utf32 none), ("utf32", .utf32 none), ("u32", .utf32 none),
  ("utf_32_be", .utf32 (some .big)), ("utf_32be", .utf32 (some .big)),
  ("utf_32_le", .utf32 (some .little)), ("utf_32le", .utf32 (some .little)),
  ("punycode", .punycode),
  ("hex", .textless .betweenBytes), ("hex_codec", .textless .betweenBytes),
  ("base64", .textless .betweenBytes), ("base_64", .textless .betweenBytes),
  ("base64_codec", .textless .betweenBytes), ("bz2", .textless .betweenBytes),
  ("bz2_codec", .textless .betweenBytes), ("zip", .textless .betweenBytes),
  ("zlib", .textless .betweenBytes), ("zlib_codec", .textless .betweenBytes),
  ("uu", .textless .betweenBytes), ("uu_codec", .textless .betweenBytes),
  ("quopri", .textless .betweenBytes), ("quopri_codec", .textless .betweenBytes),
  ("quoted_printable", .textless .betweenBytes), ("quotedprintable", .textless .betweenBytes),
  ("rot13", .textless .betweenTexts), ("rot_13", .textless .betweenTexts),
  ("idna", .textless .strict), ("undefined", .textless .void)]

/-- The charset of a name, if it is known here. -/
def ofName? (name : String) : Option Charset := named.get? (plainName name)

/-! ## Texts of bytes -/

/-- A failure to tell characters. -/
def characterless (message : String) : Refusal := ⟨"UnicodeError", message⟩

end Charset

/-- The refusal of a name that is used for a charset. -/
def Misuse.refusal : Misuse → Refusal
  | betweenBytes => ⟨"AssertionError", ""⟩
  | betweenTexts =>
    ⟨"TypeError", "descriptor 'translate' for 'str' objects doesn't apply to a 'bytes' object"⟩
  | strict => Charset.characterless "Unsupported error handling replace"
  | void => Charset.characterless "undefined encoding"

namespace Charset

/-- The text of units of two bytes in an order. What is left of a pair at the end is shown as
one character. -/
def shown16 (order : Order) : List UInt8 → List Char
  | [] => []
  | [_] => [Text.Utf8.replacement]
  | [a, b] => [Text.Wide.point (Text.Wide.number order [a, b])]
  | [a, b, _] =>
    let n := Text.Wide.number order [a, b]
    if Text.Wide.isHigh n then [Text.Utf8.replacement]
    else [Text.Wide.point n, Text.Utf8.replacement]
  | a :: b :: c :: d :: rest =>
    let n := Text.Wide.number order [a, b]
    let m := Text.Wide.number order [c, d]
    if Text.Wide.isHigh n && Text.Wide.isLow m then Text.Wide.pair n m :: shown16 order rest
    else Text.Wide.point n :: shown16 order (c :: d :: rest)

/-- The text of units of four bytes in an order. -/
def shown32 (order : Order) : List UInt8 → List Char
  | a :: b :: c :: d :: rest =>
    let n := Text.Wide.number order [a, b, c, d]
    (if n ≤ 0x10FFFF then Text.Wide.point n else Text.Utf8.replacement) :: shown32 order rest
  | [] => []
  | _ => [Text.Utf8.replacement]

/-- The text of marked bytes; bytes that are too few for a unit need no mark. -/
def marked (name : String) (width : Nat) (shown : Order → List UInt8 → List Char)
    (bytes : List UInt8) : Option (Order × List UInt8) → Except Refusal (List Char)
  | some (order, rest) => .ok (shown order rest)
  | none =>
    if bytes.length < width then .ok [Text.Utf8.replacement]
    else .error (characterless (name ++ " stream does not start with BOM"))

/-- The order that a mark of two bytes tells, and what follows the mark. -/
def mark16? : List UInt8 → Option (Order × List UInt8)
  | 0xFE :: 0xFF :: rest => some (.big, rest)
  | 0xFF :: 0xFE :: rest => some (.little, rest)
  | _ => none

/-- The order that a mark of four bytes tells, and what follows the mark. -/
def mark32? : List UInt8 → Option (Order × List UInt8)
  | 0x00 :: 0x00 :: 0xFE :: 0xFF :: rest => some (.big, rest)
  | 0xFF :: 0xFE :: 0x00 :: 0x00 :: rest => some (.little, rest)
  | _ => none

/-- The characters of Windows that stand in the place of the upper control characters, from 0x80 on;
five bytes stand for none. -/
def windowsSigns : List Char :=
  ['€', '\uFFFD', '‚', 'ƒ', '„', '…', '†', '‡', 'ˆ', '‰', 'Š', '‹', 'Œ', '\uFFFD', 'Ž', '\uFFFD',
    '\uFFFD', '‘', '’', '“', '”', '•', '–', '—', '˜', '™', 'š', '›', 'œ', '\uFFFD', 'ž', 'Ÿ']

/-- The character of a byte of ASCII. -/
def asciiChar (b : UInt8) : Char :=
  if b < 0x80 then Char.ofNat b.toNat else Text.Utf8.replacement

def windowsChar (b : UInt8) : Char :=
  if b < 0x80 then Char.ofNat b.toNat else (windowsSigns[b.toNat - 0x80]?).getD (Char.ofNat b.toNat)

/-- What follows the mark of one-byte units; an unfinished mark is nothing. -/
def unmarked8 : List UInt8 → List UInt8
  | 0xEF :: 0xBB :: 0xBF :: rest => rest
  | [0xEF] => []
  | [0xEF, 0xBB] => []
  | bytes => bytes

/-- The text of bytes whose last hyphen stands in front of numerals, as far as they are any. -/
def punyText (bytes : List UInt8) : Except Refusal (List Char) :=
  let numerals := (bytes.reverse.takeWhile (· != 0x2D)).reverse
  let basic := (bytes.take (bytes.length - numerals.length)).dropLast
  match numerals.zipIdx.find? fun (b, _) => 0x80 ≤ b with
  | some (b, n) =>
    .error ⟨"UnicodeDecodeError", "'ascii' codec can't decode byte 0x" ++
      String.ofList (Json.Display.hex 2 b.toNat) ++ " in position " ++ toString n ++
        ": ordinal not in range(128)"⟩
  | none => .ok (Text.Punycode.shown (basic.map asciiChar) (numerals.map asciiChar))

/-- The text of bytes, of which there are some. -/
def decode (bytes : List UInt8) : Charset → Except Refusal (List Char)
  | utf8 => .ok (Text.Utf8.shown bytes).toList
  | markedUtf8 => .ok (Text.Utf8.shown (unmarked8 bytes)).toList
  | latin => .ok (bytes.map fun b => Char.ofNat b.toNat)
  | windows => .ok (bytes.map windowsChar)
  | ascii => .ok (bytes.map asciiChar)
  | utf16 (some order) => .ok (shown16 order bytes)
  | utf16 none => marked "UTF-16" 2 shown16 bytes (mark16? bytes)
  | utf32 (some order) => .ok (shown32 order bytes)
  | utf32 none => marked "UTF-32" 4 shown32 bytes (mark32? bytes)
  | punycode => punyText bytes
  | textless misuse => .error misuse.refusal

end Charset

end RemoteModel
