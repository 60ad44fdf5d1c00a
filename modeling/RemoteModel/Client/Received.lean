import RemoteModel.Client.Charset
import RemoteModel.Text.Percent

/-!
# Answers as they arrive

An answer arrives with headers. The content type has parameters, one of which names the charset
of the bytes; without a charset that is known here they are read as UTF-8.

**Parameters** follow semicolons, and a value may stand in quotes, which a semicolon does not end.
A name that ends in a star announces a value behind its own charset and a language, each ended by
an apostrophe, in which percent signs introduce bytes. A plain parameter goes before one of these.
-/

namespace RemoteModel

namespace Header

/-- The value of a header, whose name is in lower case; several are taken for one list. -/
def value? (headers : Entries String) (name : String) : Option String :=
  match headers.filter fun h => Text.lower h.1 = name with
  | [] => none
  | found => some (Text.join ", " (found.map (·.2)))

/-- The pieces between the semicolons that stand outside of quotes. A quote behind a backslash
neither opens nor closes. It is told whether a quote is open and whether a backslash is in front. -/
def pieces : Bool → Bool → List Char → List (List Char)
  | _, _, [] => [[]]
  | quoted, escaped, c :: rest =>
    if c == ';' && !quoted then [] :: pieces false false rest
    else (pieces ((c == '"' && !escaped) != quoted) (c == '\\') rest).modifyHead (c :: ·)

/-- Undoes the escapes of one character by a backslash. -/
def unescaped (escaped : Char) : List Char → List Char
  | '\\' :: c :: rest =>
    if c == escaped then c :: unescaped escaped rest else '\\' :: unescaped escaped (c :: rest)
  | c :: rest => c :: unescaped escaped rest
  | [] => []

/-- The value without the quotes or brackets around it. -/
def unquoted (cs : List Char) : List Char :=
  match cs with
  | '"' :: rest =>
    if rest.getLast? == some '"' then unescaped '"' (unescaped '\\' rest.dropLast) else cs
  | '<' :: rest => if rest.getLast? == some '>' then rest.dropLast else cs
  | _ => cs

/-- The name of a parameter in lower case, and its value. -/
def parameter (cs : List Char) : String × List Char :=
  let (name, value) := (Text.cut? '=' cs).getD (cs, [])
  (Text.lower (Text.strip (String.ofList name)), unquoted (Text.trimBy Text.isBlank value))

/-- A value behind its own charset, if it is one; it is kept as it is if the charset has no text
for it. -/
def ownText (cs : List Char) : List Char :=
  let bytes := Text.Percent.bytes cs
  let (charset, value) :=
    match bytes.splitOn 0x27 with
    | charset :: _ :: value :: more =>
      (String.ofList (charset.map Charset.asciiChar), [0x27].intercalate (value :: more))
    | _ => ("", bytes)
  let kept := value.map fun b => Char.ofNat b.toNat
  match Charset.ofName? (if charset = "" then "us-ascii" else charset) with
  | some charset =>
    match charset.decode value with
    | .ok text => if text.contains Text.Utf8.replacement then kept else text
    | .error _ => kept
  | none => kept

/-- The charset that a content type names. -/
def charset? (contentType : String) : Option String := do
  let parameters := (pieces false false contentType.toList).map parameter
  let plain := (parameters.find? fun p => p.1 = "charset").map (·.2)
  let starred := (parameters.tail.find? fun p => p.1 = "charset*").map fun p => ownText p.2
  let name ← plain.or starred
  if name.all fun c => c.toNat < 0x80 then some (Text.lower (String.ofList name)) else none

end Header

namespace Response

/-- An answer with its headers. -/
def received (status : Nat) (headers : Entries String) (body : List UInt8) : Response :=
  let charset := ((Header.value? headers "content-type").bind Header.charset?).bind Charset.ofName?
  { status := status, body := body
    text :=
      if body.isEmpty then .ok ""
      else ((charset.getD .utf8).decode body).map String.ofList }

end Response

end RemoteModel
