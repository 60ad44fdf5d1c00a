import RemoteModel.Cli.Files

/-!
# Payload files

Models, patches and commands are read from files. A file whose name ends in `.xml` or `.xmi`
holds a text; all other files hold JSON. Every line end counts as one character.
-/

namespace RemoteModel.Cli

/-- Every line end as one character. -/
def unifyLineEnds : List Char → List Char
  | [] => []
  | '\r' :: '\n' :: rest => '\n' :: unifyLineEnds rest
  | '\r' :: rest => '\n' :: unifyLineEnds rest
  | c :: rest => c :: unifyLineEnds rest

/-- The suffixes of files that hold a text. -/
def textSuffixes : List String := [".xml", ".xmi"]

/-- The payload that a file holds. -/
def readPayload (name : String) (f : File) : Except Failure Json :=
  let shown := Text.PathName.normal name
  if name.toList.contains '\x00' then .error .zeroInName
  else
    match if isTooLong name then .error "File name too long" else f.bytes with
    | .error reason => .error (.badArgument ("cannot read " ++ shown ++ ": " ++ reason))
    | .ok bytes =>
      match Text.Utf8.decode? bytes with
      | none => .error .notEncoded
      | some cs =>
        let text := String.ofList (unifyLineEnds cs)
        if textSuffixes.contains (Text.lower (Text.PathName.suffix name)) then .ok (.str text)
        else
          match Json.read text with
          | .ok v => .ok v
          | .error _ => .error (.badArgument (shown ++ " is not valid JSON"))

end RemoteModel.Cli
