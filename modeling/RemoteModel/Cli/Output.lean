import RemoteModel.Failure
import RemoteModel.Json.Display
import RemoteModel.Screen.Markup
import RemoteModel.Screen.Table

/-!
# Output of the command line

A result is written as one line of compact JSON or, for people, as text: texts as they are,
objects and lists of objects as tables, and everything else as indented JSON.

**Tables.** A list of objects has a column for each member name, in the order of first
occurrence; an object without containers has a row for each member. A cell shows a value as
plain text, and a missing one as nothing.

**Tags.** What stands in a table or in the report of an error may hold tags; a text that is a
result of its own has none. A tag that does not fit is a failure.
-/

namespace RemoteModel.Cli

open Screen

/-- Who reads the output. -/
inductive Audience where
  | programs
  /-- People, on a screen of some width. -/
  | people (width : Nat)
deriving DecidableEq, Repr

/-- Some lines as a text, each with its end. -/
def printed (lines : List Line) : String := String.join (lines.map fun l => l.plain ++ "\n")

/-- Running text on a screen. -/
def running (width : Nat) (cs : List Char) : List Line :=
  (wrap .text width cs).map fun line => .text (String.ofList line)

/-- A text with tags on a screen. -/
def marked (width : Nat) (s : String) : Except Failure (List Line) := do
  let m ← Markup.Marked.ofText s
  m.readStyles
  .ok (running width m.shown)

/-- Indented JSON for people, in which characters outside ASCII stand for themselves. -/
def jsonLines (v : Json) : List Line :=
  (Text.split '\n' (Json.render { Json.indented with asciiOnly := false } v)).map .text

/-! ## Tables -/

/-- The title of a table, if it has one. -/
def readTitle : Option String → Except Failure (Option Markup.Marked)
  | none => .ok none
  | some "" => .ok none
  | some s => (Markup.Marked.ofText s).map some

/-- A table on a screen, by its title and its columns, each with its header first. All texts are
read before any style is. -/
def table (width : Nat) (title : Option String) (columns : List (List String)) :
    Except Failure (List Line) := do
  let columns ← columns.mapM fun column => column.mapM Markup.Marked.ofText
  let title ← if columns.isEmpty then .ok none else readTitle title
  (title.toList ++ columns.flatten).forM Markup.Marked.readStyles
  let shown : Table :=
    { title := title.map (·.shown), columns := columns.map fun column => column.map (·.shown) }
  .ok (shown.lines width)

/-- The names of the members of some objects, in the order of first occurrence. -/
def columnNames (objects : List (Entries Json)) : List String :=
  (objects.flatMap Entries.names).foldl (fun ns n => if ns.contains n then ns else ns ++ [n]) []

/-- The cell of a value that may be missing. -/
def cell (v : Option Json) : String :=
  match v with
  | some v => Json.Display.shown v
  | none => ""

/-- A value that holds no others. -/
def isPlain : Json → Bool
  | .arr _ => false
  | .obj _ => false
  | _ => true

/-- A value for people. -/
def human (width : Nat) (title : Option String) : Json → Except Failure (List Line)
  | .str s => .ok (running width (Markup.plain s.toList))
  | .arr [] => .ok [.text "(empty)"]
  | .arr items =>
    match items.mapM Json.members? with
    | some objects =>
      table width title
        ((columnNames objects).map fun n => n :: objects.map fun o => cell (o.get? n))
    | none => .ok (jsonLines (.arr items))
  | .obj members =>
    if members.all fun m => isPlain m.2 then
      table width title
        ["Key" :: members.map (·.1), "Value" :: members.map fun m => Json.Display.shown m.2]
    else .ok (jsonLines (.obj members))
  | v => .ok (jsonLines v)

/-- A value in one line. -/
def compactLine (v : Json) : Line := .text (Json.render Json.compact v)

/-- A result, for programs or for people. -/
def output (audience : Audience) (title : Option String) (v : Json) :
    Except Failure (List Line) :=
  match audience with
  | .programs => .ok [compactLine v]
  | .people width => human width title v

/-- Output is for programs if it is asked for, if nobody reads along, or by configuration. -/
def isForPrograms (asked terminal : Bool) (configured : Bool) : Bool :=
  asked || !terminal || configured

/-! ## Errors -/

/-- What the caller may do about an error of some kind that says nothing about it. -/
def usualSuggestion : ErrorCode → Option String
  | .transport => some "Start the model server or point \x60--base-url\x60 at a running instance."
  | .invalidArgs =>
    some "Run \x60modelserver --help\x60 or \x60<command> --help\x60 for valid usage."
  | .timeout =>
    some "Retry the command or increase \x60server.request_timeout_seconds\x60 in config."
  | .decode =>
    some
      "Check that \x60server.api_version\x60 matches the model server you are talking to."
  | _ => none

/-- What the caller is told to do. -/
def suggestionFor (e : Error) : Option String := e.suggestion.or (usualSuggestion e.code)

/-- A suggestion as a member of an object. -/
def suggestionMember : Option String → Entries Json
  | some s => [("suggestion", .str s)]
  | none => []

/-- An error with its suggestion, in one line. -/
def errorJson (e : Error) : Json :=
  .obj [("ok", .bool false),
    ("error", .obj ([("code", .str e.code.name), ("message", .str e.message),
      ("details", .obj e.details)] ++ suggestionMember (suggestionFor e)))]

/-- What is printed about an error, part by part. -/
def errorParts (width : Nat) (e : Error) : List (Except Failure (List Line)) :=
  [marked width ("[red]" ++ e.code.name ++ "[/red]: " ++ e.message)] ++
    (if e.details.isEmpty then [] else [.ok (jsonLines (.obj e.details))]) ++
      match suggestionFor e with
      | some s => [marked width ("Suggestion: " ++ s)]
      | none => []

/-- The lines of some parts, up to the first one that fails, and its failure. -/
def untilFailure : List (Except Failure (List Line)) → List Line × Option Failure
  | [] => ([], none)
  | .error failure :: _ => ([], some failure)
  | .ok lines :: rest =>
    let (more, failure) := untilFailure rest
    (lines ++ more, failure)

/-- An error, for programs or for people. -/
def errorOutput (audience : Audience) (e : Error) : List Line × Option Failure :=
  match audience with
  | .programs => ([compactLine (errorJson e)], none)
  | .people width => untilFailure (errorParts width e)

end RemoteModel.Cli
