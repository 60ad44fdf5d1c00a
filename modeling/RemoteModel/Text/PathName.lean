import RemoteModel.Text.Blank

/-!
# File names

A file name is a root and some segments. The root is empty, one slash or two; a name with more
leading slashes has one. Empty segments and single dots do not count.

A name that begins with a tilde stands for a home directory.
-/

namespace RemoteModel.Text.PathName

/-- The root of a name: no slash, one or two. -/
def root (cs : List Char) : List Char :=
  match (cs.takeWhile (· = '/')).length with
  | 0 => []
  | 2 => ['/', '/']
  | _ => ['/']

/-- The segments of a name. -/
def segments (cs : List Char) : List (List Char) :=
  (pieces '/' cs).filter fun s => !s.isEmpty && s != ['.']

/-- The name of a root and some segments; a dot stands for the name without both. -/
def assemble (root : List Char) (segments : List (List Char)) : String :=
  let body := join "/" (segments.map String.ofList)
  let name := String.ofList root ++ body
  if name = "" then "." else name

/-- The normal form of a name. -/
def normal (s : String) : String := assemble (root s.toList) (segments s.toList)

/-- The name of the folder that a name lies in. -/
def folder (s : String) : String := assemble (root s.toList) (segments s.toList).dropLast

/-- The name of a folder without slashes at its end, but for one that is all of it. -/
def trimmed (folder : List Char) : List Char :=
  let cs := (folder.reverse.dropWhile (· = '/')).reverse
  if cs.isEmpty then ['/'] else cs

/-- The home directory of a user that is known, by the user's name. The empty name is that of
whoever runs the program; a directory that begins with a tilde is taken for unknown. -/
def homeOf? (homes : String → Option String) (user : String) : Option (List Char) :=
  ((homes user).map fun home => trimmed home.toList).filter fun home => home.head? != some '~'

/-- The name with a leading tilde, and the name of a user behind it, replaced by the home directory.
There is no name if the home directory is not known. -/
def expand? (homes : String → Option String) (s : String) : Option String :=
  match root s.toList, segments s.toList with
  | [], ('~' :: user) :: rest =>
    (homeOf? homes (String.ofList user)).map fun home =>
      assemble (root home) (segments home ++ rest)
  | root, segments => some (assemble root segments)

/-- The last point of a segment and what follows it, if it is neither at the start nor at the
end of the segment. -/
def suffixOf (segment : List Char) : List Char :=
  let after := (segment.reverse.takeWhile (· != '.')).reverse
  if after.isEmpty || after.length + 1 ≥ segment.length then [] else '.' :: after

/-- The suffix of a file name. -/
def suffix (s : String) : String :=
  match (segments s.toList).getLast? with
  | some segment => String.ofList (suffixOf segment)
  | none => ""

end RemoteModel.Text.PathName
