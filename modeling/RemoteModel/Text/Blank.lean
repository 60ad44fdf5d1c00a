/-!
# Blanks

Two sets of blanks are in use. *White space* is the Unicode property of that name, 25 code
points. *Blanks* are white space and the four separator controls U+001C to U+001F; they are
what surrounds a configured text.
-/

namespace RemoteModel.Text

/-- The Unicode property White_Space. -/
def isWhiteSpace (c : Char) : Bool :=
  let n := c.toNat
  (9 ≤ n && n ≤ 13) || n == 0x20 || n == 0x85 || n == 0xA0 || n == 0x1680 ||
    (0x2000 ≤ n && n ≤ 0x200A) || n == 0x2028 || n == 0x2029 || n == 0x202F || n == 0x205F ||
    n == 0x3000

/-- White space or one of the separator controls. -/
def isBlank (c : Char) : Bool := isWhiteSpace c || (0x1C ≤ c.toNat && c.toNat ≤ 0x1F)

/-- Drops what satisfies a test from both ends. -/
def trimBy (p : Char → Bool) (cs : List Char) : List Char :=
  ((cs.dropWhile p).reverse.dropWhile p).reverse

/-- The text without surrounding white space. -/
def trim (s : String) : String := String.ofList (trimBy isWhiteSpace s.toList)

/-- The text without surrounding blanks. -/
def strip (s : String) : String := String.ofList (trimBy isBlank s.toList)

/-- The pieces between the occurrences of a separator; there is always at least one. -/
def pieces (sep : Char) : List Char → List (List Char)
  | [] => [[]]
  | c :: rest =>
    if c = sep then [] :: pieces sep rest
    else
      match pieces sep rest with
      | [] => [[c]]
      | p :: ps => (c :: p) :: ps

/-- The pieces of a text between the occurrences of a separator. -/
def split (sep : Char) (s : String) : List String := (pieces sep s.toList).map String.ofList

/-- What stands before and after the first occurrence of a separator, if it occurs. -/
def cut? (sep : Char) : List Char → Option (List Char × List Char)
  | [] => none
  | c :: rest =>
    if c = sep then some ([], rest) else (cut? sep rest).map fun (a, b) => (c :: a, b)

/-- The rest of a text behind its given beginning. -/
def after? : List Char → List Char → Option (List Char)
  | [], rest => some rest
  | _ :: _, [] => none
  | c :: cs, d :: rest => if c = d then after? cs rest else none

/-- The texts with a separator between them. -/
def join (sep : String) : List String → String
  | [] => ""
  | [s] => s
  | s :: rest => s ++ sep ++ join sep rest

end RemoteModel.Text
