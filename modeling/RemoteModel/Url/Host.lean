import RemoteModel.Text.Blank
import RemoteModel.Text.Letters
import RemoteModel.Text.Percent
import RemoteModel.Url.Label

/-!
# Hosts

The host of an address is a name, four numbers with points between them, or groups of digits of
base sixteen in square brackets. Names are written in lower case; a name with characters outside
ASCII is written label by label in Punycode.

What looks like four numbers must be four numbers, each at most 255 and without leading zeros.
In a bracketed host one run of zero groups may be left out, four numbers may stand for the last
two groups, and a zone may follow a percent sign.
-/

namespace RemoteModel.Url

/-! ## Four numbers -/

/-- The rest of a run of digits, after which `k` more runs follow, each behind one character. -/
def digitRuns : Nat → List Char → Bool
  | k, [] => k == 0
  | k, c :: rest =>
    (c.isDigit && digitRuns k rest) ||
      match k, rest with
      | k + 1, d :: rest => d.isDigit && digitRuns k rest
      | _, _ => false

/-- Four runs of digits with one character between them. -/
def looksLikeNumbers : List Char → Bool
  | c :: rest => c.isDigit && digitRuns 3 rest
  | [] => false

/-- One of four numbers. -/
def isOctet (cs : List Char) : Bool :=
  !cs.isEmpty && cs.all Char.isDigit && cs.length ≤ 3 && !(cs.length > 1 && cs.head? == some '0') &&
    cs.foldl (fun n c => 10 * n + (c.toNat - 0x30)) 0 ≤ 255

/-- Four numbers with points between them. -/
def isNumbers (cs : List Char) : Bool :=
  let octets := Text.pieces '.' cs
  octets.length == 4 && octets.all isOctet

/-! ## Groups -/

/-- One group of digits. -/
def isGroup (cs : List Char) : Bool :=
  !cs.isEmpty && cs.length ≤ 4 && cs.all fun c => (Text.hexDigit? c).isSome

/-- The groups with four numbers at the end counted as two groups. -/
def expandNumbers (groups : List (List Char)) : Option (List (List Char)) :=
  match groups.getLast? with
  | some last =>
    if last.contains '.' then
      if isNumbers last then some (groups.dropLast ++ [['0'], ['0']]) else none
    else some groups
  | none => some groups

/-- The positions of the empty groups that are not at an end. -/
def gaps (groups : List (List Char)) : List Nat :=
  (List.range groups.length).filter fun i =>
    0 < i && i + 1 < groups.length && (groups.getD i []).isEmpty

/-- The groups that are written before and after a gap; an empty one at the end must adjoin it. -/
def aroundGap (groups : List (List Char)) (i : Nat) : Option (List (List Char)) :=
  let before := groups.take i
  let after := groups.drop (i + 1)
  let before? := if before.head? == some [] then if i = 1 then some [] else none else some before
  let after? :=
    if after.getLast? == some [] then if after.length = 1 then some [] else none else some after
  before?.bind fun b => after?.map fun a => b ++ a

/-- Eight groups with colons between them, or fewer around a gap. -/
def isGroups (cs : List Char) : Bool :=
  let groups := Text.pieces ':' cs
  groups.length ≥ 3 &&
    match expandNumbers groups with
    | none => false
    | some groups =>
      groups.length ≤ 9 &&
        match gaps groups with
        | [] => groups.length == 8 && groups.all isGroup
        | [i] =>
          match aroundGap groups i with
          | some written => written.length ≤ 7 && written.all isGroup
          | none => false
        | _ => false

/-- Groups, with a zone if a percent sign follows. -/
def isBracketed (cs : List Char) : Bool :=
  match Text.cut? '%' cs with
  | none => isGroups cs
  | some (groups, zone) => isGroups groups && !zone.isEmpty && !zone.contains '%'

/-! ## Names -/

/-- The characters that stand for themselves in a name; a percent sign is one of them. -/
def isHostSafe (c : Char) : Bool :=
  Text.Percent.isAsciiAlphanum c || "-._~!$&'()*+,;=\"\x60\x7b\x7d%|\\".toList.contains c

/-- The full stops of the scripts that have one of their own. -/
def isDot (c : Char) : Bool := c = '.' || c.toNat = 0x3002 || c.toNat = 0xFF0E || c.toNat = 0xFF61

/-- The labels with points between them. -/
def dotted : List (List Char) → List Char
  | [] => []
  | [l] => l
  | l :: rest => l ++ '.' :: dotted rest

/-- A name with characters outside ASCII. -/
def international? (cs : List Char) : Option (List Char) :=
  let labels := Text.pieces '.' (cs.map fun c => if isDot c then '.' else c)
  let trailing := labels.getLast? == some [] && labels.length > 1
  let labels := if trailing then labels.dropLast else labels
  (labels.mapM Label.written?).bind fun written =>
    let text := dotted written ++ if trailing then ['.'] else []
    if text.length ≤ (if trailing then 254 else 253) then some text else none

/-- The normal form of a host, without brackets. -/
def host? (cs : List Char) : Option (List Char) :=
  if looksLikeNumbers cs then if isNumbers cs then some cs else none
  else if cs.head? == some '[' && cs.getLast? == some ']' && cs.length ≥ 2 then
    let inner := (cs.drop 1).dropLast
    if isBracketed inner then some inner else none
  else if cs.all fun c => c.toNat < 0x80 then
    some (Text.Percent.encode isHostSafe (cs.map Char.toLower))
  else international? (Text.lowerBehind false cs)

end RemoteModel.Url
