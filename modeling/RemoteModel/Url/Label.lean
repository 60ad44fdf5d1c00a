import RemoteModel.Text.Composed
import RemoteModel.Text.Punycode
import RemoteModel.Url.LabelLetters

/-!
# Labels

A label is what stands between two dots of a host name. One with characters outside ASCII is
written in Punycode behind a mark of four characters. Before that it has to obey these rules.

* It is composed, it neither begins nor ends with a hyphen nor has two of them in the third and
  fourth place, and it does not begin with a mark.
* Every character is permitted, some of them only next to certain others.
* Where letters or digits are written from right to left, all letters are, and the two kinds of
  digits are not mixed.
-/

namespace RemoteModel.Url.Label

/-! ## Neighbours -/

/-- The place of the marks that suppress a vowel. -/
def viramaPlace : Nat := 9

/-- A mark that suppresses a vowel. -/
def isVirama (c : Char) : Bool := Text.markPlace c.toNat == viramaPlace

/-- A character that others join across. -/
def isJoinedAcross (c : Char) : Bool := nonspacing.contains c || joinedAcross.contains c

/-- The nearest character that takes part in joining is in one of two sets. -/
def joins (one both : Text.CodePoints) (cs : List Char) : Bool :=
  match cs.dropWhile isJoinedAcross with
  | c :: _ => one.contains c || both.contains c
  | [] => false

/-- The digits that are used with Arabic, and those that are used with Persian. -/
def isArabicDigit (c : Char) : Bool := 0x660 ≤ c.toNat && c.toNat ≤ 0x669

def isPersianDigit (c : Char) : Bool := 0x6F0 ≤ c.toNat && c.toNat ≤ 0x6F9

/-- A character that needs certain neighbours has them. What stands before it is given from the
nearest character on. -/
def fitsBetween (before : List Char) (c : Char) (after : List Char) : Bool :=
  let n := c.toNat
  -- A sign that keeps letters apart, and one that joins them.
  if n = 0x200C then
    before.head?.any isVirama || (joins joiningNext joiningBoth before &&
      joins joiningPrevious joiningBoth after)
  else if n = 0x200D then before.head?.any isVirama
  -- A dot between two letters, signs of numbers, and a dot between words.
  else if n = 0xB7 then before.head? == some 'l' && after.head? == some 'l'
  else if n = 0x375 then after.head?.any greek.contains
  else if n = 0x5F3 || n = 0x5F4 then before.head?.any hebrew.contains
  else if n = 0x30FB then (before ++ after).any japanese.contains
  else if isArabicDigit c then !(before ++ after).any isPersianDigit
  else isPersianDigit c && !(before ++ after).any isArabicDigit

/-- All characters are permitted where they stand. -/
def allFit (before : List Char) : List Char → Bool
  | [] => true
  | c :: after =>
    (permitted.contains c || fitsBetween before c after) && allFit (c :: before) after

/-! ## Directions -/

/-- A character that is written from left to right. -/
def isLeftToRight (c : Char) : Bool :=
  !(rightToLeft.contains c || arabicDigits.contains c || commonDigits.contains c ||
    neutral.contains c || nonspacing.contains c)

/-- Letters and digits can end what is written from right to left. -/
def isRightEnd (c : Char) : Bool :=
  rightToLeft.contains c || arabicDigits.contains c || commonDigits.contains c

/-- One direction, and one kind of digits in it. -/
def hasOneDirection (cs : List Char) : Bool :=
  !cs.any (fun c => rightToLeft.contains c || arabicDigits.contains c) ||
    (cs.head?.any rightToLeft.contains && !cs.any isLeftToRight &&
      (cs.reverse.dropWhile nonspacing.contains).head?.any isRightEnd &&
      !(cs.any arabicDigits.contains && cs.any commonDigits.contains))

/-! ## Labels -/

def isMark (c : Char) : Bool := nonspacing.contains c || spacing.contains c

/-- The label obeys the rules. -/
def isValid (cs : List Char) : Bool :=
  !cs.isEmpty && Text.isComposed cs && (cs.drop 2).take 2 != ['-', '-'] &&
    cs.head? != some '-' && cs.getLast? != some '-' && !cs.head?.any isMark &&
    allFit [] cs && hasOneDirection cs

/-- What stands before a label in Punycode. -/
def mark : List Char := ['x', 'n', '-', '-']

/-- The label that is meant by one in ASCII; behind the mark there is Punycode. -/
def meant? (cs : List Char) : Option (List Char) :=
  match Text.after? mark cs with
  | some code =>
    if code.isEmpty || code.getLast? == some '-' then none else Text.Punycode.decode? code
  | none => some cs

/-- The greatest length of a written label. -/
def maxLength : Nat := 63

/-- A label as it is written in a host name, in ASCII. -/
def written? (cs : List Char) : Option (List Char) :=
  let ascii := cs.all fun c => c.toNat < 0x80
  let written := if ascii then cs else mark ++ Text.Punycode.encode cs
  let valid := if ascii then (meant? cs).any isValid else isValid cs
  if valid && written.length ≤ maxLength then some written else none

end RemoteModel.Url.Label
