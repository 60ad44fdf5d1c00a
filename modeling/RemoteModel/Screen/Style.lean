import RemoteModel.Failure
import RemoteModel.Text.CodePoints
import RemoteModel.Text.Letters
import RemoteModel.Text.Numeral

/-!
# Styles

A style is written as words: attributes, with a word before those that are switched off, a
colour, a colour behind a word for the background, and an address behind a word for links. Two
spellings of one style have the same normal form, so one of them can end what the other began.
What is no style is its own normal form, in small letters and without blanks around it.
-/

namespace RemoteModel.Screen

open Text

/-! ## Words -/

/-- The attributes in their order, each with all its spellings, of which the first one counts. -/
def attributes : List (List String) := [
  ["bold", "b"], ["dim", "d"], ["italic", "i"], ["underline", "u"], ["blink"], ["blink2"],
  ["reverse", "r"], ["conceal", "c"], ["strike", "s"], ["underline2", "uu"], ["frame"],
  ["encircle"], ["overline", "o"]]

/-- The place of an attribute, by one of its spellings. -/
def attribute? (word : String) : Option Nat := attributes.findIdx? fun names => names.contains word

/-- The names of colours. -/
def colourNames : List (List Char) := tableWords "
  black red green yellow blue magenta cyan white bright_black bright_red bright_green
  bright_yellow bright_blue bright_magenta bright_cyan bright_white grey0 gray0 navy_blue
  dark_blue blue3 blue1 dark_green deep_sky_blue4 dodger_blue3 dodger_blue2 green4 spring_green4
  turquoise4 deep_sky_blue3 dodger_blue1 green3 spring_green3 dark_cyan light_sea_green
  deep_sky_blue2 deep_sky_blue1 spring_green2 cyan3 dark_turquoise turquoise2 green1 spring_green1
  medium_spring_green cyan2 cyan1 dark_red deep_pink4 purple4 purple3 blue_violet orange4 grey37
  gray37 medium_purple4 slate_blue3 royal_blue1 chartreuse4 dark_sea_green4 pale_turquoise4
  steel_blue steel_blue3 cornflower_blue chartreuse3 cadet_blue sky_blue3 steel_blue1 pale_green3
  sea_green3 aquamarine3 medium_turquoise chartreuse2 sea_green2 sea_green1 aquamarine1
  dark_slate_gray2 dark_magenta dark_violet purple light_pink4 plum4 medium_purple3 slate_blue1
  yellow4 wheat4 grey53 gray53 light_slate_grey light_slate_gray medium_purple light_slate_blue
  dark_olive_green3 dark_sea_green light_sky_blue3 sky_blue2 dark_sea_green3 dark_slate_gray3
  sky_blue1 chartreuse1 light_green pale_green1 dark_slate_gray1 red3 medium_violet_red magenta3
  dark_orange3 indian_red hot_pink3 medium_orchid3 medium_orchid medium_purple2 dark_goldenrod
  light_salmon3 rosy_brown grey63 gray63 medium_purple1 gold3 dark_khaki navajo_white3 grey69
  gray69 light_steel_blue3 light_steel_blue yellow3 dark_sea_green2 light_cyan3 light_sky_blue1
  green_yellow dark_olive_green2 dark_sea_green1 pale_turquoise1 deep_pink3 magenta2 hot_pink2
  orchid medium_orchid1 orange3 light_pink3 pink3 plum3 violet light_goldenrod3 tan misty_rose3
  thistle3 plum2 khaki3 light_goldenrod2 light_yellow3 grey84 gray84 light_steel_blue1 yellow2
  dark_olive_green1 honeydew2 light_cyan1 red1 deep_pink2 deep_pink1 magenta1 orange_red1
  indian_red1 hot_pink dark_orange salmon1 light_coral pale_violet_red1 orchid2 orchid1 orange1
  sandy_brown light_salmon1 light_pink1 pink1 plum1 gold1 navajo_white1 misty_rose1 thistle1
  yellow1 light_goldenrod1 khaki1 wheat1 cornsilk1 grey100 gray100 grey3 gray3 grey7 gray7 grey11
  gray11 grey15 gray15 grey19 gray19 grey23 gray23 grey27 gray27 grey30 gray30 grey35 gray35
  grey39 gray39 grey42 gray42 grey46 gray46 grey50 gray50 grey54 gray54 grey58 gray58 grey62
  gray62 grey66 gray66 grey70 gray70 grey74 gray74 grey78 gray78 grey82 gray82 grey85 gray85
  grey89 gray89 grey93 gray93"

/-- Words between blanks. -/
def styleWords (cs : List Char) : List (List Char) :=
  let (word, words) := cs.foldr
    (fun c (word, words) => if isBlank c then ([], putWord word words) else (c :: word, words))
    ([], [])
  putWord word words

/-! ## Colours -/

/-- What stands in brackets behind a name, up to the end of the word. -/
def argument? (name : String) (word : List Char) : Option (List Char) :=
  match after? (name.toList ++ ['(']) word with
  | some rest =>
    if rest.getLast? == some ')' && rest.length ≥ 2 then some rest.dropLast else none
  | none => none

/-- One of three parts of a colour. -/
def colourPart (cs : List Char) : Except Failure Nat :=
  if cs.isEmpty then .error .noDigits
  else if cs.length > maxDigits then .error (.tooManyDigits cs.length)
  else .ok (cs.foldl (fun n c => 10 * n + (digit? c).getD 0) 0)

/-- Three parts with commas between them, each at most 255. -/
def isTriplet (cs : List Char) : Except Failure Bool :=
  if cs.all fun c => c = ',' || (digit? c).isSome then
    match pieces ',' cs with
    | [red, green, blue] => do
      let parts := [← colourPart red, ← colourPart green, ← colourPart blue]
      .ok (parts.all (· ≤ 255))
    | _ => .ok false
  else .ok false

/-- Six digits of base sixteen, with small letters. -/
def isHexColour (cs : List Char) : Bool :=
  cs.length == 6 && cs.all fun c => (hexDigit? c).isSome && !c.isUpper

/-- The number of a colour, which has up to three digits. -/
def isColourNumber (cs : List Char) : Bool :=
  1 ≤ cs.length && cs.length ≤ 3 && cs.all (fun c => (asciiDigit? c).isSome) &&
    cs.foldl (fun n c => 10 * n + (asciiDigit? c).getD 0) 0 ≤ 255

/-- A word in small letters is a colour. -/
def isColour (word : List Char) : Except Failure Bool :=
  if word = "default".toList || colourNames.contains word then .ok true
  else
    match word, argument? "color" word, argument? "rgb" word with
    | '#' :: digits, _, _ => .ok (isHexColour digits)
    | _, some number, _ => .ok (isColourNumber number)
    | _, none, some parts => isTriplet parts
    | _, none, none => .ok false

/-! ## Styles -/

/-- What a style sets. -/
structure Style where
  /-- Attributes by their place, each switched on or off. -/
  switches : List (Nat × Bool) := []
  colour : Option (List Char) := none
  background : Option (List Char) := none
  link : Option (List Char) := none
deriving DecidableEq

namespace Style

/-- Sets the attribute at a place. -/
def switch (s : Style) (place : Nat) (on : Bool) : Style :=
  { s with switches := s.switches.filter (·.1 ≠ place) ++ [(place, on)] }

/-- Reads the words of a style; none if they are no style. -/
def ofWords (s : Style) : List (List Char) → Except Failure (Option Style)
  | [] => .ok (some s)
  | first :: rest =>
    let word := lowerBehind false first
    if word = "on".toList then
      match rest with
      | [] => .ok none
      | next :: rest => do
        let colour := lowerBehind false next
        if ← isColour colour then ofWords { s with background := some colour } rest else .ok none
    else if word = "not".toList then
      match rest with
      | [] => .ok none
      | next :: rest =>
        match attribute? (String.ofList next) with
        | some a => ofWords (s.switch a false) rest
        | none => .ok none
    else if word = "link".toList then
      match rest with
      | [] => .ok none
      | next :: rest => ofWords { s with link := some next } rest
    else
      match attribute? (String.ofList word) with
      | some a => ofWords (s.switch a true) rest
      | none => do
        if ← isColour word then ofWords { s with colour := some word } rest else .ok none

/-- The words of the attribute at a place. -/
def switchWords (s : Style) (place : Nat) (names : List String) : List String :=
  match s.switches.lookup place, names with
  | some on, name :: _ => (if on then [] else ["not"]) ++ [name]
  | _, _ => []

/-- A part of a style behind a word. -/
def part (word : List String) : Option (List Char) → List String
  | some cs => word ++ [String.ofList cs]
  | none => []

/-- A style in words: its attributes in their order, its colours and its link. -/
def text (s : Style) : String :=
  let switches := (attributes.zipIdx.map fun (names, i) => s.switchWords i names).flatten
  let words := switches ++ part [] s.colour ++ part ["on"] s.background ++ part ["link"] s.link
  if words.isEmpty then "none" else join " " words

/-- The style that a text means; none if it is no style. -/
def ofText (s : String) : Except Failure (Option Style) :=
  if s = "" || strip s = "none" then .ok (some {}) else ofWords {} (styleWords s.toList)

/-- The normal form of the name of a style. -/
def normalForm (s : String) : Except Failure String :=
  (ofText s).map fun style =>
    match style with
    | some style => style.text
    | none => lower (strip s)

end Style

end RemoteModel.Screen
