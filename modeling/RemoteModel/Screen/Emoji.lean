import RemoteModel.Screen.EmojiNames
import RemoteModel.Text.Letters

/-!
# Emoji

A name between two colons stands for a picture. Letter case does not matter, and a name that
nobody knows stays as it is written. Behind the name a hyphen and a word may say whether the
picture is to be shown in colours or as a plain sign.
-/

namespace RemoteModel.Screen.Emoji

open Text

/-! ## Pictures -/

/-- The tones of skin, each with the sign that gives it to a picture. -/
def tones : List (String × Nat) := [
  ("_light_skin_tone", 0x1F3FB), ("_medium-light_skin_tone", 0x1F3FC),
  ("_medium_skin_tone", 0x1F3FD), ("_medium-dark_skin_tone", 0x1F3FE),
  ("_dark_skin_tone", 0x1F3FF)]

/-- The signs that ask for a plain sign and for colours. -/
def plainSign : Char := Char.ofNat 0xFE0E

def colourSign : Char := Char.ofNat 0xFE0F

/-- The beginning of a text before its given end. -/
def before? (ending cs : List Char) : Option (List Char) :=
  (after? ending.reverse cs.reverse).map List.reverse

/-- A picture with a tone: its sign follows the first one, instead of a request for colours. -/
def withTone (tone : Nat) : List Char → List Char
  | [] => []
  | c :: rest => c :: Char.ofNat tone :: if rest.head? == some colourSign then rest.drop 1 else rest

/-- A picture whose name ends with a tone of skin. -/
def tonedPicture? (name : List Char) : Option (List Char) :=
  tones.findSome? fun (ending, tone) =>
    (before? ending.toList name).bind fun base => (toned.lookup base).map (withTone tone)

/-- The flag of a region: each letter of its code has a sign. -/
def flag (code : List Char) : List Char := code.map fun c => Char.ofNat (0x1F1E6 + (c.toNat - 0x61))

/-- A flag, by the name of its region; some need a word in front of it. -/
def flag? (name : List Char) : Option (List Char) :=
  match after? "flag_for_".toList name with
  | some region => (regions.lookup region).map flag
  | none => if flagOnly.contains name then none else (regions.lookup name).map flag

/-- The picture of a name in small letters. -/
def picture? (name : List Char) : Option (List Char) :=
  (plain.lookup name).or ((toned.lookup name).or ((flag? name).or (tonedPicture? name)))

/-! ## Names in a text -/

/-- The name up to the next colon, if no blank is before it, and the rest behind the colon. -/
def nameUpTo? : List Char → Option (List Char × List Char)
  | [] => none
  | c :: rest =>
    if c = ':' then some ([], rest)
    else if isBlank c then none
    else (nameUpTo? rest).map fun (name, rest) => (c :: name, rest)

/-- A name without the word that asks for a form, and the sign of that form. -/
def splitForm (name : List Char) : List Char × List Char :=
  match before? "-emoji".toList name, before? "-text".toList name with
  | some base, _ => (base, [colourSign])
  | none, some base => (base, [plainSign])
  | none, none => (name, [])

/-- What stands for a name between colons. -/
def shown (name : List Char) : List Char :=
  let (base, form) := splitForm name
  match picture? (lowerBehind false base) with
  | some picture => picture ++ form
  | none => ':' :: name ++ [':']

/-- Replaces names, each of which takes at least one character. -/
def replaceIn : Nat → List Char → List Char
  | _, [] => []
  | 0, cs => cs
  | fuel + 1, c :: rest =>
    if c = ':' then
      match nameUpTo? rest with
      | some (name, rest) => shown name ++ replaceIn fuel rest
      | none => c :: replaceIn fuel rest
    else c :: replaceIn fuel rest

/-- A text with its names of pictures replaced. -/
def replace (cs : List Char) : List Char := replaceIn cs.length cs

end RemoteModel.Screen.Emoji
