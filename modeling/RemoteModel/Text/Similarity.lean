/-!
# Similar words

Two words are as similar as the characters that they share in order: the longest common block
counts, and so does what is shared before it and after it. The similarity is twice the number of
shared characters, divided by the length of both words.

`closest` finds the most similar of some words. Of two longest blocks the one that starts first
counts, in the first word and then in the second one.
-/

namespace RemoteModel.Text.Similarity

/-- How many characters two texts begin with in common. -/
def common : List Char → List Char → Nat
  | a :: as, b :: bs => if a = b then common as bs + 1 else 0
  | _, _ => 0

/-- A block of characters that two texts share: its places and its length. -/
structure Block where
  first : Nat := 0
  second : Nat := 0
  length : Nat := 0
deriving DecidableEq, Repr

/-- The longer of two blocks; the first one if they are equally long. -/
def Block.longer (x y : Block) : Block := if x.length < y.length then y else x

/-- The longest block at some place of the first text. -/
def blockAt (i : Nat) (as bs : List Char) : Block :=
  (List.range bs.length).foldl (fun best j => best.longer ⟨i, j, common as (bs.drop j)⟩) {}

/-- The longest block that two texts share. -/
def longest (as bs : List Char) : Block :=
  ((List.range as.length).map fun i => blockAt i (as.drop i) bs).foldl Block.longer {}

/-- The number of shared characters; each step looks at shorter texts. -/
def sharedIn : Nat → List Char → List Char → Nat
  | 0, _, _ => 0
  | fuel + 1, as, bs =>
    let block := longest as bs
    if block.length = 0 then 0
    else
      block.length + sharedIn fuel (as.take block.first) (bs.take block.second) +
        sharedIn fuel (as.drop (block.first + block.length)) (bs.drop (block.second + block.length))

/-- The number of shared characters. -/
def shared (as bs : List Char) : Nat := sharedIn (as.length + 1) as bs

/-- A word with the number of characters that it shares and the length of both words. -/
structure Score where
  shared : Nat
  total : Nat
  word : String
deriving DecidableEq, Repr

/-- The score of a word; two empty words are the same. -/
def score (wanted word : String) : Score :=
  let total := wanted.length + word.length
  if total = 0 then ⟨1, 2, word⟩ else ⟨shared word.toList wanted.toList, total, word⟩

/-- The first word is more similar, or comes later in the alphabet. -/
def better (x y : Score) : Bool :=
  x.shared * y.total > y.shared * x.total ||
    (x.shared * y.total == y.shared * x.total && y.word < x.word)

/-- Puts a score in its place among better and worse ones. -/
def place (x : Score) : List Score → List Score
  | [] => [x]
  | y :: rest => if better x y then x :: y :: rest else y :: place x rest

/-- At most `count` words with a similarity of at least `percent` hundredths, the best first. -/
def closest (count percent : Nat) (wanted : String) (words : List String) : List String :=
  let scores := (words.map (score wanted)).filter fun s => 200 * s.shared ≥ percent * s.total
  ((scores.foldr place []).take count).map Score.word

end RemoteModel.Text.Similarity
