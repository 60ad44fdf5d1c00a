/-!
# UTF-8

`encode` writes a text as bytes. `units` reads bytes as characters, with one gap for each
longest ill-formed beginning of a character; `decode?` accepts only what has no gap, and `shown`
puts the replacement character into each gap.

**Well-formed bytes.** A lead byte fixes the number of bytes of a character and the range of
its second byte; all further bytes are continuation bytes. The ranges exclude overlong forms,
surrogates and numbers above U+10FFFF.

**Surrogates.** A surrogate is no character, but some texts hold surrogates in bytes of their own.
`passed?` lets them pass: each is one gap in a text that is otherwise well-formed.
-/

namespace RemoteModel.Text.Utf8

/-- The bytes of one character. -/
def encodeChar (c : Char) : List UInt8 :=
  let n := c.toNat
  let tail (k : Nat) : UInt8 := UInt8.ofNat (0x80 + n / Nat.pow 64 k % 64)
  if n < 0x80 then [UInt8.ofNat n]
  else if n < 0x800 then [UInt8.ofNat (0xC0 + n / 64), tail 0]
  else if n < 0x10000 then [UInt8.ofNat (0xE0 + n / Nat.pow 64 2), tail 1, tail 0]
  else [UInt8.ofNat (0xF0 + n / Nat.pow 64 3), tail 2, tail 1, tail 0]

/-- The bytes of a text. -/
def encode (cs : List Char) : List UInt8 := cs.flatMap encodeChar

/-- A continuation byte. -/
def isTail (b : UInt8) : Bool := 0x80 ≤ b && b ≤ 0xBF

/-- The number of bytes that a lead byte announces, `0` if it cannot lead. -/
def width (a : UInt8) : Nat :=
  if a < 0x80 then 1
  else if 0xC2 ≤ a && a ≤ 0xDF then 2
  else if 0xE0 ≤ a && a ≤ 0xEF then 3
  else if 0xF0 ≤ a && a ≤ 0xF4 then 4
  else 0

/-- The second byte fits the lead byte. -/
def fits (a b : UInt8) : Bool :=
  if a == 0xE0 then 0xA0 ≤ b && b ≤ 0xBF
  else if a == 0xED then 0x80 ≤ b && b ≤ 0x9F
  else if a == 0xF0 then 0x90 ≤ b && b ≤ 0xBF
  else if a == 0xF4 then 0x80 ≤ b && b ≤ 0x8F
  else isTail b

/-- The character that a lead byte and continuation bytes stand for. -/
def assemble (base : Nat) (a : UInt8) (tails : List UInt8) : Char :=
  Char.ofNat (tails.foldl (fun n b => n * 64 + (b.toNat - 0x80)) (a.toNat - base))

/-- Reads bytes as characters, with a gap for each longest ill-formed beginning. -/
def units : List UInt8 → List (Option Char)
  | [] => []
  | a :: rest =>
    match width a with
    | 1 => some (assemble 0 a []) :: units rest
    | 2 =>
      match rest with
      | b :: rest₁ =>
        if fits a b then some (assemble 0xC0 a [b]) :: units rest₁ else none :: units (b :: rest₁)
      | [] => [none]
    | 3 =>
      match rest with
      | b :: c :: rest₂ =>
        if !fits a b then none :: units (b :: c :: rest₂)
        else if !isTail c then none :: units (c :: rest₂)
        else some (assemble 0xE0 a [b, c]) :: units rest₂
      | [b] => if fits a b then [none] else none :: units [b]
      | [] => [none]
    | 4 =>
      match rest with
      | b :: c :: d :: rest₃ =>
        if !fits a b then none :: units (b :: c :: d :: rest₃)
        else if !isTail c then none :: units (c :: d :: rest₃)
        else if !isTail d then none :: units (d :: rest₃)
        else some (assemble 0xF0 a [b, c, d]) :: units rest₃
      | [b, c] =>
        if !fits a b then none :: units [b, c] else if !isTail c then none :: units [c] else [none]
      | [b] => if fits a b then [none] else none :: units [b]
      | [] => [none]
    | _ => none :: units rest

/-- The text of well-formed bytes. -/
def decode? (bytes : List UInt8) : Option (List Char) := (units bytes).mapM id

/-- The character that stands for bytes that are none. -/
def replacement : Char := '\uFFFD'

/-- The text with the replacement character in each gap. -/
def filled (cs : List (Option Char)) : List Char := cs.map (·.getD replacement)

/-- The text of any bytes, with the replacement character in each gap. -/
def shown (bytes : List UInt8) : String := String.ofList (filled (units bytes))

/-! ## Surrogates -/

/-- Three bytes would be a surrogate if it were a character. -/
def isSurrogate (a b c : UInt8) : Bool := a == 0xED && 0xA0 ≤ b && isTail b && isTail c

/-- The bytes in front of each surrogate, and those behind the last one. -/
def runs : List UInt8 → List (List UInt8)
  | a :: b :: c :: rest =>
    if isSurrogate a b c then [] :: runs rest
    else (runs (b :: c :: rest)).modifyHead (a :: ·)
  | bytes => [bytes]

/-- The text of bytes that are well-formed but for surrogates, with a gap for each surrogate. -/
def passed? (bytes : List UInt8) : Option (List (Option Char)) :=
  ((runs bytes).mapM decode?).map fun texts => [none].intercalate (texts.map (·.map some))

end RemoteModel.Text.Utf8
