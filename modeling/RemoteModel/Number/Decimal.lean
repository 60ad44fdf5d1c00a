import RemoteModel.Number.Double

/-!
# Shortest decimal text of a double

**Which digits.** The reals that round to a double form an interval: from halfway to the
neighbour below to halfway to the neighbour above, the ends included exactly when the
significand is even. The text has the fewest digits that name a number of that interval, and of
those the ones nearest to the double. All comparisons are exact, on naturals.

**How they are laid out** is the business of `Notation`.
-/

namespace RemoteModel

/-- The decimal `digits · 10 ^ exponent`. -/
structure Decimal where
  digits : Nat
  exponent : Int
deriving DecidableEq, Repr

namespace Decimal

/-- Drops trailing zeros of the digits into the exponent. -/
def strip (fuel : Nat) (d : Decimal) : Decimal :=
  match fuel with
  | 0 => d
  | fuel + 1 =>
    if d.digits ≠ 0 ∧ d.digits % 10 = 0 then strip fuel ⟨d.digits / 10, d.exponent + 1⟩ else d

/-- The double `m · 2 ^ e` with its rounding interval, over one common denominator. -/
structure Interval where
  low : Nat
  middle : Nat
  high : Nat
  den : Nat
  closed : Bool

/--
The rounding interval of `m · 2 ^ e`. Below a power of two the neighbour is only half a step
away, unless the exponent is the least one.
-/
def interval (m : Nat) (e : Int) : Interval :=
  let narrow := m = Nat.pow 2 52 ∧ e > Double.leastExponent
  let up := if e ≥ 0 then Nat.pow 2 e.toNat else 1
  let den := 4 * (if e ≥ 0 then 1 else Nat.pow 2 (-e).toNat)
  { low := (4 * m - (if narrow then 1 else 2)) * up
    middle := 4 * m * up
    high := (4 * m + 2) * up
    den := den
    closed := m % 2 = 0 }

/-- The decimal reads back to the double of the interval. -/
def Interval.holds (i : Interval) (d : Decimal) : Bool :=
  let num := (if d.exponent ≥ 0 then d.digits * Nat.pow 10 d.exponent.toNat else d.digits) * i.den
  let scale := if d.exponent ≥ 0 then 1 else Nat.pow 10 (-d.exponent).toNat
  if i.closed then i.low * scale ≤ num && num ≤ i.high * scale
  else i.low * scale < num && num < i.high * scale

/-- The floor of the double on the grid `10 ^ g`. -/
def Interval.floor (i : Interval) (g : Int) : Nat :=
  if g ≥ 0 then i.middle / (i.den * Nat.pow 10 g.toNat)
  else i.middle * Nat.pow 10 (-g).toNat / i.den

/-- The upper neighbour on the grid is nearer; an exact tie goes to the even neighbour. -/
def Interval.prefersUpper (i : Interval) (g : Int) (n : Nat) : Bool :=
  let (twice, sum) :=
    if g ≥ 0 then (2 * i.middle, (2 * n + 1) * Nat.pow 10 g.toNat * i.den)
    else (2 * i.middle * Nat.pow 10 (-g).toNat, (2 * n + 1) * i.den)
  twice > sum || (twice == sum && n % 2 == 1)

/-- The best decimal on the grid `10 ^ g`, if one of the double's two neighbours reads back. -/
def Interval.onGrid? (i : Interval) (g : Int) : Option Decimal :=
  let n := i.floor g
  let below : Decimal := ⟨n, g⟩
  let above : Decimal := ⟨n + 1, g⟩
  match i.holds below, i.holds above with
  | true, true => some (if i.prefersUpper g n then above else below)
  | true, false => some below
  | false, true => some above
  | false, false => none

/-- The least `k` not below the guess with `middle / den < 10 ^ k`. -/
def Interval.scaleFrom (i : Interval) : Nat → Int → Int
  | 0, k => k
  | fuel + 1, k => if i.floor k = 0 then k else scaleFrom i fuel (k + 1)

/-- Looks through the grids of one digit, two digits and so on. -/
def Interval.search (i : Interval) (top : Int) : Nat → Nat → Option Decimal
  | 0, _ => none
  | fuel + 1, n =>
    match i.onGrid? (top - n) with
    | some d => some d
    | none => search i top fuel (n + 1)

/-- The shortest decimal of the double `m · 2 ^ e`, for a significand that is not zero. -/
def shortest (m : Nat) (e : Int) : Decimal :=
  let i := interval m e
  -- The binary logarithm times 0.3 is below the decimal logarithm by at most a few units.
  let bits : Int := (m.log2 : Int) + e
  let guess := if bits ≥ 0 then bits * 3 / 10 - 1 else bits * 31 / 100 - 2
  let top := i.scaleFrom 64 guess
  match i.search top 17 1 with
  | some d => strip 20 d
  | none => ⟨i.floor (-1100), -1100⟩

end Decimal

/-- How the digits of a number are laid out. -/
structure Notation where
  /-- The least exponent of the leading digit that is written positionally. -/
  leastPositional : Int
  /-- The first exponent of the leading digit that is no longer written positionally. -/
  firstScientific : Int
  /-- The least number of digits of a written exponent. -/
  exponentDigits : Nat
  infinity : String
  nan : String

namespace Notation

/-- Puts zeros in front of a text until it has the given width. -/
def pad (width : Nat) (text : List Char) : List Char :=
  List.replicate (width - text.length) '0' ++ text

def exponentText (n : Notation) (e : Int) : List Char :=
  (if e < 0 then '-' else '+') :: pad n.exponentDigits (Nat.toDigits 10 e.natAbs)

/-- The text of a positive decimal. A whole number keeps the fraction `.0`. -/
def layout (n : Notation) (d : Decimal) : List Char :=
  let digits := Nat.toDigits 10 d.digits
  let lead : Int := d.exponent + digits.length - 1
  if n.leastPositional ≤ lead ∧ lead < n.firstScientific then
    if lead < 0 then '0' :: '.' :: (List.replicate (-lead - 1).toNat '0' ++ digits)
    else
      let whole := digits.take (lead.toNat + 1)
      let fraction := digits.drop (lead.toNat + 1)
      whole ++ List.replicate (lead.toNat + 1 - whole.length) '0' ++
        '.' :: (if fraction.isEmpty then ['0'] else fraction)
  else
    let mantissa :=
      match digits with
      | [] => []
      | c :: [] => [c]
      | c :: rest => c :: '.' :: rest
    mantissa ++ 'e' :: n.exponentText lead

/-- The text of a double. -/
def text (n : Notation) : Double → List Char
  | .nan => n.nan.toList
  | .infinite negative => (if negative then ['-'] else []) ++ n.infinity.toList
  | .finite negative m e =>
    (if negative then ['-'] else []) ++
      (if m = 0 then ['0', '.', '0'] else n.layout (Decimal.shortest m e))

/--
Numbers are written positionally from 0.0001 up to below 10^16, else with a signed exponent of
at least two digits.
-/
def plain : Notation :=
  { leastPositional := -4, firstScientific := 16, exponentDigits := 2,
    infinity := "inf", nan := "nan" }

end Notation

end RemoteModel
