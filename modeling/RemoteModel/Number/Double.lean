/-!
# Double-precision numbers

Numbers with a fraction are held exactly: a finite double is `± significand · 2 ^ exponent`.
All arithmetic on them is exact arithmetic on naturals, so two doubles can be told apart and
compared with integers without rounding.

**Canonical form.** A significand has at most 53 bits, and it has fewer only at the least
exponent, `-1074`. `Double.ofQuotient` builds canonical numbers only, and rounds to the nearest
one, a tie going to the even significand.
-/

namespace RemoteModel

/-- A double-precision number; a zero has a sign. -/
inductive Double where
  | finite (negative : Bool) (significand : Nat) (exponent : Int)
  | infinite (negative : Bool)
  | nan
deriving DecidableEq, Inhabited, Repr

namespace Double

/-- The least exponent of a finite number. -/
def leastExponent : Int := -1074

/-- The greatest exponent of a finite number. -/
def greatestExponent : Int := 971

def zero : Double := .finite false 0 leastExponent

/-- The quotient rounded to the nearest natural number, a tie going to the even one. -/
def divRound (num den : Nat) : Nat :=
  let q := num / den
  let twice := 2 * (num % den)
  if twice > den || (twice == den && q % 2 == 1) then q + 1 else q

/-- The quotient scaled by `2 ^ (-e)` as a pair of naturals. -/
def scaled (num den : Nat) (e : Int) : Nat × Nat :=
  if e ≥ 0 then (num, den * Nat.pow 2 e.toNat) else (num * Nat.pow 2 (-e).toNat, den)

/-- The exponent of the greatest power of two that is at most `num / den`. -/
def log2Quotient (num den : Nat) : Int :=
  let e : Int := (num.log2 : Int) - den.log2
  let (n, d) := scaled num den e
  if n < d then e - 1 else e

/-- The double nearest to `± num / den`. -/
def ofQuotient (negative : Bool) (num den : Nat) : Double :=
  if num = 0 then .finite negative 0 leastExponent
  else
    let e := max leastExponent (log2Quotient num den - 52)
    let (n, d) := scaled num den e
    let m := divRound n d
    let (m, e) := if m = Nat.pow 2 53 then (Nat.pow 2 52, e + 1) else (m, e)
    if e > greatestExponent then .infinite negative else .finite negative m e

/-- The number of decimal digits of a natural number, `0` for zero. -/
def digitCount (n : Nat) : Nat := if n = 0 then 0 else (Nat.toDigits 10 n).length

/--
The double nearest to `± digits · 10 ^ exponent`. An exponent that is certainly out of range is
answered without computing the power.
-/
def ofDecimal (negative : Bool) (digits : Nat) (exponent : Int) : Double :=
  let magnitude := (digitCount digits : Int) + exponent
  if digits = 0 || magnitude < -400 then .finite negative 0 leastExponent
  else if magnitude > 400 then .infinite negative
  else if exponent ≥ 0 then ofQuotient negative (digits * Nat.pow 10 exponent.toNat) 1
  else ofQuotient negative digits (Nat.pow 10 (-exponent).toNat)

/-- The double nearest to an integer, if it is finite. -/
def ofInt? (n : Int) : Option Double :=
  match ofQuotient (n < 0) n.natAbs 1 with
  | .infinite _ => none
  | x => some x

def signed (negative : Bool) (n : Nat) : Int := if negative then -(n : Int) else n

/-- The integer a number is equal to, if there is one. -/
def toInt? : Double → Option Int
  | .finite negative m e =>
    if e ≥ 0 then some (signed negative (m * Nat.pow 2 e.toNat))
    else if m % Nat.pow 2 (-e).toNat = 0 then some (signed negative (m / Nat.pow 2 (-e).toNat))
    else none
  | _ => none

def isZero : Double → Bool
  | .finite _ m _ => m == 0
  | _ => false

def isFinite : Double → Bool
  | .finite _ _ _ => true
  | _ => false

/-- Two numbers are the same number: zeros of both signs are, and nothing is the same as `nan`. -/
def same (x y : Double) : Bool :=
  match x, y with
  | .nan, _ => false
  | _, .nan => false
  | x, y => (x.isZero && y.isZero) || x == y

/-- A number that is zero or less. -/
def isNonPositive : Double → Bool
  | .finite negative m _ => negative || m == 0
  | .infinite negative => negative
  | .nan => false

end Double

end RemoteModel
