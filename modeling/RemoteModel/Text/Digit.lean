/-!
# Decimal digits

The Unicode property of being a decimal digit comes in runs of ten code points, from a zero to
a nine. The table lists the zeros.
-/

namespace RemoteModel.Text

/-- The code points of the decimal zeros of all scripts, in ascending order. -/
def zeros : List Nat := [
  0x0030, 0x0660, 0x06F0, 0x07C0, 0x0966, 0x09E6, 0x0A66, 0x0AE6, 0x0B66, 0x0BE6, 0x0C66,
  0x0CE6, 0x0D66, 0x0DE6, 0x0E50, 0x0ED0, 0x0F20, 0x1040, 0x1090, 0x17E0, 0x1810, 0x1946,
  0x19D0, 0x1A80, 0x1A90, 0x1B50, 0x1BB0, 0x1C40, 0x1C50, 0xA620, 0xA8D0, 0xA900, 0xA9D0,
  0xA9F0, 0xAA50, 0xABF0, 0xFF10, 0x104A0, 0x10D30, 0x11066, 0x110F0, 0x11136, 0x111D0,
  0x112F0, 0x11450, 0x114D0, 0x11650, 0x116C0, 0x11730, 0x118E0, 0x11950, 0x11C50, 0x11D50,
  0x11DA0, 0x16A60, 0x16AC0, 0x16B50, 0x1D7CE, 0x1D7D8, 0x1D7E2, 0x1D7EC, 0x1D7F6, 0x1E140,
  0x1E2F0, 0x1E950, 0x1FBF0]

/-- The digit a code point stands for, in one run. -/
def digitFrom? (n first : Nat) : Option Nat :=
  if first ≤ n ∧ n < first + 10 then some (n - first) else none

/-- The value of a decimal digit of any script. -/
def digit? (c : Char) : Option Nat := zeros.findSome? (digitFrom? c.toNat)

/-- The value of one of the digits `0` to `9`. -/
def asciiDigit? (c : Char) : Option Nat := digitFrom? c.toNat 0x30

/-- The value of a digit of a number in base sixteen. -/
def hexDigit? (c : Char) : Option Nat :=
  let n := c.toNat
  if 0x30 ≤ n ∧ n ≤ 0x39 then some (n - 0x30)
  else if 0x41 ≤ n ∧ n ≤ 0x46 then some (n - 0x41 + 10)
  else if 0x61 ≤ n ∧ n ≤ 0x66 then some (n - 0x61 + 10)
  else none

theorem digit?_of_asciiDigit? {c : Char} {d : Nat} (h : asciiDigit? c = some d) :
    digit? c = some d := by
  have hd : digitFrom? c.toNat 0x30 = some d := h
  simp [digit?, zeros, hd]

end RemoteModel.Text
