import MachineImage.Text.Basic

/-!
Numbers as text: decimal digits and fixed-width hexadecimal ones.
-/
namespace MachineImage.Decimal

def digits (n : Nat) : Text := Nat.toDigits 10 n

theorem digits_injective {m n : Nat} (h : digits m = digits n) : m = n := by
  have hread := congrArg (Nat.ofDigitChars 10 · 0) h
  simpa only [digits, Nat.ofDigitChars_ten_toDigits] using hread

/-- The digits, with zeros in front up to `width` characters. -/
def padded (width n : Nat) : Text :=
  List.replicate (width - (digits n).length) '0' ++ digits n

def digit? (c : Char) : Option Nat :=
  if '0' ≤ c ∧ c ≤ '9' then some (c.toNat - '0'.toNat) else none

/-- The number that the digits after `value` make, given up once it reaches `bound`. -/
def readFrom (bound value : Nat) : Text → Option Nat
  | [] => some value
  | c :: s => (digit? c).bind fun d =>
    if value * 10 + d < bound then readFrom bound (value * 10 + d) s else none

/-- The number below `bound` that one or more ASCII digits denote. -/
def readDigitsBelow? (bound : Nat) (s : Text) : Option Nat :=
  if s.isEmpty then none else readFrom bound 0 s

/-- The number below `bound` that one or more ASCII digits denote, with a plus sign or without. -/
def readBelow? (bound : Nat) (s : Text) : Option Nat :=
  readDigitsBelow? bound (if s.head? = some '+' then s.drop 1 else s)

end MachineImage.Decimal

namespace MachineImage.Hex

/-- The value of a digit in either case. -/
def digit? (c : Char) : Option Nat :=
  if '0' ≤ c ∧ c ≤ '9' then some (c.toNat - '0'.toNat)
  else if 'a' ≤ c ∧ c ≤ 'f' then some (c.toNat - 'a'.toNat + 10)
  else if 'A' ≤ c ∧ c ≤ 'F' then some (c.toNat - 'A'.toNat + 10)
  else none

def lowerDigit (n : Nat) : Char := Nat.digitChar n

def upperDigit (n : Nat) : Char := (Nat.digitChar n).toUpper

/-- Two lower-case digits for each octet. -/
def encode (b : Octets) : Text :=
  b.flatMap fun o => [lowerDigit (o.toNat / 16), lowerDigit (o.toNat % 16)]

end MachineImage.Hex
