import MachineImage.Text.Basic

/-!
UTF-8: the octets of a text, and an automaton that reads octets back. Octets that no character can
begin with or go on with are kept apart as damage, one piece for each longest run that could still
have become a character.
-/
namespace MachineImage.Utf8

/-- One to four octets, by the size of the code point. -/
def encodeChar (c : Char) : Octets :=
  let n := c.toNat
  if n < 0x80 then [UInt8.ofNat n]
  else if n < 0x800 then [UInt8.ofNat (0xC0 + n / 64), UInt8.ofNat (0x80 + n % 64)]
  else if n < 0x10000 then
    [UInt8.ofNat (0xE0 + n / 4096), UInt8.ofNat (0x80 + n / 64 % 64), UInt8.ofNat (0x80 + n % 64)]
  else
    [UInt8.ofNat (0xF0 + n / 262144), UInt8.ofNat (0x80 + n / 4096 % 64),
      UInt8.ofNat (0x80 + n / 64 % 64), UInt8.ofNat (0x80 + n % 64)]

def encode (s : Text) : Octets := s.flatMap encodeChar

/-- A character begun: the octets it still needs, the range of the next one, its bits so far. -/
structure Begun where
  owed : Nat
  least : Nat
  greatest : Nat
  bits : Nat

/-- A character, or damage where there is none. -/
abbrev Piece := Option Char

/-- The octet `b` between two characters. -/
def first (b : Nat) : List Piece × Option Begun :=
  if b < 0x80 then ([some (Char.ofNat b)], none)
  else if 0xC2 ≤ b ∧ b ≤ 0xDF then ([], some ⟨1, 0x80, 0xBF, b - 0xC0⟩)
  else if 0xE0 ≤ b ∧ b ≤ 0xEF then
    ([], some ⟨2, if b = 0xE0 then 0xA0 else 0x80, if b = 0xED then 0x9F else 0xBF, b - 0xE0⟩)
  else if 0xF0 ≤ b ∧ b ≤ 0xF4 then
    ([], some ⟨3, if b = 0xF0 then 0x90 else 0x80, if b = 0xF4 then 0x8F else 0xBF, b - 0xF0⟩)
  else ([none], none)

/-- The octet `b` inside a character; one out of range ends the character as damage and stands
between two characters itself. -/
def continued (g : Begun) (b : Nat) : List Piece × Option Begun :=
  if g.least ≤ b ∧ b ≤ g.greatest then
    let bits := g.bits * 64 + (b - 0x80)
    if g.owed = 1 then ([some (Char.ofNat bits)], none)
    else ([], some ⟨g.owed - 1, 0x80, 0xBF, bits⟩)
  else
    let (pieces, begun) := first b
    (none :: pieces, begun)

/-- Reads one octet; the pieces so far stand last first. -/
def step (state : List Piece × Option Begun) (b : UInt8) : List Piece × Option Begun :=
  let (pieces, begun) := match state.2 with
    | none => first b.toNat
    | some g => continued g b.toNat
  (pieces.reverse ++ state.1, begun)

/-- All characters and all damage in the octets, in order; a character cut off by the end is
damage too. -/
def pieces (b : Octets) : List Piece :=
  match b.foldl step ([], none) with
  | (seen, none) => seen.reverse
  | (seen, some _) => (none :: seen).reverse

/-- The text that the octets encode, if they are UTF-8 throughout. -/
def decode? (b : Octets) : Option Text :=
  let read := pieces b
  if read.all Option.isSome then some (read.filterMap id) else none

/-- The text with U+FFFD for each piece of damage. -/
def decodeLossy (b : Octets) : Text := (pieces b).map (·.getD '\uFFFD')

end MachineImage.Utf8
