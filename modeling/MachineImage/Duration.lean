import MachineImage.Text.Decimal

/-!
Lengths of time, counted in milliseconds, and their text.
-/
namespace MachineImage

structure Duration where
  milliseconds : Nat
  deriving DecidableEq, Repr

namespace Duration

def ofSeconds (n : Nat) : Duration := ⟨n * 1000⟩

/-- Seconds with the decimals that are needed, or milliseconds below one second; nothing at all is
`0ns`. -/
def text (d : Duration) : Text :=
  let whole := d.milliseconds / 1000
  let part := d.milliseconds % 1000
  if whole = 0 then
    if part = 0 then "0ns".toList else Decimal.digits part ++ "ms".toList
  else
    let decimals := ((Decimal.padded 3 part).reverse.dropWhile (· == '0')).reverse
    Decimal.digits whole ++ (if decimals.isEmpty then [] else '.' :: decimals) ++ ['s']

end Duration

end MachineImage
