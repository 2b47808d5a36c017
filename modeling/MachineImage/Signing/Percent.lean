import MachineImage.Text.Utf8
import MachineImage.Text.Decimal

/-!
Percent-encoding, which leaves only the unreserved characters as they are.
-/
namespace MachineImage.Percent

/-- `A`–`Z`, `a`–`z`, `0`–`9`, `-`, `_`, `.` and `~`. -/
def isUnreserved (o : UInt8) : Bool :=
  (0x41 ≤ o && o ≤ 0x5A) || (0x61 ≤ o && o ≤ 0x7A) || (0x30 ≤ o && o ≤ 0x39) || o == 0x2D ||
    o == 0x5F || o == 0x2E || o == 0x7E

def encodeOctet (o : UInt8) : Text :=
  if isUnreserved o then [Char.ofNat o.toNat]
  else ['%', Hex.upperDigit (o.toNat / 16), Hex.upperDigit (o.toNat % 16)]

def encode (s : Text) : Text := (Utf8.encode s).flatMap encodeOctet

/-- Each segment of a path by itself; the empty path is the root. -/
def encodePath (path : Text) : Text :=
  if path = [] then ['/'] else ['/'].intercalate ((Text.split (· == '/') path).map encode)

end MachineImage.Percent
